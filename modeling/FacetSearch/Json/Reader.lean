import FacetSearch.Json.Lexeme
import FacetSearch.Json.Value

/-!
# Reading JSON

A value is read lexeme by lexeme. What has been opened and not yet closed stands on a stack, so the
depth of a text is no matter here.
-/

namespace FacetSearch.Json

/-- An array or object whose end has not come. What it holds so far stands last first. -/
inductive Unfinished where
  | array (items : List Json)
  /-- An object of which the value under `name` is being read. A name is `none` if it is no sequence
  of characters. -/
  | object (members : List (Option String × Json)) (name : Option String)

def ofString (text : Option String) : Json := (text.map .string).getD .unreadable

/-- The object with these members, if all their names can be read. -/
def ofMembers (members : List (Option String × Json)) : Json :=
  match members.mapM fun member => member.1.map fun name => (name, member.2) with
  | some members => .object members
  | none => .unreadable

/-- What has been read so far, and with it what may come next. -/
inductive Reading where
  /-- A value comes, or, where an array has just been opened, its end. -/
  | expectValue (opened : List Unfinished) (orEnd : Bool)
  /-- The name of a member comes, or, where the object has just been opened, its end. -/
  | expectName (members : List (Option String × Json)) (opened : List Unfinished) (orEnd : Bool)
  /-- The colon behind a name comes. -/
  | expectColon (members : List (Option String × Json)) (name : Option String)
      (opened : List Unfinished)
  /-- A value is complete. Within an array or object a comma or its end comes. -/
  | complete (value : Json) (opened : List Unfinished)

namespace Reading

def start : Reading := .expectValue [] false

/-- The reading after one more lexeme, if the lexeme may come. -/
def next? : Reading → Lexeme → Option Reading
  | .expectValue opened _, .null => some (.complete .null opened)
  | .expectValue opened _, .bool b => some (.complete (.bool b) opened)
  | .expectValue opened _, .number n => some (.complete (.number n) opened)
  | .expectValue opened _, .string s => some (.complete (ofString s) opened)
  | .expectValue opened _, .openArray => some (.expectValue (.array [] :: opened) true)
  | .expectValue opened _, .openObject => some (.expectName [] opened true)
  | .expectValue (.array [] :: opened) true, .closeArray => some (.complete (.array []) opened)
  | .expectName members opened _, .string name => some (.expectColon members name opened)
  | .expectName [] opened true, .closeObject => some (.complete (.object []) opened)
  | .expectColon members name opened, .colon =>
    some (.expectValue (.object members name :: opened) false)
  | .complete v (.array items :: opened), .comma =>
    some (.expectValue (.array (v :: items) :: opened) false)
  | .complete v (.array items :: opened), .closeArray =>
    some (.complete (.array (v :: items).reverse) opened)
  | .complete v (.object members name :: opened), .comma =>
    some (.expectName ((name, v) :: members) opened false)
  | .complete v (.object members name :: opened), .closeObject =>
    some (.complete (ofMembers ((name, v) :: members).reverse) opened)
  | _, _ => none

def value? : Reading → Option Json
  | .complete v [] => some v
  | _ => none

end Reading

/-- The value of a JSON text. The text holds one value and, around it, white space at most. -/
def parse? (text : String) : Option Json := do
  (← (← lexemes? text.toList).foldlM Reading.next? Reading.start).value?

end FacetSearch.Json
