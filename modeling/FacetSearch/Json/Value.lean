import FacetSearch.Json.Number

/-!
# JSON values

An object keeps its members in the order of the text and all of them, also where two have one name:
whether a name may come twice is for the reader of the object to say. A text can hold strings that
are no sequence of characters. They too are values, so that they may stand where nothing reads
them.
-/

namespace FacetSearch

inductive Json where
  | null
  | bool (value : Bool)
  | number (value : Json.Number)
  | string (value : String)
  | array (items : List Json)
  | object (members : List (String × Json))
  /-- A string in which an escape stands for no character, or an object one of whose names is such a
  string. -/
  | unreadable
deriving Repr, Inhabited

namespace Json

def ofNat (n : Nat) : Json := .number (.ofNat n)

def ofStrings (texts : List String) : Json := .array (texts.map .string)

def ofOption (text : Option String) : Json := (text.map .string).getD .null

/-! ## Bounds -/

mutual

/-- Every string can be read, a double can hold every number, and no more than `depth` arrays and
objects stand inside each other. -/
def within (depth : Nat) : Json → Bool
  | .number n => n.fitsDouble
  | .array items => 0 < depth && itemsWithin (depth - 1) items
  | .object members => 0 < depth && membersWithin (depth - 1) members
  | .unreadable => false
  | _ => true

def itemsWithin (depth : Nat) : List Json → Bool
  | [] => true
  | item :: rest => item.within depth && itemsWithin depth rest

def membersWithin (depth : Nat) : List (String × Json) → Bool
  | [] => true
  | (_, value) :: rest => value.within depth && membersWithin depth rest

end

/-! ## Writing -/

/-- The lower-case hexadecimal digit of a number below 16. -/
def hexChar (n : Nat) : Char :=
  if n < 10 then Char.ofNat ('0'.toNat + n) else Char.ofNat ('a'.toNat + (n - 10))

/-- One character inside a string: a quote, a backslash and control characters are escaped. -/
def escape (c : Char) : List Char :=
  if c = '"' then ['\\', '"']
  else if c = '\\' then ['\\', '\\']
  else if c.toNat < 0x20 then
    ['\\', 'u', '0', '0', hexChar (c.toNat / 16), hexChar (c.toNat % 16)]
  else [c]

def quote (text : String) : String :=
  String.ofList ('"' :: text.toList.flatMap escape ++ ['"'])

mutual

/-- The text of a value, without white space. For a string that cannot be read, the shortest is
written. -/
def render : Json → String
  | .null => "null"
  | .bool true => "true"
  | .bool false => "false"
  | .number n => n.render
  | .string text => quote text
  | .array items => "[" ++ renderItems items ++ "]"
  | .object members => "\x7b" ++ renderMembers members ++ "\x7d"
  | .unreadable => "\"\\ud800\""

def renderItems : List Json → String
  | [] => ""
  | [item] => item.render
  | item :: rest => item.render ++ "," ++ renderItems rest

def renderMembers : List (String × Json) → String
  | [] => ""
  | [(name, value)] => quote name ++ ":" ++ value.render
  | (name, value) :: rest => quote name ++ ":" ++ value.render ++ "," ++ renderMembers rest

end

end Json

end FacetSearch
