import FacetSearch.Json.Value

/-!
# Fields of JSON values

How records are read. A record is an object, whose members may come in any order and among members
of other names, or an array with the fields in their order, of which the last ones may be missing. A
field must not be given twice.
-/

namespace FacetSearch.Json

/-! ## Plain values -/

def string? : Json → Option String
  | .string text => some text
  | _ => none

def bool? : Json → Option Bool
  | .bool b => some b
  | _ => none

def natural64? : Json → Option UInt64
  | .number n => n.natural64?
  | _ => none

def array? : Json → Option (List Json)
  | .array items => some items
  | _ => none

def listOf? {α : Type} (read? : Json → Option α) (value : Json) : Option (List α) := do
  (← value.array?).mapM read?

def nullable? {α : Type} (read? : Json → Option α) : Json → Option (Option α)
  | .null => some none
  | value => (read? value).map some

/-! ## Records -/

/-- The fields of these names that a record gives, each with its value. -/
def fields? (names : List String) : Json → Option (List (String × Json))
  | .object members =>
    let given := members.filter fun member => names.contains member.1
    if (given.map (·.1)).Nodup then some given else none
  | .array items => if items.length ≤ names.length then some (names.zip items) else none
  | _ => none

def required? {α : Type} (fields : List (String × Json)) (name : String)
    (read? : Json → Option α) : Option α :=
  (fields.lookup name).bind read?

/-- A field with a value of its own where it is not given. -/
def optional? {α : Type} (fields : List (String × Json)) (name : String) (absent : α)
    (read? : Json → Option α) : Option α :=
  match fields.lookup name with
  | none => some absent
  | some value => read? value

end FacetSearch.Json
