import FacetSearch.Json.Fields
import FacetSearch.Term

/-!
# Terms as JSON

A term is an object whose member `type` is the label of its facet and whose member `value` is its
value. What is not set is left out: `excluded` unless it is true, the attributes and the text of a
node match where it has none. An empty map of attributes is written, for it is not the same as none.
-/

namespace FacetSearch

/-! ## Attributes, node matches, heading focuses -/

namespace Attributes

def toJson (attributes : Attributes) : Json :=
  .object (attributes.entries.map fun entry => (entry.1, .string entry.2))

/-- Reads a map of texts. Here a name may come twice, and the later value counts. -/
def ofJson? : Json → Option Attributes
  | .object members => do
    some (ofList (← members.mapM fun member => (member.2.string?).map (member.1, ·)))
  | _ => none

end Attributes

namespace NodeMatch

def fieldNames : List String := ["type", "attributes", "text"]

def toJson (node : NodeMatch) : Json :=
  .object (("type", .string node.nodeType) ::
    (node.attributes.map fun attributes => ("attributes", attributes.toJson)).toList ++
    (node.text.map fun text => ("text", .string text)).toList)

def ofJson? (value : Json) : Option NodeMatch := do
  let fields ← value.fields? fieldNames
  some
    { nodeType := ← Json.required? fields "type" Json.string?
      attributes := ← Json.optional? fields "attributes" none (Json.nullable? Attributes.ofJson?)
      text := ← Json.optional? fields "text" none (Json.nullable? Json.string?) }

end NodeMatch

namespace HeadingDepth

def toJson (depth : HeadingDepth) : Json := .string depth.name

/-- Reads a depth by its name, which may also be the one member of an object, with nothing in it. -/
def ofJson? : Json → Option HeadingDepth
  | .string name => ofName? name
  | .object [(name, .null)] => ofName? name
  | .object [(name, .object [])] => ofName? name
  | _ => none

end HeadingDepth

namespace HeadingFocus

def fieldNames : List String := ["type", "content", "depth"]

def toJson (focus : HeadingFocus) : Json :=
  .object
    [ ("type", .string focus.nodeType), ("content", .string focus.content),
      ("depth", focus.depth.toJson) ]

def ofJson? (value : Json) : Option HeadingFocus := do
  let fields ← value.fields? fieldNames
  some
    { nodeType := ← Json.required? fields "type" Json.string?
      content := ← Json.required? fields "content" Json.string?
      depth := ← Json.required? fields "depth" HeadingDepth.ofJson? }

end HeadingFocus

/-! ## Terms -/

namespace Term

/-- The most arrays and objects that may stand inside each other in the text of a term. -/
def maxDepth : Nat := 127

def toJson : Term → Json
  | matching field value excluded =>
    .object ([("type", .string (Facet.field field).label), ("value", .string value)] ++
      if excluded then [("excluded", .bool true)] else [])
  | cursor id => .object [("type", .string (Facet.slot .before).label), ("value", .string id)]
  | date text => .object [("type", .string (Facet.slot .date).label), ("value", .string text)]
  | node pattern =>
    .object [("type", .string (Facet.slot .node).label), ("value", pattern.toJson)]
  | heading focus =>
    .object [("type", .string (Facet.slot .heading).label), ("value", focus.toJson)]

def facetOfType? (label : String) : Option Facet :=
  Facet.all.find? (·.label = label)

/-- Takes the type of a term off: from an object the member of this name, from an array the first
item. -/
def untag? : Json → Option (String × Json)
  | .object members =>
    match members.filter (·.1 = "type") with
    | [(_, .string label)] => some (label, .object members)
    | _ => none
  | .array (.string label :: fields) => some (label, .array fields)
  | _ => none

/-- Reads the fields of a term of this facet. Only fields know exclusion. -/
def ofFields? (facet : Facet) (value : Json) : Option Term :=
  match facet with
  | .field field => do
    let fields ← value.fields? ["value", "excluded"]
    some (matching field (← Json.required? fields "value" Json.string?)
      (← Json.optional? fields "excluded" false Json.bool?))
  | .slot slot => do
    let fields ← value.fields? ["value"]
    match slot with
    | .before => (Json.required? fields "value" Json.string?).map cursor
    | .date => (Json.required? fields "value" Json.string?).map date
    | .node => (Json.required? fields "value" NodeMatch.ofJson?).map node
    | .heading => (Json.required? fields "value" HeadingFocus.ofJson?).map heading

/-- Reads a term. The value is taken as it is: none of the rules for typed terms apply. -/
def ofJson? (value : Json) : Option Term := do
  let (label, fields) ← untag? value
  ofFields? (← facetOfType? label) fields

end Term

end FacetSearch
