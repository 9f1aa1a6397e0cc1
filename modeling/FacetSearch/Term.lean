import FacetSearch.Calendar.Period
import FacetSearch.Facet
import FacetSearch.HeadingFocus
import FacetSearch.NodeMatch
import FacetSearch.Tag

/-!
# Terms

One condition of a search. It is typed `label:value`, with a minus sign in front where a value of a
field is excluded. Only the first colon separates, so that a value may hold colons itself; a text
without any colon is looked for as it stands.
-/

namespace FacetSearch

open Text

inductive Term where
  /-- The field has this value, or, where excluded, it does not. -/
  | matching (field : Field) (value : String) (excluded : Bool)
  /-- The page of results starts at the document with this identifier. -/
  | cursor (id : String)
  /-- The document is of this year, month or day. -/
  | date (text : String)
  /-- The document holds a node like this. -/
  | node (pattern : NodeMatch)
  /-- Only what stands under this heading counts. -/
  | heading (focus : HeadingFocus)
deriving DecidableEq, Repr

namespace Term

def facet : Term → Facet
  | matching field _ _ => .field field
  | cursor _ => .slot .before
  | date _ => .slot .date
  | node _ => .slot .node
  | heading _ => .slot .heading

def isExcluded : Term → Bool
  | matching _ _ excluded => excluded
  | _ => false

/-- The term that excludes the same value. Slots have none. -/
def exclude? : Term → Option Term
  | matching field value _ => some (matching field value true)
  | _ => none

/-- The value, of the terms whose value is a plain text. -/
def value? : Term → Option String
  | matching _ value _ => some value
  | cursor id => some id
  | date text => some text
  | node _ => none
  | heading _ => none

/-! ## Writing -/

def valueText : Term → String
  | matching _ value _ => value
  | cursor id => id
  | date text => text
  | node pattern => pattern.render
  | heading focus => focus.content

/-- The typed form: a minus sign if excluded, the label, a colon, the value. -/
def render (term : Term) : String :=
  (if term.isExcluded then "-" else "") ++ term.facet.label ++ ":" ++ term.valueText

/-! ## Reading -/

/-- Reads the text after the colon as a value of `facet`. No facet has an empty value. -/
def ofValue? (facet : Facet) (value : List Char) : Option Term :=
  if value = [] then none
  else
    match facet with
    | .field .tag => (Tag.normalize? value).map fun tag => matching .tag (String.ofList tag) false
    | .field field => some (matching field (String.ofList value) false)
    | .slot .before => some (cursor (String.ofList value))
    | .slot .date => (Period.ofChars? value).map fun _ => date (String.ofList value)
    | .slot .node => (NodeMatch.ofChars? value).map node
    | .slot .heading => some (heading (HeadingFocus.ofChars value))

/-- Reads the text before the colon: whether a minus sign excludes, and the facet named. -/
def ofLabel? : List Char → Option (Bool × Facet)
  | '-' :: name => (Facet.ofLabel? name).map (true, ·)
  | name => (Facet.ofLabel? name).map (false, ·)

/-- Reads a term. Without a colon it is a text to look for. -/
def ofChars? (raw : List Char) : Option Term :=
  match cutAt ':' raw with
  | none => ofValue? (.field .text) raw
  | some (label, value) => do
    let (excluded, facet) ← ofLabel? label
    let term ← ofValue? facet value
    if excluded then term.exclude? else some term

/-- The term that a typed text means, if it means one. -/
def parse? (raw : String) : Option Term :=
  ofChars? raw.toList

/-- The terms that typed texts mean, in order. Texts without meaning are left out. -/
def parseAll (raws : List String) : List Term :=
  raws.filterMap parse?

end Term

end FacetSearch
