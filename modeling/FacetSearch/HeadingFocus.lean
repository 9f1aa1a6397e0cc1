/-!
# Heading focus

A search may be narrowed to what stands under a heading. The heading is typed as in the document,
with one to six number signs and a blank in front; any other text means the heading of the first
depth with that text.
-/

namespace FacetSearch

inductive HeadingDepth where
  | h1
  | h2
  | h3
  | h4
  | h5
  | h6
deriving DecidableEq, Repr

namespace HeadingDepth

def all : List HeadingDepth := [.h1, .h2, .h3, .h4, .h5, .h6]

/-- The depth with this number of signs, from one to six. -/
def ofLevel? : Nat → Option HeadingDepth
  | 1 => some .h1
  | 2 => some .h2
  | 3 => some .h3
  | 4 => some .h4
  | 5 => some .h5
  | 6 => some .h6
  | _ => none

def name : HeadingDepth → String
  | .h1 => "h1"
  | .h2 => "h2"
  | .h3 => "h3"
  | .h4 => "h4"
  | .h5 => "h5"
  | .h6 => "h6"

/-- The depth with this name. Names are lower case. -/
def ofName? (name : String) : Option HeadingDepth :=
  all.find? (·.name = name)

theorem ofName?_name (depth : HeadingDepth) : ofName? depth.name = some depth := by
  cases depth <;> decide

end HeadingDepth

/-- The heading that a search is narrowed to: a node type, the text with its signs, and a depth. -/
structure HeadingFocus where
  nodeType : String
  content : String
  depth : HeadingDepth
deriving DecidableEq, Repr

namespace HeadingFocus

def headingType : String := "heading"

/-- Number signs followed by a blank make a heading of that depth; more than six count as one. Any
other text becomes a heading of the first depth. -/
def ofChars (text : List Char) : HeadingFocus :=
  let signs := text.takeWhile (· = '#')
  if signs ≠ [] ∧ (text.drop signs.length).head? = some ' ' then
    ⟨headingType, String.ofList text, (HeadingDepth.ofLevel? signs.length).getD .h1⟩
  else
    ⟨headingType, "# " ++ String.ofList text, .h1⟩

end HeadingFocus

end FacetSearch
