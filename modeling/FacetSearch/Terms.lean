import FacetSearch.Line
import FacetSearch.Term

/-!
# Collections of terms

The terms of a search, in the order in which they were put. `merge` never makes a second copy of a
term and never a second term of a slot: a new value of a slot takes the place of the old one, at the
end. Terms that are there already stay where they are.
-/

namespace FacetSearch.Terms

/-- Puts a term into a collection. A slot that holds another value first gives it up. -/
def merge (terms : List Term) (term : Term) : List Term :=
  match term.facet with
  | .field _ => if term ∈ terms then terms else terms ++ [term]
  | .slot _ =>
    if terms.find? (·.facet = term.facet) = some term then terms
    else terms.eraseP (·.facet = term.facet) ++ [term]

def mergeAll (terms : List Term) : List Term :=
  terms.foldl merge []

/-- Takes a term of `facet` out: from a field the equal terms, from a slot whatever it holds. -/
def remove (facet : Facet) (term : Term) (terms : List Term) : List Term :=
  match facet with
  | .field _ => terms.filter (· ≠ term)
  | .slot _ => terms.filter (·.facet ≠ facet)

/-- Takes out the term that a typed text means. A text without meaning takes out nothing. -/
def removeTyped (raw : String) (terms : List Term) : List Term :=
  match Term.parse? raw with
  | some term => remove term.facet term terms
  | none => terms

/-- The collection that a search line describes. -/
def ofLine (line : String) : List Term :=
  mergeAll (Term.parseAll (Line.split line))

def render (terms : List Term) : List String :=
  terms.map Term.render

/-! ## Reading a collection -/

/-- The values of a field that are not excluded. -/
def included (field : Field) (terms : List Term) : List String :=
  (terms.filter fun term => term.facet = .field field && !term.isExcluded).filterMap Term.value?

def slotValue? (slot : Slot) (terms : List Term) : Option String :=
  (terms.find? (·.facet = .slot slot)).bind Term.value?

/-- The document that the page of results starts at. -/
def cursor? (terms : List Term) : Option String :=
  slotValue? .before terms

end FacetSearch.Terms
