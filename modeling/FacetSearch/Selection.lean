import FacetSearch.Directory
import FacetSearch.Terms

/-!
# Selections

The terms in force, under a directory. Whatever is put or taken out, the terms that name journals
unknown to the directory go as well. An operation answers with the new terms, or with `none` where
nothing has changed, so that a caller need not search again.
-/

namespace FacetSearch.Selection

/-- The terms that the directory admits. -/
def known (directory : Directory) (terms : List Term) : List Term :=
  terms.filter directory.admits

/-- The new terms, if they differ from the old ones. -/
def changed? (old new : List Term) : Option (List Term) :=
  if new = old then none else some new

/-- Puts a term. -/
def merge? (directory : Directory) (term : Term) (terms : List Term) : Option (List Term) :=
  changed? terms (known directory (Terms.merge terms term))

/-- Puts the term that a typed text means. -/
def add? (directory : Directory) (raw : String) (terms : List Term) : Option (List Term) := do
  merge? directory (← Term.parse? raw) terms

/-- Takes out the term that a typed text means. -/
def remove? (directory : Directory) (raw : String) (terms : List Term) : Option (List Term) :=
  changed? terms (known directory (Terms.removeTyped raw terms))

/-- Takes out the terms of a facet, and no others. -/
def clear? (facet : Facet) (terms : List Term) : Option (List Term) :=
  changed? terms (terms.filter (·.facet ≠ facet))

/-- The selection of these terms, whatever was selected before. -/
def ofTerms (directory : Directory) (terms : List Term) : List Term :=
  known directory (Terms.mergeAll terms)

/-- The selection that typed texts mean. It counts as unchanged where only the order differs. -/
def replace? (directory : Directory) (raws : List String) (terms : List Term) :
    Option (List Term) :=
  let next := ofTerms directory (Term.parseAll raws)
  if (Terms.render terms).isPerm (Terms.render next) then none else some next

/-- The selection kept as typed texts: each of them put in turn. -/
def restore (directory : Directory) (raws : List String) : List Term :=
  raws.foldl (fun terms raw => (add? directory raw terms).getD terms) []

end FacetSearch.Selection
