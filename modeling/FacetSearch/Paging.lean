import FacetSearch.Document

/-!
# Paging

A store goes forward only: a cursor names the first document of a page. Where a page ends is seen by
asking for one document more than the page shows; that document opens the next page. The way back is
kept as the starts of the pages that were left.
-/

namespace FacetSearch

/-- Where a page starts: at the document with this identifier, or, without one, at the first. -/
abbrev PageStart := Option String

/-- The cursor of the next page, and the starts of the pages behind, the last one left first. -/
structure Paging where
  next : Option String
  history : List PageStart
deriving DecidableEq, Repr

namespace Paging

/-- No page has been seen. -/
def start : Paging := ⟨none, []⟩

/-- The number of documents to ask for: one more than a page shows, as far as there is such a
number. -/
def requestLimit (pageSize : UInt64) : UInt64 :=
  if pageSize + 1 = 0 then pageSize else pageSize + 1

def hasNext (paging : Paging) : Bool := paging.next.isSome

def hasPrev (paging : Paging) : Bool := !paging.history.isEmpty

/-- Forgets the pages left. The next page stays known until another answer comes. -/
def reset (paging : Paging) : Paging := { paging with history := [] }

/-- Takes in an answer: if it is longer than a page, its last document opens the next page. -/
def record (pageSize : UInt64) (documents : List Document) (paging : Paging) : Paging :=
  { paging with
    next := if pageSize.toNat < documents.length then documents.getLast?.map (·.id) else none }

/-- The documents of an answer that a page shows. -/
def shown (pageSize : UInt64) (documents : List Document) : List Document :=
  documents.take pageSize.toNat

/-- Goes on from the page that starts at `current`. The cursor is used up: there is no next page
again until an answer for this one has come. -/
def advance? (current : PageStart) (paging : Paging) : Option (String × Paging) := do
  some (← paging.next, ⟨none, current :: paging.history⟩)

/-- Goes back to the page left last. -/
def retreat? (paging : Paging) : Option (PageStart × Paging) :=
  match paging.history with
  | [] => none
  | previous :: history => some (previous, { paging with history := history })

end Paging

end FacetSearch
