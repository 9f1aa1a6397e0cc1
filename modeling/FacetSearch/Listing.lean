import FacetSearch.Document
import FacetSearch.Query

/-!
# Listings

A store that holds its documents in one list, newest first, and knows nothing of them but their
journals. A cursor names the first document of the answer, so the answer begins with it; a cursor
that names no document left leaves nothing.
-/

namespace FacetSearch.Listing

/-- The documents that a query's journals leave. No journals asked for means all of them. -/
def inJournals (query : Query) (documents : List Document) : List Document :=
  documents.filter fun document =>
    (query.journals.isEmpty || query.journals.contains document.journalId) &&
      !query.excludeJournals.contains document.journalId

/-- The documents from the one with this identifier on. -/
def startingAt : Option String → List Document → List Document
  | none, documents => documents
  | some id, documents => documents.dropWhile (·.id ≠ id)

/-- The answer to a query. -/
def answer (documents : List Document) (query : Query) : List Document :=
  (startingAt query.before (inJournals query documents)).take query.limit.toNat

end FacetSearch.Listing
