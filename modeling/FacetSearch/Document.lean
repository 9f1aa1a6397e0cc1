/-!
# Documents

What a store answers with. The identifier of a document is also the cursor of the page that starts
there.
-/

namespace FacetSearch

structure Document where
  id : String
  createdAt : String
  title : Option String
  journalId : String
deriving DecidableEq, Repr

end FacetSearch
