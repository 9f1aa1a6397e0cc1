import FacetSearch.Term

/-!
# Directory of journals

Searches name journals as people do; documents carry the identifiers of journals. A directory leads
from the one to the other.
-/

namespace FacetSearch

structure Directory where
  idOf? : String → Option String

namespace Directory

/-- The directory of these names and identifiers. Of two identifiers for a name the later counts. -/
def ofList (entries : List (String × String)) : Directory :=
  ⟨fun name => entries.reverse.lookup name⟩

/-- A term is admitted unless it names, or excludes, a journal that the directory does not know. -/
def admits (directory : Directory) : Term → Bool
  | .matching .journal name _ => (directory.idOf? name).isSome
  | _ => true

end Directory

end FacetSearch
