/-!
# Versions

Searches are numbered, so that an answer can be told from the answer to an earlier question. Numbers
have 64 bits and start anew after the last.
-/

namespace FacetSearch

/-- The number of the newest search, zero before the first. -/
structure Versions where
  newest : UInt64
deriving DecidableEq, Repr

namespace Versions

def start : Versions := ⟨0⟩

def next (versions : Versions) : Versions := ⟨versions.newest + 1⟩

/-- No search has been numbered after this one. -/
def isCurrent (versions : Versions) (version : UInt64) : Bool := version = versions.newest

end Versions

end FacetSearch
