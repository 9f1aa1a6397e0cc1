/-!
# Events

What a session tells those who watch it.
-/

namespace FacetSearch

inductive Event where
  /-- The terms are others now; these are their typed forms. -/
  | termsChanged (terms : List String)
  /-- The search of this version was answered, and its page is shown. -/
  | resultsChanged (version : UInt64) (count : Nat) (hasNext hasPrev : Bool)
  /-- The search of this version failed. The terms stay, so it can be tried again. -/
  | searchFailed (version : UInt64) (message : String)
deriving DecidableEq, Repr

end FacetSearch
