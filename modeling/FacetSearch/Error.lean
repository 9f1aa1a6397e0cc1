/-!
# Errors

What can go wrong around a search, by its cause, and what the cause has to say. A store may fail in
any of these ways, and its error is passed on as it is.
-/

namespace FacetSearch

inductive SearchError where
  /-- The store did not answer. -/
  | store (cause : String)
  /-- A configuration cannot be used. -/
  | invalidConfig (reason : String)
  /-- A text is no JSON text, or not one of the shape asked for. The detail is in the words of
  whoever has read it. -/
  | serialization (detail : String)
deriving DecidableEq, Repr

namespace SearchError

/-- The error as shown to people. -/
def message : SearchError → String
  | store cause => "Document store error: " ++ cause
  | invalidConfig reason => "Invalid configuration: " ++ reason
  | serialization detail => "Serialization error: " ++ detail

end SearchError

end FacetSearch
