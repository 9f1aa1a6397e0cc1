import FacetSearch.Event
import FacetSearch.Json.Value

/-!
# Events as JSON

An event is an object whose member `type` says what happened.
-/

namespace FacetSearch.Event

def toJson : Event → Json
  | termsChanged terms =>
    .object [("type", .string "tokensChanged"), ("searchTokens", .ofStrings terms)]
  | resultsChanged version count hasNext hasPrev =>
    .object
      [ ("type", .string "resultsChanged"), ("version", .ofNat version.toNat),
        ("count", .ofNat count), ("hasNext", .bool hasNext), ("hasPrev", .bool hasPrev) ]
  | searchFailed version message =>
    .object
      [ ("type", .string "searchFailed"), ("version", .ofNat version.toNat),
        ("message", .string message) ]

end FacetSearch.Event
