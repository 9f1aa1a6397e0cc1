import FacetSearch.Document
import FacetSearch.Json.Fields

/-!
# Documents as JSON

A document without a title is written without one. The answer of a store is a record with the
documents under `data`.
-/

namespace FacetSearch

namespace Document

def fieldNames : List String := ["id", "createdAt", "title", "journalId"]

def toJson (document : Document) : Json :=
  .object ([("id", .string document.id), ("createdAt", .string document.createdAt)] ++
    (document.title.map fun title => ("title", .string title)).toList ++
    [("journalId", .string document.journalId)])

def ofJson? (value : Json) : Option Document := do
  let fields ← value.fields? fieldNames
  some
    { id := ← Json.required? fields "id" Json.string?
      createdAt := ← Json.required? fields "createdAt" Json.string?
      title := ← Json.optional? fields "title" none (Json.nullable? Json.string?)
      journalId := ← Json.required? fields "journalId" Json.string? }

end Document

def documentsOfJson? (value : Json) : Option (List Document) := do
  Json.required? (← value.fields? ["data"]) "data" (Json.listOf? Document.ofJson?)

end FacetSearch
