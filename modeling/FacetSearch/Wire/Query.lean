import FacetSearch.Json.Fields
import FacetSearch.Query

/-!
# Queries as JSON

The lists of wanted values and the limit are always written, lists of excluded values only where
they hold something, the cursor and the date only where there is one.
-/

namespace FacetSearch.Query

def fieldNames : List String :=
  [ "journals", "tags", "titles", "texts", "before", "limit", "excludeJournals", "excludeTags",
    "excludeTitles", "excludeTexts", "date" ]

/-- A member that is left out when the list is empty. -/
def listMember (name : String) (values : List String) : List (String × Json) :=
  if values = [] then [] else [(name, .ofStrings values)]

/-- A member that is left out when there is no text. -/
def textMember (name : String) (text : Option String) : List (String × Json) :=
  (text.map fun text => (name, .string text)).toList

def toJson (query : Query) : Json :=
  .object (
    [ ("journals", .ofStrings query.journals), ("tags", .ofStrings query.tags),
      ("titles", .ofStrings query.titles), ("texts", .ofStrings query.texts) ] ++
    textMember "before" query.before ++
    [("limit", .ofNat query.limit.toNat)] ++
    listMember "excludeJournals" query.excludeJournals ++
    listMember "excludeTags" query.excludeTags ++
    listMember "excludeTitles" query.excludeTitles ++
    listMember "excludeTexts" query.excludeTexts ++
    textMember "date" query.date)

def ofJson? (value : Json) : Option Query := do
  let fields ← value.fields? fieldNames
  let texts? := Json.listOf? Json.string?
  some
    { journals := ← Json.required? fields "journals" texts?
      tags := ← Json.required? fields "tags" texts?
      titles := ← Json.required? fields "titles" texts?
      texts := ← Json.required? fields "texts" texts?
      before := ← Json.optional? fields "before" none (Json.nullable? Json.string?)
      limit := ← Json.required? fields "limit" Json.natural64?
      excludeJournals := ← Json.optional? fields "excludeJournals" [] texts?
      excludeTags := ← Json.optional? fields "excludeTags" [] texts?
      excludeTitles := ← Json.optional? fields "excludeTitles" [] texts?
      excludeTexts := ← Json.optional? fields "excludeTexts" [] texts?
      date := ← Json.optional? fields "date" none (Json.nullable? Json.string?) }

end FacetSearch.Query
