import FacetSearch.Config
import FacetSearch.Json.Reader
import FacetSearch.Wire.Document
import FacetSearch.Wire.Query
import FacetSearch.Wire.Term

/-!
# Reading from text

From the text of a JSON document to the value it holds. Whatever is wrong with the text or its shape
is one kind of error; only a configuration can be well formed and still invalid. How to say what is
wrong with a text is left to whoever asks: `explain` puts it in words.
-/

namespace FacetSearch

variable (explain : String → String)

/-- The value of a text, if it has the shape that `ofJson?` reads. -/
def readText {α : Type} (ofJson? : Json → Option α) (text : String) : Except SearchError α :=
  match (Json.parse? text).bind ofJson? with
  | some value => .ok value
  | none => .error (.serialization (explain text))

/-- Reads a term. Here the whole text has to fit: its strings, its numbers and its depth count also
where nothing reads them. -/
def Term.ofText (text : String) : Except SearchError Term :=
  readText explain (fun value => if value.within maxDepth then ofJson? value else none) text

def Query.ofText (text : String) : Except SearchError Query :=
  readText explain ofJson? text

def documentsOfText (text : String) : Except SearchError (List Document) :=
  readText explain documentsOfJson? text

/-- The page size that a configuration gives. It may be zero. -/
def Config.pageSizeOfJson? (value : Json) : Option UInt64 := do
  Json.optional? (← value.fields? ["pageSize"]) "pageSize" defaultPageSize Json.natural64?

/-- Reads a configuration. What it leaves out has its default. -/
def Config.ofText (text : String) : Except SearchError Config := do
  ofPageSize (← readText explain pageSizeOfJson? text)

end FacetSearch
