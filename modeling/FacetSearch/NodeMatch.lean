import FacetSearch.Attributes
import FacetSearch.Text.Cut

/-!
# Node matches

A match on a node of a document's text: a node type, perhaps with attributes. It is typed in one of
two ways: `code` names a known node type, `code[lang="sql"]` asks any type for one attribute. The
value of an attribute may hold quotes and brackets; its name ends at the last `="`.
-/

namespace FacetSearch

open Text

/-- The node types that may be asked for by their name alone. -/
def nodeTypes : List String :=
  [ "paragraph", "heading", "blockquote", "list", "listItem", "table", "tableRow", "tableCell",
    "html", "code", "definition", "footnoteDefinition", "text", "emphasis", "strong", "delete",
    "inlineCode", "break", "link", "image", "linkReference", "imageReference", "footnote",
    "footnoteReference" ]

/-- The letters of a node type: ASCII letters, digits and the underscore. -/
def isWordChar (c : Char) : Bool :=
  c.isAlphanum || c = '_'

/-- A word has the shape of a node type: one letter or more, of the ASCII ones. -/
def isWord (text : List Char) : Bool :=
  text ≠ [] && text.all isWordChar

/-- What a node has to be: of this type, and with these attributes and this text where given. -/
structure NodeMatch where
  nodeType : String
  attributes : Option Attributes
  text : Option String
deriving DecidableEq, Repr

namespace NodeMatch

/-- Reads what follows the opening bracket of `word[name="value"]`. -/
def ofAttribute? (word rest : List Char) : Option NodeMatch := do
  let body ← dropEnd? ['"', ']'] rest
  let (name, value) ← cutAtLast '=' '"' body
  if isWord word ∧ name ≠ [] ∧ value ≠ [] then
    some ⟨String.ofList word,
      some (Attributes.empty.insert (String.ofList name) (String.ofList value)), none⟩
  else
    none

/-- Reads a node match: a known node type, or a word with one attribute. -/
def ofChars? (text : List Char) : Option NodeMatch :=
  match cutAt '[' text with
  | some (word, rest) => ofAttribute? word rest
  | none =>
    if isWord text ∧ String.ofList text ∈ nodeTypes then some ⟨String.ofList text, none, none⟩
    else none

/-- The typed form. It shows the first attribute only, and no text. -/
def render (node : NodeMatch) : String :=
  match node.attributes.bind (·.entries.head?) with
  | some (name, value) => node.nodeType ++ "[" ++ name ++ "=\"" ++ value ++ "\"]"
  | none => node.nodeType

end NodeMatch

end FacetSearch
