import FacetSearch.Text.WhiteSpace

/-!
# Search lines

A search line is a row of terms with white space between them. Double quotes, which may open and
close anywhere in a term, keep white space inside it; between quotes a backslash takes the next
character as it is. Outside quotes a backslash is a character like any other. A line is never
refused: a quote left open runs to the end, and a term of which nothing is left is no term.

`join` writes terms that `split` reads back.
-/

namespace FacetSearch.Line

open Text

/-- How the next character of a line is read. -/
inductive Quoting where
  /-- Outside quotes: white space ends the term. -/
  | outside
  /-- Between quotes: all but a quote and a backslash belongs to the term. -/
  | inside
  /-- Behind a backslash between quotes: whatever comes belongs to the term. -/
  | escaped
deriving DecidableEq, Repr

/-! ## Reading -/

/-- The term collected so far, last character first, if there is anything in it. -/
def finish (collected : List Char) : List (List Char) :=
  if collected = [] then [] else [collected.reverse]

/-- Splits the rest of a line, of whose current term `collected` is read already. -/
def splitFrom (quoting : Quoting) (collected : List Char) : List Char → List (List Char)
  | [] => finish collected
  | c :: rest =>
    match quoting with
    | .escaped => splitFrom .inside (c :: collected) rest
    | .inside =>
      if c = '\\' then splitFrom .escaped collected rest
      else if c = '"' then splitFrom .outside collected rest
      else splitFrom .inside (c :: collected) rest
    | .outside =>
      if c = '"' then splitFrom .inside collected rest
      else if isWhiteSpace c then finish collected ++ splitFrom .outside [] rest
      else splitFrom .outside (c :: collected) rest

/-- The terms of a line, in order. -/
def split (line : String) : List String :=
  (splitFrom .outside [] line.toList).map String.ofList

/-! ## Writing -/

/-- A quote or a backslash is written with a backslash in front, any other character as it is. -/
def escape (c : Char) : List Char :=
  if c = '"' ∨ c = '\\' then ['\\', c] else [c]

/-- A term between quotes. -/
def quote (term : List Char) : List Char :=
  '"' :: term.flatMap escape ++ ['"']

/-- The line of these terms: each between quotes, with one blank between two. -/
def join (terms : List String) : String :=
  String.ofList (List.intercalate [' '] (terms.map fun term => quote term.toList))

end FacetSearch.Line
