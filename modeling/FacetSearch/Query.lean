import FacetSearch.CursorFormat
import FacetSearch.Directory

/-!
# Queries

What a store is asked. An empty list of a field asks for nothing in particular: without journals,
every journal is searched. Journals are named by their identifiers here. Node matches and heading
focuses have no place in a query.
-/

namespace FacetSearch

structure Query where
  journals : List String
  tags : List String
  titles : List String
  texts : List String
  /-- The page starts at the document with this identifier. -/
  before : Option String
  /-- The most documents that the answer may hold. -/
  limit : UInt64
  excludeJournals : List String
  excludeTags : List String
  excludeTitles : List String
  excludeTexts : List String
  date : Option String
deriving DecidableEq, Repr

namespace Query

/-- The query for the first `limit` documents of all. -/
def all (limit : UInt64) : Query :=
  ⟨[], [], [], [], none, limit, [], [], [], [], none⟩

/-- Adds a value, wanted or excluded, at the end of the list of a field. -/
def add (query : Query) (field : Field) (value : String) (excluded : Bool) : Query :=
  match field, excluded with
  | .journal, false => { query with journals := query.journals ++ [value] }
  | .journal, true => { query with excludeJournals := query.excludeJournals ++ [value] }
  | .tag, false => { query with tags := query.tags ++ [value] }
  | .tag, true => { query with excludeTags := query.excludeTags ++ [value] }
  | .title, false => { query with titles := query.titles ++ [value] }
  | .title, true => { query with excludeTitles := query.excludeTitles ++ [value] }
  | .text, false => { query with texts := query.texts ++ [value] }
  | .text, true => { query with excludeTexts := query.excludeTexts ++ [value] }

/-- The query narrowed by one more term. A journal that the directory does not know is passed over;
a later cursor or date takes the place of an earlier one. -/
def narrow (directory : Directory) (query : Query) : Term → Query
  | .matching .journal name excluded =>
    match directory.idOf? name with
    | some id => query.add .journal id excluded
    | none => query
  | .matching field value excluded => query.add field value excluded
  | .cursor id => { query with before := some id }
  | .date text => { query with date := some text }
  | .node _ => query
  | .heading _ => query

/-- The query that asks for the documents meeting all the terms. -/
def ofTerms (directory : Directory) (limit : UInt64) (terms : List Term) : Query :=
  terms.foldl (narrow directory) (all limit)

/-- The format of the cursor, if there is one. -/
def cursorFormat? (query : Query) : Option CursorFormat :=
  query.before.map CursorFormat.ofText

/-- The first and the last day of the date asked for, if it is one of the calendar. -/
def dateBounds? (query : Query) : Option (Day × Day) := do
  (← Period.parse? (← query.date)).bounds?

/-- Nothing but the cursor and the limit narrows the answer. -/
def isUnfiltered (query : Query) : Bool :=
  query.journals.isEmpty && query.tags.isEmpty && query.titles.isEmpty && query.texts.isEmpty &&
    query.excludeJournals.isEmpty && query.excludeTags.isEmpty && query.excludeTitles.isEmpty &&
    query.excludeTexts.isEmpty && query.date.isNone

end Query

end FacetSearch
