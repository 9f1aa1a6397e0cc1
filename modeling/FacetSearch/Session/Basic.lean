import FacetSearch.Config
import FacetSearch.Event
import FacetSearch.Paging
import FacetSearch.Query
import FacetSearch.Selection
import FacetSearch.Version

/-!
# Sessions

A session holds the terms of a search, the page it shows and the way back from it. A command changes
the terms or the page at once and sends a request to the store; the answer comes later, after other
commands perhaps. Requests are numbered, and only the answer to the newest counts: whatever else
comes in, be it an error, is dropped.

Nothing here waits. `begin?` is all that happens until the store is asked, and `receive` is all that
happens once it has answered.
-/

namespace FacetSearch

/-- What a session is told to do. A command is skipped if it finds nothing to do: an edit that
changes no terms, a page that is not there. -/
inductive Command where
  | add (raw : String)
  | remove (raw : String)
  /-- Puts the terms that these typed texts mean in place of the present ones. -/
  | replace (raws : List String)
  /-- Puts these terms in place of the present ones. -/
  | set (terms : List Term)
  /-- Searches again, from a fresh history of pages. -/
  | search
  | next
  | prev
deriving DecidableEq, Repr

/-- A numbered question to the store. -/
structure Request where
  version : UInt64
  query : Query
deriving DecidableEq, Repr

inductive Reply where
  | documents (documents : List Document)
  | failure (error : SearchError)
deriving DecidableEq, Repr

inductive Outcome where
  | completed (count : Nat) (hasNext : Bool)
  /-- Another search was begun before the answer came, so it was dropped. -/
  | superseded
  /-- There was nothing to do, and nothing was asked. -/
  | skipped
  | failed (error : SearchError)
deriving DecidableEq, Repr

inductive Effect where
  /-- Hands the typed forms of the terms to whoever keeps them. -/
  | save (terms : List String)
  | publish (event : Event)
  | ask (request : Request)
deriving DecidableEq, Repr

structure Session where
  config : Config
  /-- Changed terms are handed out to be kept. -/
  saves : Bool
  terms : List Term
  paging : Paging
  documents : List Document
  loading : Bool
  /-- The message of the last search, if it failed. -/
  error : Option String
  versions : Versions
deriving DecidableEq, Repr

namespace Session

/-- A session that has searched for nothing yet, with the terms kept as these typed texts. -/
def new (config : Config) (saves : Bool) (directory : Directory) (kept : List String) : Session :=
  { config := config
    saves := saves
    terms := Selection.restore directory kept
    paging := .start
    documents := []
    loading := false
    error := none
    versions := .start }

def query (directory : Directory) (session : Session) : Query :=
  Query.ofTerms directory (Paging.requestLimit session.config.pageSize) session.terms

/-! ## Before the store is asked -/

/-- Takes over changed terms. The pages left belong to other results, so they are forgotten. -/
def withTerms (session : Session) (terms : List Term) : Session :=
  { session with terms := terms, paging := session.paging.reset }

/-- Turns to a page: its start takes the place of the cursor among the terms. -/
def turnTo (directory : Directory) (start : PageStart) (session : Session) : Session :=
  let turned :=
    match start with
    | some id => Selection.merge? directory (.cursor id) session.terms
    | none => Selection.clear? (.slot .before) session.terms
  { session with terms := turned.getD session.terms }

/-- The session changed as the command says, or `none` if the command is skipped. -/
def carryOut? (directory : Directory) (command : Command) (session : Session) : Option Session :=
  match command with
  | .add raw => (Selection.add? directory raw session.terms).map session.withTerms
  | .remove raw => (Selection.remove? directory raw session.terms).map session.withTerms
  | .replace raws => (Selection.replace? directory raws session.terms).map session.withTerms
  | .set terms => some (session.withTerms (Selection.ofTerms directory terms))
  | .search => some { session with paging := session.paging.reset }
  | .next => do
    let (id, paging) ← session.paging.advance? (Terms.cursor? session.terms)
    some ({ session with paging := paging }.turnTo directory (some id))
  | .prev => do
    let (start, paging) ← session.paging.retreat?
    some ({ session with paging := paging }.turnTo directory start)

/-- What a command makes known before it searches: the terms, unless it is a mere search. -/
def announcements (command : Command) (session : Session) : List Effect :=
  let terms := Terms.render session.terms
  match command with
  | .search => []
  | _ => (if session.saves then [.save terms] else []) ++ [.publish (.termsChanged terms)]

/-- Numbers a request for the present terms and awaits its answer. -/
def ask (directory : Directory) (session : Session) : Session × Request :=
  let versions := session.versions.next
  ({ session with loading := true, error := none, versions := versions },
    ⟨versions.newest, session.query directory⟩)

/-- A session that waits for the store: what has gone out, and what was asked. -/
structure Begun where
  session : Session
  effects : List Effect
  request : Request

/-- All that a command does before the store has answered, or `none` if the command is skipped. -/
def begin? (directory : Directory) (command : Command) (session : Session) : Option Begun := do
  let changed ← session.carryOut? directory command
  let (asking, request) := changed.ask directory
  some ⟨asking, changed.announcements command ++ [.ask request], request⟩

/-! ## After the store has answered -/

/-- A session that an answer has reached: what has gone out, and what has become of the command. -/
structure Answered where
  session : Session
  effects : List Effect
  outcome : Outcome

def showPage (version : UInt64) (answer : List Document) (session : Session) : Answered :=
  let pageSize := session.config.pageSize
  let paging := session.paging.record pageSize answer
  let documents := Paging.shown pageSize answer
  { session := { session with loading := false, paging := paging, documents := documents }
    effects :=
      [.publish (.resultsChanged version documents.length paging.hasNext paging.hasPrev)]
    outcome := .completed documents.length paging.hasNext }

/-- Notes that the search of this version failed. Terms, page and history stay as they are. -/
def fail (version : UInt64) (error : SearchError) (session : Session) : Answered :=
  { session := { session with loading := false, error := some error.message }
    effects := [.publish (.searchFailed version error.message)]
    outcome := .failed error }

def receive (version : UInt64) (reply : Reply) (session : Session) : Answered :=
  if session.versions.isCurrent version then
    match reply with
    | .documents answer => session.showPage version answer
    | .failure error => session.fail version error
  else
    ⟨session, [], .superseded⟩

end Session

end FacetSearch
