import FacetSearch.Session.Basic

/-!
# Runs

A session at work: the calls that wait for the store, in any number, and a directory that may learn
and forget journals meanwhile. Everything that can happen to a session is a `Move`, and a run is a
list of moves; so every order in which answers arrive, and every call that is given up, is a run.

Calls take turns where they wait for the store, and nowhere else. A call goes without interruption
from its start until it has sent its request, or is skipped, and from its answer until its event is
out; so two calls never get between the changes that one of them makes to the session.

A run keeps its history: which calls were made, how the store answered, and what went out.
-/

namespace FacetSearch

/-- A thing that can happen to a session, from one wait for the store to the next. No move is
interrupted by another. -/
inductive Move where
  /-- A call is made. It changes the session, makes the terms known, and sends its request, all in
  this move. -/
  | call (command : Command)
  /-- The store answers a waiting call, which then ends: the session has taken in the answer and the
  event is out. -/
  | answer (number : Nat) (reply : Reply)
  /-- A waiting call is given up; its answer will never come. The session is not told. -/
  | cancel (number : Nat)
  | setDirectory (directory : Directory)

/-- One thing that has happened to a call. Calls that ask the store are numbered from zero. -/
inductive Happening where
  | skipped (command : Command)
  | began (number : Nat) (command : Command) (request : Request) (effects : List Effect)
  | ended (number : Nat) (reply : Reply) (outcome : Outcome) (effects : List Effect)
  | cancelled (number : Nat)
deriving DecidableEq, Repr

def Happening.effects : Happening → List Effect
  | skipped _ => []
  | began _ _ _ effects => effects
  | ended _ _ _ effects => effects
  | cancelled _ => []

structure Run where
  session : Session
  directory : Directory
  /-- The calls that wait for the store, by their numbers, oldest first. -/
  waiting : List (Nat × Request)
  /-- How many calls have asked the store, which is the number of the next one. -/
  asked : Nat
  /-- What has happened so far, first things first. -/
  history : List Happening

namespace Run

def start (session : Session) (directory : Directory) : Run :=
  ⟨session, directory, [], 0, []⟩

def request? (number : Nat) (run : Run) : Option Request :=
  run.waiting.lookup number

def others (number : Nat) (run : Run) : List (Nat × Request) :=
  run.waiting.filter (·.1 ≠ number)

/-- Calls the session. Unless the call is skipped, it waits for the store under the next number. -/
def call (command : Command) (run : Run) : Run :=
  match run.session.begin? run.directory command with
  | none => { run with history := run.history ++ [.skipped command] }
  | some begun =>
    { run with
      session := begun.session
      waiting := run.waiting ++ [(run.asked, begun.request)]
      asked := run.asked + 1
      history := run.history ++ [.began run.asked command begun.request begun.effects] }

/-- Lets the store answer a call. Nothing comes of it unless the call waits. -/
def answer (number : Nat) (reply : Reply) (run : Run) : Run :=
  match run.request? number with
  | none => run
  | some request =>
    let answered := run.session.receive request.version reply
    { run with
      session := answered.session
      waiting := run.others number
      history := run.history ++ [.ended number reply answered.outcome answered.effects] }

def cancel (number : Nat) (run : Run) : Run :=
  match run.request? number with
  | none => run
  | some _ =>
    { run with waiting := run.others number, history := run.history ++ [.cancelled number] }

def step (run : Run) : Move → Run
  | .call command => run.call command
  | .answer number reply => run.answer number reply
  | .cancel number => run.cancel number
  | .setDirectory directory => { run with directory := directory }

def play (run : Run) (moves : List Move) : Run :=
  moves.foldl step run

end Run

/-! ## What went out -/

namespace Effect

def events (effects : List Effect) : List Event :=
  effects.filterMap fun
    | .publish event => some event
    | _ => none

def saved (effects : List Effect) : List (List String) :=
  effects.filterMap fun
    | .save terms => some terms
    | _ => none

def queries (effects : List Effect) : List Query :=
  effects.filterMap fun
    | .ask request => some request.query
    | _ => none

end Effect

end FacetSearch
