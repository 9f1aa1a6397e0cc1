import FacetSearch.Channel
import FacetSearch.Listing
import FacetSearch.Session.Run

/-!
# Scripts

A session is rehearsed by a script: steps that call it and say how the store, which is a listing,
answers. A call may be held back under a name and released later, so that answers can arrive in any
order. After each step the script notes what has come of it.
-/

namespace FacetSearch

inductive Answer where
  /-- With what the listing holds. -/
  | listed
  | reply (reply : Reply)
  /-- Not before the call is released under this name. -/
  | held (name : String)

inductive Step where
  | call (command : Command) (answer : Answer)
  /-- Answers a held call: with this reply, or else with what the listing holds for its query. -/
  | release (name : String) (reply : Option Reply)
  | cancel (name : String)
  | setDirectory (directory : Directory)
  | drain

inductive Result where
  | finished (outcome : Outcome)
  | pending (name : String)
  | nothing

structure Stage where
  run : Run
  listing : List Document
  /-- Events are collected after every step. -/
  drains : Bool
  /-- The names of the held calls, with their numbers. -/
  held : List (String × Nat)
  channel : Channel Event
  receiver : Receiver

/-- What is noted after a step: its result, what has gone out since the last note, and the run as it
then is. -/
structure Note where
  result : Result
  events : List (Received Event)
  saved : List (List String)
  queries : List Query
  run : Run

namespace Stage

def eventCapacity : Nat := 64

/-- Sets the stage. The receiver comes when the session has been made. -/
def start (run : Run) (listing : List Document) (drains : Bool) : Stage :=
  let channel := Channel.empty eventCapacity
  ⟨run, listing, drains, [], channel, channel.subscribe⟩

def opening (stage : Stage) : Note := ⟨.nothing, [], [], [], stage.run⟩

/-! ## Acting -/

def move (stage : Stage) (next : Move) : Stage := { stage with run := stage.run.step next }

/-- Forgets a held call and gives it up if it still waits. -/
def forget (stage : Stage) (name : String) : Stage :=
  match stage.held.lookup name with
  | none => stage
  | some number =>
    { stage.move (.cancel number) with held := stage.held.filter (·.1 ≠ name) }

/-- Answers a waiting call as the script says. A name holds one call at a time. -/
def answer (number : Nat) (request : Request) (how : Answer) (stage : Stage) : Stage :=
  match how with
  | .reply reply => stage.move (.answer number reply)
  | .listed =>
    stage.move (.answer number (.documents (Listing.answer stage.listing request.query)))
  | .held name =>
    let free := stage.forget name
    { free with held := (name, number) :: free.held }

/-- The stage after a step, before anything is noted. -/
def act (stage : Stage) : Step → Stage
  | .call command how =>
    let number := stage.run.asked
    let called := stage.move (.call command)
    match called.run.request? number with
    | none => called
    | some request => called.answer number request how
  | .release name reply =>
    match stage.held.lookup name with
    | none => stage
    | some number =>
      match stage.run.request? number with
      | none => stage
      | some request => stage.answer number request ((reply.map .reply).getD .listed)
  | .cancel name => stage.forget name
  | .setDirectory directory => stage.move (.setDirectory directory)
  | .drain => stage

/-! ## Noting -/

/-- What has come of a step: the end of a call, if one ended, or else the name it is held under. -/
def result (next : Step) (happened : List Happening) : Result :=
  match happened.getLast?, next with
  | some (.skipped _), _ => .finished .skipped
  | some (.ended _ _ outcome _), _ => .finished outcome
  | some _, .call _ (.held name) => .pending name
  | _, _ => .nothing

/-- The events have to be collected after this step. -/
def collects (stage : Stage) : Step → Bool
  | .drain => true
  | _ => stage.drains

def step (stage : Stage) (next : Step) : Stage × Note :=
  let acted := stage.act next
  let happened := acted.run.history.drop stage.run.history.length
  let effects := happened.flatMap Happening.effects
  let channel := (Effect.events effects).foldl Channel.publish acted.channel
  let (events, receiver) :=
    if stage.collects next then channel.drain acted.receiver else ([], acted.receiver)
  ({ acted with channel := channel, receiver := receiver },
    { result := result next happened
      events := events
      saved := Effect.saved effects
      queries := Effect.queries effects
      run := acted.run })

def play (stage : Stage) : List Step → List Note
  | [] => []
  | next :: rest =>
    let (stepped, note) := stage.step next
    note :: stepped.play rest

end Stage

end FacetSearch
