import FacetSearch.Proofs.Run.Record

/-!
# Terms as they are saved

Whoever keeps the terms is handed them by every call that may have changed them, and by no other: an
edit that changes nothing is skipped, and a mere search, an answer or a change of the directory
leaves the terms as they are. So what was saved last is what a session holds now. What is saved is
also announced, and nothing else is.
-/

namespace FacetSearch

/-- The typed forms that an event announces, if it announces terms. -/
def Event.terms? : Event → Option (List String)
  | termsChanged terms => some terms
  | resultsChanged _ _ _ _ => none
  | searchFailed _ _ => none

namespace Effect

/-- The terms announced, first things first. -/
def announced (effects : List Effect) : List (List String) :=
  (events effects).filterMap Event.terms?

theorem saved_append (first second : List Effect) :
    saved (first ++ second) = saved first ++ saved second :=
  List.filterMap_append

theorem announced_append (first second : List Effect) :
    announced (first ++ second) = announced first ++ announced second := by
  unfold announced events
  rw [List.filterMap_append, List.filterMap_append]

end Effect

namespace Session

/-- A call that does more than search again saves the terms once, and announces the same. -/
theorem handed_begun (directory : Directory) {command : Command} {changed : Session}
    (saves : changed.saves = true) (other : command ≠ .search) :
    Effect.saved (changed.begun directory command).effects = [Terms.render changed.terms] ∧
      Effect.announced (changed.begun directory command).effects =
        [Terms.render changed.terms] := by
  show Effect.saved (changed.announcements command ++ [.ask _]) = _ ∧
    Effect.announced (changed.announcements command ++ [.ask _]) = _
  unfold announcements
  rw [saves]
  cases command with
  | search => exact absurd rfl other
  | add raw => exact ⟨rfl, rfl⟩
  | remove raw => exact ⟨rfl, rfl⟩
  | replace raws => exact ⟨rfl, rfl⟩
  | set terms => exact ⟨rfl, rfl⟩
  | next => exact ⟨rfl, rfl⟩
  | prev => exact ⟨rfl, rfl⟩

theorem handed_receive (session : Session) (version : UInt64) (reply : Reply) :
    Effect.saved (session.receive version reply).effects = [] ∧
      Effect.announced (session.receive version reply).effects = [] := by
  unfold receive
  split
  · cases reply <;> exact ⟨rfl, rfl⟩
  · exact ⟨rfl, rfl⟩

theorem saves_receive (session : Session) (version : UInt64) (reply : Reply) :
    (session.receive version reply).session.saves = session.saves := by
  rw [receive_eq_with]

end Session

namespace Run

/-- The move is a call that is not skipped and does more than search again. -/
def Rewrites (run : Run) : Move → Prop
  | .call command => command ≠ .search ∧ (run.session.begin? run.directory command).isSome
  | .answer _ _ => False
  | .cancel _ => False
  | .setDirectory _ => False

/-- The terms have been saved and announced once, as they are now. -/
structure HandsOut (run after : Run) : Prop where
  saved : Effect.saved after.effects =
    Effect.saved run.effects ++ [Terms.render after.session.terms]
  announced : Effect.announced after.effects =
    Effect.announced run.effects ++ [Terms.render after.session.terms]

/-- The terms are as they were, and nothing has been saved or announced. -/
structure LeavesTerms (run after : Run) : Prop where
  saved : Effect.saved after.effects = Effect.saved run.effects
  announced : Effect.announced after.effects = Effect.announced run.effects
  terms : after.session.terms = run.session.terms

theorem LeavesTerms.refl (run : Run) : LeavesTerms run run := ⟨rfl, rfl, rfl⟩

theorem LeavesTerms.of_snoc {run after : Run} {last : Happening}
    (effects : after.effects = run.effects ++ last.effects)
    (silent : Effect.saved last.effects = [] ∧ Effect.announced last.effects = [])
    (terms : after.session.terms = run.session.terms) : LeavesTerms run after where
  saved := by rw [effects, Effect.saved_append, silent.1, List.append_nil]
  announced := by rw [effects, Effect.announced_append, silent.2, List.append_nil]
  terms := terms

section Step

variable {run : Run} {move : Move}

/-- A call that is not skipped and does more than search again hands the terms out. -/
theorem handsOut_step (saves : run.session.saves = true) (rewrites : run.Rewrites move) :
    HandsOut run (run.step move) := by
  cases move with
  | answer number reply => exact absurd rewrites id
  | cancel number => exact absurd rewrites id
  | setDirectory directory => exact absurd rewrites id
  | call command =>
      obtain ⟨other, unskipped⟩ := rewrites
      obtain ⟨beginning, begins⟩ := Option.isSome_iff_exists.mp unskipped
      show HandsOut run (run.call command)
      rw [call_begun begins]
      obtain ⟨changed, carriedOut, rfl⟩ := Session.begin?_eq_some begins
      have saves' : changed.saves = true := by rw [carriedOut.eq_with, saves]
      obtain ⟨saved, announced⟩ := Session.handed_begun run.directory saves' other
      constructor
      · rw [effects_snoc rfl, Effect.saved_append]
        exact congrArg _ saved
      · rw [effects_snoc rfl, Effect.announced_append]
        exact congrArg _ announced

/-- Every other move leaves the terms as they are, and says nothing of them. -/
theorem leavesTerms_step (plain : ¬ run.Rewrites move) : LeavesTerms run (run.step move) := by
  cases move with
  | call command =>
      show LeavesTerms run (run.call command)
      cases begins : run.session.begin? run.directory command with
      | none =>
          rw [call_skipped begins]
          exact .of_snoc (effects_snoc rfl) ⟨rfl, rfl⟩ rfl
      | some beginning =>
          rw [call_begun begins]
          have again : command = .search := by
            by_contra other
            exact plain ⟨other, by rw [begins]; rfl⟩
          subst again
          obtain ⟨changed, carriedOut, rfl⟩ := Session.begin?_eq_some begins
          cases carriedOut with
          | edited edit => exact absurd edit (by simp [Command.edit?])
          | searched => exact .of_snoc (effects_snoc rfl) ⟨rfl, rfl⟩ rfl
  | answer number reply =>
      have moved := moved_step run (.answer number reply)
      generalize run.step (.answer number reply) = after at moved
      cases moved with
      | @ended _ _ request waits =>
          exact .of_snoc (effects_snoc rfl) (run.session.handed_receive request.version reply)
            Session.terms_receive
      | unheard gone => exact .refl run
  | cancel number =>
      have moved := moved_step run (.cancel number)
      generalize run.step (.cancel number) = after at moved
      cases moved with
      | cancelled waits => exact .of_snoc (effects_snoc rfl) ⟨rfl, rfl⟩ rfl
      | missed gone => exact .refl run
  | setDirectory directory => exact ⟨rfl, rfl, rfl⟩

end Step

theorem saves_step (run : Run) (move : Move) :
    (run.step move).session.saves = run.session.saves := by
  have moved := moved_step run move
  generalize run.step move = after at moved
  cases moved with
  | skipped nothing => rfl
  | @began command changed carriedOut =>
      show changed.saves = run.session.saves
      rw [carriedOut.eq_with]
  | ended waits => exact Session.saves_receive _ _ _
  | cancelled waits => rfl
  | unheard gone => rfl
  | missed gone => rfl
  | redirected directory => rfl

/-- What was saved last is what the session holds, or else it still holds what it began with; and
what was saved is what was announced. -/
structure UpToDate (seeded : List Term) (run : Run) : Prop where
  saves : run.session.saves = true
  last : (Effect.saved run.effects).getLast? = some (Terms.render run.session.terms) ∨
    Effect.saved run.effects = [] ∧ run.session.terms = seeded
  announced : Effect.saved run.effects = Effect.announced run.effects

theorem UpToDate.step {seeded : List Term} (run : Run) (move : Move) (h : UpToDate seeded run) :
    UpToDate seeded (run.step move) := by
  have saves : (run.step move).session.saves = true := (saves_step run move).trans h.saves
  by_cases rewrites : run.Rewrites move
  · have out := handsOut_step h.saves rewrites
    refine ⟨saves, Or.inl ?_, ?_⟩
    · rw [out.saved, List.getLast?_concat]
    · rw [out.saved, out.announced, h.announced]
  · have left := leavesTerms_step rewrites
    refine ⟨saves, ?_, ?_⟩
    · rw [left.saved, left.terms]
      exact h.last
    · rw [left.saved, left.announced, h.announced]

/-- **The saved copy never drifts.** In every run of a session that saves its terms, the terms saved
last are those that it holds, or none were saved and it holds those it began with. A call that is
not skipped, and is no mere search, saves them once, as they are after it; no other move saves
anything. What was saved is what was announced, in the same order. -/
theorem saved_never_drifts (config : Config) (directory : Directory) (kept : List String)
    (moves : List Move) :
    let run := (start (Session.new config true directory kept) directory).play moves
    ((Effect.saved run.effects).getLast? = some (Terms.render run.session.terms) ∨
      Effect.saved run.effects = [] ∧
        run.session.terms = Selection.restore directory kept) ∧
    (∀ move, run.Rewrites move →
      Effect.saved (run.step move).effects =
        Effect.saved run.effects ++ [Terms.render (run.step move).session.terms]) ∧
    (∀ move, ¬ run.Rewrites move →
      Effect.saved (run.step move).effects = Effect.saved run.effects) ∧
    Effect.saved run.effects = Effect.announced run.effects := by
  intro run
  have fresh : UpToDate (Selection.restore directory kept)
      (start (Session.new config true directory kept) directory) :=
    ⟨rfl, Or.inr ⟨rfl, rfl⟩, rfl⟩
  have upToDate : UpToDate (Selection.restore directory kept) run :=
    play_invariant UpToDate.step moves fresh
  refine ⟨upToDate.last, ?_, ?_, upToDate.announced⟩
  · intro move rewrites
    exact (handsOut_step upToDate.saves rewrites).saved
  · intro move plain
    exact (leavesTerms_step plain).saved

/-- What happens to a session that begins with a journal: the directory forgets the journal, an edit
that would have changed nothing else drops it, and the search for the rest fails. -/
def forgotten : List Move :=
  [.setDirectory (.ofList []), .call (.remove "tag:a"), .answer 0 (.failure (.store "offline"))]

theorem forgotten_never_drifts :
    let config : Config := ⟨1, by decide⟩
    let directory : Directory := .ofList [("work", "j")]
    let run := (start (Session.new config true directory ["in:work", "word"]) directory).play forgotten
    Effect.saved run.effects = [["text:word"]] ∧
      (Effect.saved run.effects).getLast? = some (Terms.render run.session.terms) ∧
      run.Rewrites (.call (.add "note")) ∧
      Effect.saved (run.step (.call (.add "note"))).effects =
        Effect.saved run.effects ++
          [Terms.render (run.step (.call (.add "note"))).session.terms] ∧
      ¬ run.Rewrites (.call .search) ∧
      Effect.saved (run.step (.call .search)).effects = Effect.saved run.effects ∧
      Effect.saved run.effects = Effect.announced run.effects := by
  intro config directory
  have truth := saved_never_drifts config directory ["in:work", "word"] forgotten
  -- What the run is like is seen by carrying it out; what follows holds of any such run.
  generalize made :
    (start (Session.new config true directory ["in:work", "word"]) directory).play forgotten = run
    at truth ⊢
  have saved : Effect.saved run.effects = [["text:word"]] := by
    rw [← made]
    decide +kernel
  have adds : run.Rewrites (.call (.add "note")) := by
    refine ⟨by decide, ?_⟩
    rw [← made]
    decide +kernel
  have plain : ¬ run.Rewrites (.call .search) := fun rewrites => rewrites.1 rfl
  obtain ⟨last, once, never, announced⟩ := truth
  refine ⟨saved, ?_, adds, once _ adds, plain, never _ plain, announced⟩
  rcases last with last | ⟨none, _⟩
  · exact last
  · rw [none] at saved
    cases saved

end Run

end FacetSearch
