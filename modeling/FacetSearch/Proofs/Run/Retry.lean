import FacetSearch.Proofs.Run.Record

/-!
# Searching again after a failure

A call changes the terms and the page before the store is asked, and a failure takes nothing of that
back. This is what makes it possible to try again: the terms that a failed call has left make the
query that failed, and to search for them leads where the call would have led. Only the way back is
lost, since a search begins a new one. It is no loss after an edit, which begins a new one too.
-/

namespace FacetSearch

/-! ## One call and its reply -/

namespace Session

section Answered

variable {directory : Directory} {command : Command} {session changed : Session}

/-- The session after a call whose search has had this reply. -/
def answered (directory : Directory) (command : Command) (reply : Reply) (changed : Session) :
    Session :=
  let begun := changed.begun directory command
  (begun.session.receive begun.request.version reply).session

theorem answered_documents (answer : List Document) :
    changed.answered directory command (.documents answer) =
      { changed with
        loading := false
        error := none
        paging := changed.paging.record changed.config.pageSize answer
        documents := Paging.shown changed.config.pageSize answer
        versions := changed.versions.next } :=
  congrArg Answered.session (receive_documents answer)

/-- A failure takes nothing back of what the call has changed. -/
theorem answered_failure (error : SearchError) :
    changed.answered directory command (.failure error) =
      { changed with
        loading := false
        error := some error.message
        versions := changed.versions.next } :=
  congrArg Answered.session (receive_failure error)

/-- **To search again** for what a failed call has left gives the session that the call would have
given, one version later and with no way back. -/
theorem answered_again (error : SearchError) (reply : Reply) :
    let failed := changed.answered directory command (.failure error)
    let answered := changed.answered directory command reply
    Session.answered directory .search reply { failed with paging := failed.paging.reset } =
      { answered with
        paging := answered.paging.reset
        versions := answered.versions.next } := by
  intro failed answered
  have left : failed = _ := answered_failure error
  rw [left]
  cases reply with
  | documents page =>
      have given : answered = _ := answered_documents page
      rw [answered_documents, given]
      rfl
  | failure again =>
      have given : answered = _ := answered_failure again
      rw [answered_failure, given]

/-- Only a turn of the page leaves a page behind. -/
theorem CarriedOut.history_eq_nil (h : CarriedOut directory session command changed)
    (notNext : command ≠ .next) (notPrev : command ≠ .prev) : changed.paging.history = [] := by
  cases h with
  | edited edit => rfl
  | searched => rfl
  | forward cursor => exact absurd rfl notNext
  | back left => exact absurd rfl notPrev

end Answered

end Session

/-! ## Trying again -/

namespace Run

/-- Calls the session, and lets the store reply to this call at once. -/
def attempt (command : Command) (reply : Reply) (run : Run) : Run :=
  run.play [.call command, .answer run.asked reply]

section Attempt

variable {run : Run} {command : Command} {reply : Reply} {changed : Session}

theorem Orderly.attempt (h : Orderly run) : Orderly (run.attempt command reply) := by
  have called : Orderly (run.step (.call command)) := h.step (moved_step _ _)
  exact called.step (moved_step _ (.answer run.asked reply))

/-- All that comes of a call that is not skipped and has this reply. -/
theorem Orderly.attempt_eq (h : Orderly run)
    (carriedOut : run.session.carryOut? run.directory command = some changed) (reply : Reply) :
    (run.attempt command reply).directory = run.directory ∧
      (run.attempt command reply).session = changed.answered run.directory command reply ∧
      Effect.queries (run.attempt command reply).effects =
        Effect.queries run.effects ++ [changed.query run.directory] := by
  have called : run.attempt command reply = (run.call command).answer run.asked reply := rfl
  rw [called, h.answer_call carriedOut]
  refine ⟨rfl, rfl, ?_⟩
  show Effect.queries ((run.history ++ [_] ++ [_]).flatMap Happening.effects) = _
  rw [List.flatMap_append, List.flatMap_append, Effect.queries_append, Effect.queries_append,
    List.flatMap_singleton, List.flatMap_singleton]
  show _ ++ Effect.queries (changed.begun run.directory command).effects ++
    Effect.queries (Session.receive _ reply _).effects = _
  rw [Session.queries_begun, Session.queries_receive, List.append_nil]
  rfl

end Attempt

/-- **What fails can be tried again.** Let a call that is not skipped fail, and then search. The
search sends the query that failed. With the reply that the call might have had, it leads to the
session that the call would have led to, but for the numbering and the way back: there is none. So if
the call turned no page, the way back is the same too. -/
theorem search_makes_good {may : Move → Prop} {run : Run} (reached : Reachable may run)
    {command : Command} (begins : (run.session.begin? run.directory command).isSome)
    (reply : Reply) (error : SearchError) :
    let answered := run.attempt command reply
    let failed := run.attempt command (.failure error)
    let retried := failed.attempt .search reply
    (∃ query, Effect.queries failed.effects = Effect.queries run.effects ++ [query] ∧
      Effect.queries retried.effects = Effect.queries failed.effects ++ [query]) ∧
    retried.session =
      { answered.session with
        paging := answered.session.paging.reset
        versions := answered.session.versions.next } ∧
    retried.session.query retried.directory = answered.session.query answered.directory ∧
    retried.session.paging.history = [] ∧
    (command ≠ .next → command ≠ .prev →
      retried.session.paging.history = answered.session.paging.history) := by
  intro answered failed retried
  obtain ⟨changed, carriedOut⟩ : ∃ changed,
      run.session.carryOut? run.directory command = some changed := by
    rw [Session.begin?_eq, Option.isSome_map] at begins
    exact Option.isSome_iff_exists.mp begins
  obtain ⟨directory, shown, -⟩ := reached.orderly.attempt_eq carriedOut reply
  obtain ⟨directory', left, sent⟩ := reached.orderly.attempt_eq carriedOut (.failure error)
  -- The failed session can always search, and its terms are those of the failed query.
  have orderly : Orderly failed := reached.orderly.attempt
  have searches : failed.session.carryOut? failed.directory .search =
      some { failed.session with paging := failed.session.paging.reset } := rfl
  obtain ⟨directory'', made, again⟩ := orderly.attempt_eq searches reply
  have same : retried.session =
      { answered.session with
        paging := answered.session.paging.reset
        versions := answered.session.versions.next } := by
    rw [show retried.session = _ from made, directory', left, Session.answered_again, ← shown]
  refine ⟨⟨changed.query run.directory, sent, ?_⟩, same, ?_, ?_, ?_⟩
  · rw [show Effect.queries retried.effects = _ from again, directory', left,
      Session.answered_failure]
    rfl
  · rw [same, show retried.directory = _ from directory'', directory', directory]
    rfl
  · rw [same]
    rfl
  · intro notNext notPrev
    have forgotten : changed.paging.history = [] :=
      (Session.carriedOut_of_carryOut? carriedOut).history_eq_nil notNext notPrev
    have kept : answered.session.paging.history = changed.paging.history := by
      rw [show answered.session = _ from shown]
      exact Session.history_receive
    rw [same, kept, forgotten]
    rfl

/-- A run in which the first of two pages is shown. -/
def opened : Run :=
  rehearsal [.call (.add "word"), .answer 0 (.documents [rehearsed "b", rehearsed "a"])]

/-- The second page can be asked for again when the store has failed to answer. The page is the same,
but no way leads back from it. -/
theorem opened_makes_good :
    let reply : Reply := .documents [rehearsed "a"]
    let answered := opened.attempt .next reply
    let failed := opened.attempt .next (.failure (.invalidConfig "no index"))
    let retried := failed.attempt .search reply
    Reachable Move.KeepsDirectory opened ∧
      (opened.session.begin? opened.directory .next).isSome ∧
      (∃ query, Effect.queries failed.effects = Effect.queries opened.effects ++ [query] ∧
        Effect.queries retried.effects = Effect.queries failed.effects ++ [query]) ∧
      retried.session =
        { answered.session with
          paging := answered.session.paging.reset
          versions := answered.session.versions.next } ∧
      retried.session.query retried.directory = answered.session.query answered.directory ∧
      retried.session.paging.history = [] ∧ answered.session.paging.history = [none] := by
  intro reply answered failed retried
  have reached : Reachable Move.KeepsDirectory opened :=
    reachable_rehearsal _ (by simp [Move.KeepsDirectory])
  have begins : (opened.session.begin? opened.directory .next).isSome := by decide +kernel
  have behind : answered.session.paging.history = [none] := by decide +kernel
  obtain ⟨sent, same, asks, lost, -⟩ :=
    search_makes_good reached begins reply (.invalidConfig "no index")
  exact ⟨reached, begins, sent, same, asks, lost, behind⟩

end Run

end FacetSearch
