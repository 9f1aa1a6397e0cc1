import FacetSearch.Proofs.Run.Record

/-!
# What a session shows

A session shows what has become of its newest call: that the answer is awaited, that it failed, or
the page that came. Which of the three it is can be read off the answer that the call has had, and
no late, failed or abandoned call gets in between. The newest call has asked what the terms still
ask, so what is shown belongs to the terms.
-/

namespace FacetSearch

/-! ## Three ways to look -/

section Shown

/-- The answer to a call is awaited. -/
structure Session.Pending (answer : Option Reply) (session : Session) : Prop where
  unanswered : answer = none
  loading : session.loading = true
  error : session.error = none

/-- The store has failed to answer a call, and the session says so. -/
structure Session.Failed (answer : Option Reply) (session : Session) : Prop where
  loading : session.loading = false
  error : ∃ error, answer = some (.failure error) ∧ session.error = some error.message

/-- The store has answered a call, and the session shows the page. -/
structure Session.Settled (answer : Option Reply) (session : Session) : Prop where
  loading : session.loading = false
  error : session.error = none
  page : ∃ documents, answer = some (.documents documents) ∧
    session.documents = documents.take session.config.pageSize.toNat ∧
    session.paging.next =
      if session.config.pageSize.toNat < documents.length
      then documents.getLast?.map (·.id) else none

def Session.Shows (answer : Option Reply) (session : Session) : Prop :=
  session.Pending answer ∨ session.Failed answer ∨ session.Settled answer

/-- What a session shows of a call: exactly one of the three. -/
def Session.ShowsOne (answer : Option Reply) (session : Session) : Prop :=
  (session.Pending answer ∧ ¬ session.Failed answer ∧ ¬ session.Settled answer) ∨
    (¬ session.Pending answer ∧ session.Failed answer ∧ ¬ session.Settled answer) ∨
    (¬ session.Pending answer ∧ ¬ session.Failed answer ∧ session.Settled answer)

variable {answer : Option Reply} {session : Session}

theorem Session.Pending.not_failed (h : session.Pending answer) : ¬ session.Failed answer := by
  intro failed
  have loading := h.loading
  rw [failed.loading] at loading
  exact Bool.noConfusion loading

theorem Session.Pending.not_settled (h : session.Pending answer) : ¬ session.Settled answer := by
  intro settled
  have loading := h.loading
  rw [settled.loading] at loading
  exact Bool.noConfusion loading

theorem Session.Failed.not_settled (h : session.Failed answer) : ¬ session.Settled answer := by
  intro settled
  obtain ⟨error, _, shown⟩ := h.error
  rw [settled.error] at shown
  cases shown

theorem Session.Shows.one (h : session.Shows answer) : session.ShowsOne answer := by
  rcases h with pending | failed | settled
  · exact Or.inl ⟨pending, pending.not_failed, pending.not_settled⟩
  · exact Or.inr (Or.inl ⟨fun pending => pending.not_failed failed, failed, failed.not_settled⟩)
  · exact Or.inr (Or.inr ⟨fun pending => pending.not_settled settled,
      fun failed => failed.not_settled settled, settled⟩)

/-- Of a call that has not been answered no failure can be shown. -/
theorem Session.Shows.awaited (h : session.Shows none) : session.error = none := by
  rcases h with pending | failed | settled
  · exact pending.error
  · obtain ⟨error, answered, _⟩ := failed.error
    cases answered
  · exact settled.error

/-- The answer to the newest call is shown, page or failure. -/
theorem Session.shows_receive (session : Session) (reply : Reply) (awaited : session.error = none) :
    (session.receive session.versions.newest reply).session.Shows (some reply) := by
  cases reply with
  | documents documents =>
      rw [receive_documents]
      exact Or.inr (Or.inr ⟨rfl, awaited, documents, rfl, rfl, rfl⟩)
  | failure error =>
      rw [receive_failure]
      exact Or.inr (Or.inl ⟨rfl, error, rfl, rfl⟩)

end Shown

/-! ## In every run -/

namespace Run

/-- The number of the newest call, once there is one. -/
def newest (run : Run) : Nat := run.asked - 1

theorem reply?_eq_none {run : Run} {number : Nat} (goes : run.ending? number = none) :
    run.reply? number = none := by
  unfold reply?
  rw [goes]
  rfl

theorem reply?_snoc {run after : Run} {last : Happening}
    (grown : after.history = run.history ++ [last]) (number : Nat) :
    after.reply? number = (run.reply? number).or ((last.ending? number).map Prod.fst) := by
  unfold reply?
  rw [ending?_snoc grown]
  cases run.ending? number <;> rfl

theorem reply?_of_endless {run after : Run} {last : Happening}
    (grown : after.history = run.history ++ [last])
    (endless : ∀ number, last.ending? number = none) (number : Nat) :
    after.reply? number = run.reply? number := by
  unfold reply?
  rw [ending?_of_endless grown endless]

theorem reply?_ended {run after : Run} {ended : Nat} {reply : Reply} {outcome : Outcome}
    {effects : List Effect}
    (grown : after.history = run.history ++ [.ended ended reply outcome effects]) (number : Nat) :
    after.reply? number = (run.reply? number).or (if ended = number then some reply else none) := by
  rw [reply?_snoc grown]
  by_cases same : ended = number
  · simp [Happening.ending?, same]
  · simp [Happening.ending?, same]

/-- While the newest call waits, no failure is shown. -/
theorem Recorded.error_eq_none {run : Run} (recorded : Recorded run) {call : Nat × Request}
    (waits : call ∈ run.waiting) (last : call.1 + 1 = run.asked)
    (shows : run.session.Shows (run.reply? run.newest)) : run.session.error = none := by
  have newest : run.newest = call.1 := by simp [Run.newest, ← last]
  rw [newest, reply?_eq_none (recorded.waits _ waits)] at shows
  exact shows.awaited

theorem shows_step {run after : Run} {move : Move} (orderly : Orderly run) (recorded : Recorded run)
    (moved : Moved run move after) (bound : after.asked < 2 ^ 64)
    (h : 0 < run.asked → run.session.Shows (run.reply? run.newest)) :
    0 < after.asked → after.session.Shows (after.reply? after.newest) := by
  intro searched
  cases moved with
  | skipped nothing =>
      rw [reply?_of_endless rfl (fun _ => rfl)]
      exact h searched
  | began carriedOut =>
      -- The new call has just been given its number, so no ending is on record under it.
      have fresh : run.reply? run.asked = none := reply?_eq_none (recorded.fresh _ (Nat.le_refl _))
      rw [reply?_of_endless rfl (fun _ => rfl)]
      show Session.Shows (run.reply? run.asked) _
      rw [fresh]
      exact Or.inl ⟨rfl, rfl, rfl⟩
  | @ended number reply request waits =>
      have waiting := mem_of_request? waits
      have current := orderly.version_eq_newest bound waiting
      rw [reply?_ended rfl]
      show Session.Shows ((run.reply? run.newest).or (if number = run.newest then some reply else none))
        (run.session.receive request.version reply).session
      by_cases last : number + 1 = run.asked
      · have newest : run.newest = number := by simp [newest, ← last]
        have unanswered : run.reply? number = none := reply?_eq_none (recorded.waits _ waiting)
        have awaited : run.session.error = none :=
          recorded.error_eq_none waiting last (h searched)
        rw [current.mpr last, newest, unanswered, if_pos rfl]
        exact run.session.shows_receive reply awaited
      · have other : number ≠ run.newest := by
          have asked := orderly.asked _ waiting
          simp only [newest]
          omega
        have late : request.version ≠ run.session.versions.newest := fun same =>
          last (current.mp same)
        rw [Session.receive_late late, if_neg other, Option.or_none]
        exact h searched
  | cancelled waits =>
      rw [reply?_of_endless rfl (fun _ => rfl)]
      exact h searched
  | unheard gone => exact h searched
  | missed gone => exact h searched
  | redirected directory => exact h searched

theorem asked_le_step {run after : Run} {move : Move} (moved : Moved run move after) :
    run.asked ≤ after.asked := by
  cases moved with
  | began carriedOut => exact Nat.le_succ _
  | skipped nothing => exact Nat.le_refl _
  | ended waits => exact Nat.le_refl _
  | cancelled waits => exact Nat.le_refl _
  | unheard gone => exact Nat.le_refl _
  | missed gone => exact Nat.le_refl _
  | redirected directory => exact Nat.le_refl _

theorem Reachable.shows {may : Move → Prop} {run : Run} (reached : Reachable may run)
    (bound : run.asked < 2 ^ 64) :
    0 < run.asked → run.session.Shows (run.reply? run.newest) := by
  induction reached with
  | new config saves directory kept => exact fun searched => absurd searched (Nat.lt_irrefl 0)
  | @step run move reached _ ih =>
      have moved := moved_step run move
      exact shows_step reached.orderly reached.recorded moved bound
        (ih (Nat.lt_of_le_of_lt (asked_le_step moved) bound))

/-- **What is shown belongs to the terms.** Once there was a search, the last query sent is the one
that the terms make, and of its call exactly one thing is shown: that the answer is awaited, that
the store has failed, or the page that it answered. -/
theorem shows_newest_answer {run : Run} (reached : Reachable Move.KeepsDirectory run)
    (bound : run.asked < 2 ^ 64) (searched : 0 < run.asked) :
    (Effect.queries run.effects).getLast? = some (run.session.query run.directory) ∧
      run.session.ShowsOne (run.reply? run.newest) := by
  constructor
  · exact reached.last_query searched
  · exact (reached.shows bound searched).one

/-- A run in which a search was answered, but only after a later one had failed. -/
def overtaken : Run :=
  rehearsal [.call .search, .call (.add "word"),
    .answer 1 (.failure (.serialization "EOF while parsing a value")),
    .answer 0 (.documents [rehearsed "b"])]

theorem overtaken_shows_newest_answer :
    Reachable Move.KeepsDirectory overtaken ∧ overtaken.asked < 2 ^ 64 ∧ 0 < overtaken.asked ∧
      (Effect.queries overtaken.effects).getLast? =
        some (overtaken.session.query overtaken.directory) ∧
      overtaken.session.error = some "Serialization error: EOF while parsing a value" ∧
      overtaken.session.ShowsOne (overtaken.reply? overtaken.newest) := by
  have reached : Reachable Move.KeepsDirectory overtaken :=
    reachable_rehearsal _ (by simp [Move.KeepsDirectory])
  have bound : overtaken.asked < 2 ^ 64 := by decide +kernel
  have searched : 0 < overtaken.asked := by decide +kernel
  have failed : overtaken.session.error = some "Serialization error: EOF while parsing a value" := by
    decide +kernel
  obtain ⟨query, shows⟩ := shows_newest_answer reached bound searched
  exact ⟨reached, bound, searched, query, failed, shows⟩

end Run

end FacetSearch
