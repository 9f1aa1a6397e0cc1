import FacetSearch.Proofs.Run.Reachable

/-!
# The record of a run

A run keeps a record of what has happened. The record agrees with the state: a call that waits has
begun and has not ended, and a number that has not been given out has no ending. The last query on
record is the one that the terms still make.
-/

namespace FacetSearch

theorem Effect.queries_append (first second : List Effect) :
    queries (first ++ second) = queries first ++ queries second :=
  List.filterMap_append

namespace Run

/-! ## One more happening -/

section Snoc

variable {run after : Run} {last : Happening}

theorem ending?_snoc (grown : after.history = run.history ++ [last]) (number : Nat) :
    after.ending? number = (run.ending? number).or (last.ending? number) := by
  unfold ending?
  rw [grown, List.findSome?_append, List.findSome?_cons]
  cases last.ending? number <;> rfl

/-- Where no call ends, the endings stay. -/
theorem ending?_of_endless (grown : after.history = run.history ++ [last])
    (endless : ∀ number, last.ending? number = none) (number : Nat) :
    after.ending? number = run.ending? number := by
  rw [ending?_snoc grown, endless, Option.or_none]

theorem effects_snoc (grown : after.history = run.history ++ [last]) :
    after.effects = run.effects ++ last.effects := by
  unfold effects
  rw [grown, List.flatMap_append, List.flatMap_singleton]

/-- Where nothing goes out, what has gone out stays. -/
theorem effects_of_silent (grown : after.history = run.history ++ [last])
    (silent : last.effects = []) : after.effects = run.effects := by
  rw [effects_snoc grown, silent, List.append_nil]

end Snoc

/-! ## Agreement of record and state -/

/-- The record of a run tells of its calls what the state tells. -/
structure Recorded (run : Run) : Prop where
  fresh : ∀ number, run.asked ≤ number → run.ending? number = none
  waits : ∀ call ∈ run.waiting, run.ending? call.1 = none
  began : ∀ call ∈ run.waiting, ∃ command effects,
    .began call.1 command call.2 effects ∈ run.history

theorem Recorded.step {run after : Run} {move : Move} (orderly : Orderly run) (h : Recorded run)
    (moved : Moved run move after) : Recorded after := by
  have kept : ∀ {last : Happening} {call : Nat × Request}, call ∈ run.waiting →
      ∃ command effects, .began call.1 command call.2 effects ∈ run.history ++ [last] := by
    intro last call hcall
    obtain ⟨command, effects, hmem⟩ := h.began call hcall
    exact ⟨command, effects, List.mem_append_left _ hmem⟩
  cases moved with
  | skipped nothing =>
      refine ⟨?_, ?_, fun call hcall => kept hcall⟩
      · intro number hnumber
        rw [ending?_of_endless rfl (fun _ => rfl), h.fresh number hnumber]
      · intro call hcall
        rw [ending?_of_endless rfl (fun _ => rfl), h.waits call hcall]
  | began carriedOut =>
      refine ⟨?_, ?_, ?_⟩
      · intro number hnumber
        rw [ending?_of_endless rfl (fun _ => rfl), h.fresh number (Nat.le_of_succ_le hnumber)]
      · intro call hcall
        rw [ending?_of_endless rfl (fun _ => rfl)]
        rcases List.mem_append.mp hcall with old | new
        · exact h.waits call old
        · obtain rfl := List.mem_singleton.mp new
          exact h.fresh _ (Nat.le_refl _)
      · intro call hcall
        rcases List.mem_append.mp hcall with old | new
        · exact kept old
        · obtain rfl := List.mem_singleton.mp new
          exact ⟨_, _, List.mem_append_right _ List.mem_cons_self⟩
  | @ended number reply request waits =>
      have asked := orderly.asked _ (mem_of_request? waits)
      refine ⟨?_, ?_, ?_⟩
      · intro other hother
        have differs : number ≠ other := Nat.ne_of_lt (Nat.lt_of_lt_of_le asked hother)
        rw [ending?_snoc rfl, h.fresh other hother]
        simp [Happening.ending?, differs]
      · intro call hcall
        obtain ⟨old, differs⟩ := mem_others.mp hcall
        rw [ending?_snoc rfl, h.waits call old]
        simp [Happening.ending?, differs.symm]
      · intro call hcall
        exact kept (mem_others.mp hcall).1
  | cancelled waits =>
      refine ⟨?_, ?_, ?_⟩
      · intro other hother
        rw [ending?_of_endless rfl (fun _ => rfl), h.fresh other hother]
      · intro call hcall
        rw [ending?_of_endless rfl (fun _ => rfl), h.waits call (mem_others.mp hcall).1]
      · intro call hcall
        exact kept (mem_others.mp hcall).1
  | unheard gone => exact h
  | missed gone => exact h
  | redirected directory => exact ⟨h.fresh, h.waits, h.began⟩

theorem Reachable.recorded {may : Move → Prop} {run : Run} (reached : Reachable may run) :
    Recorded run := by
  induction reached with
  | new config saves directory kept =>
      exact ⟨fun _ _ => rfl, by simp [start], by simp [start]⟩
  | step reached _ ih => exact ih.step reached.orderly (moved_step _ _)

/-! ## The last query -/

/-- Nothing but a call asks the store, and no call that is skipped changes what would be asked. -/
theorem last_query_step {run after : Run} {move : Move} (moved : Moved run move after)
    (keeps : move.KeepsDirectory)
    (h : 0 < run.asked →
      (Effect.queries run.effects).getLast? = some (run.session.query run.directory)) :
    0 < after.asked →
      (Effect.queries after.effects).getLast? = some (after.session.query after.directory) := by
  intro searched
  cases moved with
  | skipped nothing =>
      rw [effects_of_silent rfl rfl]
      exact h searched
  | @began command changed carriedOut =>
      rw [effects_snoc rfl, Effect.queries_append]
      show (_ ++ Effect.queries (changed.begun run.directory command).effects).getLast? = _
      rw [Session.queries_begun]
      exact List.getLast?_concat
  | @ended number reply request waits =>
      rw [effects_snoc rfl, Effect.queries_append]
      show (_ ++ Effect.queries (run.session.receive request.version reply).effects).getLast? = _
      rw [Session.queries_receive, List.append_nil, h searched]
      exact congrArg some (Session.query_receive run.directory).symm
  | cancelled waits =>
      rw [effects_of_silent rfl rfl]
      exact h searched
  | unheard gone => exact h searched
  | missed gone => exact h searched
  | redirected directory => exact absurd keeps id

theorem Reachable.last_query {run : Run} (reached : Reachable Move.KeepsDirectory run) :
    0 < run.asked →
      (Effect.queries run.effects).getLast? = some (run.session.query run.directory) := by
  induction reached with
  | new config saves directory kept => exact fun searched => absurd searched (Nat.lt_irrefl 0)
  | step _ allowed ih => exact last_query_step (moved_step _ _) allowed ih

end Run

end FacetSearch
