import FacetSearch.Proofs.Run.Shown

/-!
# When a session stops loading

A session loads from the moment that a search is begun until the answer to the newest one comes.
That a call is given up is not told to the session. So once no call waits any more, nothing is
loading if the newest call was answered, whatever has become of the others; but if the newest call
was given up, the session loads on.
-/

namespace FacetSearch

theorem Session.loading_receive_newest (session : Session) (reply : Reply) :
    (session.receive session.versions.newest reply).session.loading = false := by
  cases reply with
  | documents answer =>
      rw [receive_documents]
      rfl
  | failure error =>
      rw [receive_failure]
      rfl

namespace Run

/-! ## What has become of the calls -/

/-- The call waits for the store. -/
def Awaits (run : Run) (number : Nat) : Prop :=
  ∃ request, (number, request) ∈ run.waiting

/-- The call was given up while it waited. -/
def GaveUp (run : Run) (number : Nat) : Prop :=
  .cancelled number ∈ run.history

section Closing

variable {run after : Run}

/-- Where a call is closed, the others that waited wait on. -/
theorem awaits_of_others {closed : Nat} (waiting : after.waiting = run.others closed)
    {number : Nat} : after.Awaits number ↔ run.Awaits number ∧ number ≠ closed := by
  unfold Awaits
  rw [waiting]
  constructor
  · rintro ⟨request, hcall⟩
    obtain ⟨waits, differs⟩ := mem_others.mp hcall
    exact ⟨⟨request, waits⟩, differs⟩
  · rintro ⟨⟨request, waits⟩, differs⟩
    exact ⟨request, mem_others.mpr ⟨waits, differs⟩⟩

theorem gaveUp_snoc {last : Happening} (grown : after.history = run.history ++ [last])
    {number : Nat} : after.GaveUp number ↔ run.GaveUp number ∨ last = .cancelled number := by
  unfold GaveUp
  rw [grown, List.mem_append, List.mem_singleton]
  exact or_congr_right eq_comm

end Closing

/-- Every call that has asked the store waits, has ended, or was given up; and of one that was given
up nothing more is heard. -/
structure Followed (run : Run) : Prop where
  fate : ∀ number < run.asked, run.Awaits number ∨ (run.ending? number).isSome ∨ run.GaveUp number
  silent : ∀ number, run.GaveUp number →
    number < run.asked ∧ ¬ run.Awaits number ∧ run.ending? number = none

theorem Followed.step {run after : Run} {move : Move} (orderly : Orderly run)
    (recorded : Recorded run) (h : Followed run) (moved : Moved run move after) :
    Followed after := by
  cases moved with
  | skipped nothing =>
      constructor
      · intro number hnumber
        rw [ending?_of_endless rfl (fun _ => rfl), gaveUp_snoc rfl]
        exact (h.fate number hnumber).imp_right (Or.imp_right Or.inl)
      · intro number given
        rw [ending?_of_endless rfl (fun _ => rfl)]
        exact h.silent number (((gaveUp_snoc rfl).mp given).resolve_right (by simp))
  | @began command changed carriedOut =>
      constructor
      · intro number hnumber
        rw [ending?_of_endless rfl (fun _ => rfl), gaveUp_snoc rfl]
        rcases Nat.lt_succ_iff_lt_or_eq.mp hnumber with old | rfl
        · rcases h.fate number old with ⟨request, waits⟩ | ended | given
          · exact Or.inl ⟨request, List.mem_append_left _ waits⟩
          · exact Or.inr (Or.inl ended)
          · exact Or.inr (Or.inr (Or.inl given))
        · exact Or.inl ⟨_, List.mem_append_right _ List.mem_cons_self⟩
      · intro number given
        obtain ⟨asked, gone, endless⟩ :=
          h.silent number (((gaveUp_snoc rfl).mp given).resolve_right (by simp))
        refine ⟨Nat.lt_succ_of_lt asked, ?_, ?_⟩
        · rintro ⟨request, waits⟩
          rcases List.mem_append.mp waits with old | new
          · exact gone ⟨request, old⟩
          · exact Nat.ne_of_lt asked (congrArg Prod.fst (List.mem_singleton.mp new))
        · rw [ending?_of_endless rfl (fun _ => rfl)]
          exact endless
  | @ended number reply request waits =>
      have closed : run.Awaits number := ⟨request, mem_of_request? waits⟩
      constructor
      · intro other hother
        rw [ending?_snoc rfl, gaveUp_snoc rfl, awaits_of_others rfl]
        by_cases same : number = other
        · exact Or.inr (Or.inl (by simp [Happening.ending?, same]))
        · rcases h.fate other hother with waiting | ended | given
          · exact Or.inl ⟨waiting, Ne.symm same⟩
          · exact Or.inr (Or.inl (by simp [ended]))
          · exact Or.inr (Or.inr (Or.inl given))
      · intro other given
        obtain ⟨asked, gone, endless⟩ :=
          h.silent other (((gaveUp_snoc rfl).mp given).resolve_right (by simp))
        have differs : number ≠ other := fun same => gone (same ▸ closed)
        refine ⟨asked, fun waiting => gone ((awaits_of_others rfl).mp waiting).1, ?_⟩
        rw [ending?_snoc rfl, endless]
        simp [Happening.ending?, differs]
  | @cancelled number request waits =>
      have waiting := mem_of_request? waits
      constructor
      · intro other hother
        rw [ending?_of_endless rfl (fun _ => rfl), gaveUp_snoc rfl, awaits_of_others rfl]
        by_cases same : number = other
        · exact Or.inr (Or.inr (Or.inr (by rw [same])))
        · rcases h.fate other hother with waiting | ended | given
          · exact Or.inl ⟨waiting, Ne.symm same⟩
          · exact Or.inr (Or.inl ended)
          · exact Or.inr (Or.inr (Or.inl given))
      · intro other given
        rw [ending?_of_endless rfl (fun _ => rfl), awaits_of_others rfl]
        rcases (gaveUp_snoc rfl).mp given with old | new
        · obtain ⟨asked, gone, endless⟩ := h.silent other old
          exact ⟨asked, fun waits => gone waits.1, endless⟩
        · obtain rfl := Happening.cancelled.inj new
          exact ⟨orderly.asked _ waiting, fun waits => waits.2 rfl, recorded.waits _ waiting⟩
  | unheard gone => exact h
  | missed gone => exact h
  | redirected directory => exact ⟨h.fate, h.silent⟩

theorem Reachable.followed {may : Move → Prop} {run : Run} (reached : Reachable may run) :
    Followed run := by
  induction reached with
  | new config saves directory kept =>
      constructor
      · intro number hnumber
        exact absurd hnumber (Nat.not_lt_zero number)
      · intro number given
        exact absurd given List.not_mem_nil
  | step reached _ ih => exact ih.step reached.orderly reached.recorded (moved_step _ _)

/-! ## Loading -/

/-- **While a session loads**, its newest call has not been answered. Other than what is shown, this
does not depend on how many versions there are: the newest call always holds the newest one. -/
theorem loading_step {run after : Run} {move : Move} (orderly : Orderly run)
    (recorded : Recorded run) (moved : Moved run move after)
    (h : run.session.loading = true → 0 < run.asked ∧ run.ending? run.newest = none) :
    after.session.loading = true → 0 < after.asked ∧ after.ending? after.newest = none := by
  intro loading
  cases moved with
  | skipped nothing =>
      rw [ending?_of_endless rfl (fun _ => rfl)]
      exact h loading
  | began carriedOut =>
      rw [ending?_of_endless rfl (fun _ => rfl)]
      exact ⟨Nat.succ_pos _, recorded.fresh run.asked (Nat.le_refl _)⟩
  | @ended number reply request waits =>
      by_cases current : request.version = run.session.versions.newest
      · rw [current, Session.loading_receive_newest] at loading
        exact Bool.noConfusion loading
      · rw [Session.receive_late current] at loading
        obtain ⟨asked, goes⟩ := h loading
        -- Only the newest call has its number, so it is another one that has ended.
        have other : number ≠ run.newest := by
          rintro rfl
          have version := orderly.versions _ (mem_of_request? waits)
          rw [show run.newest + 1 = run.asked by simp only [newest]; omega] at version
          exact current (version.trans orderly.newest.symm)
        refine ⟨asked, ?_⟩
        rw [ending?_snoc rfl]
        show (run.ending? run.newest).or (if number = run.newest then some _ else none) = none
        rw [goes, if_neg other]
        rfl
  | cancelled waits =>
      rw [ending?_of_endless rfl (fun _ => rfl)]
      exact h loading
  | unheard gone => exact h loading
  | missed gone => exact h loading
  | redirected directory => exact h loading

theorem Reachable.ending?_of_loading {may : Move → Prop} {run : Run}
    (reached : Reachable may run) :
    run.session.loading = true → 0 < run.asked ∧ run.ending? run.newest = none := by
  induction reached with
  | new config saves directory kept => exact fun loading => Bool.noConfusion loading
  | step reached _ ih => exact loading_step reached.orderly reached.recorded (moved_step _ _) ih

/-- **Nothing is loading once no call waits**, unless the newest call was given up. If it was, the
session loads on, as long as the versions have not begun anew. -/
theorem loads_on_only_if_given_up {run : Run} (reached : Reachable Move.Any run)
    (finished : run.waiting = []) :
    (¬ run.GaveUp run.newest → run.session.loading = false) ∧
      (run.asked < 2 ^ 64 → run.GaveUp run.newest → run.session.loading = true) := by
  constructor
  · intro kept
    by_contra loading
    obtain ⟨asked, goes⟩ := reached.ending?_of_loading (by simpa using loading)
    have last : run.newest < run.asked := by
      simp only [newest]
      omega
    rcases reached.followed.fate run.newest last with ⟨request, waits⟩ | ended | given
    · rw [finished] at waits
      exact List.not_mem_nil waits
    · rw [goes] at ended
      exact Bool.noConfusion ended
    · exact kept given
  · intro bound given
    obtain ⟨asked, -, goes⟩ := reached.followed.silent run.newest given
    have shows := reached.shows bound (Nat.zero_lt_of_lt asked)
    rw [reply?_eq_none goes] at shows
    rcases shows with pending | failed | settled
    · exact pending.loading
    · obtain ⟨error, answered, -⟩ := failed.error
      cases answered
    · obtain ⟨documents, answered, -⟩ := settled.page
      cases answered

/-- A run in which an older call is given up, and the newest is answered. -/
def outlived : Run :=
  rehearsal [.call .search, .call (.add "word"), .cancel 0, .answer 1 (.documents [rehearsed "b"])]

/-- A run in which the newest call is given up, and an older one is answered. -/
def abandoned : Run :=
  rehearsal [.call .search, .call (.add "word"), .cancel 1, .answer 0 (.documents [rehearsed "b"])]

theorem reachable_abandoned : Reachable Move.Any abandoned :=
  reachable_rehearsal _ (by simp [Move.Any])

theorem outlived_loads_no_more :
    Reachable Move.Any outlived ∧ outlived.waiting = [] ∧ ¬ outlived.GaveUp outlived.newest ∧
      outlived.session.loading = false ∧
    Reachable Move.Any abandoned ∧ abandoned.waiting = [] ∧ abandoned.asked < 2 ^ 64 ∧
      abandoned.GaveUp abandoned.newest ∧ abandoned.session.loading = true := by
  have reached : Reachable Move.Any outlived := reachable_rehearsal _ (by simp [Move.Any])
  have finished : outlived.waiting = [] := by decide +kernel
  have kept : ¬ outlived.GaveUp outlived.newest := by
    show .cancelled outlived.newest ∉ outlived.history
    decide +kernel
  have finished' : abandoned.waiting = [] := by decide +kernel
  have bound : abandoned.asked < 2 ^ 64 := by decide +kernel
  have given : abandoned.GaveUp abandoned.newest := by
    show .cancelled abandoned.newest ∈ abandoned.history
    decide +kernel
  exact ⟨reached, finished, kept, (loads_on_only_if_given_up reached finished).1 kept,
    reachable_abandoned, finished', bound, given,
    (loads_on_only_if_given_up reachable_abandoned finished').2 bound given⟩

/-- Nothing is loading once no call waits. -/
def LoadsOnlyWhileWaiting (run : Run) : Prop :=
  run.waiting = [] → run.session.loading = false

/-- **A session may load though no call waits**: the newest call was given up. -/
theorem abandoned_not_loadsOnlyWhileWaiting :
    Reachable Move.Any abandoned ∧ ¬ abandoned.LoadsOnlyWhileWaiting := by
  refine ⟨reachable_abandoned, fun law => ?_⟩
  have loading : abandoned.session.loading = true := by decide +kernel
  rw [law (by decide +kernel)] at loading
  cases loading

end Run

end FacetSearch
