import FacetSearch.Proofs.Run.Record

/-!
# Closing the calls that wait

Calls may wait in any number, and their answers may come in any order, or not at all. At most one of
them holds the newest version. Closing any other changes nothing but the list of those that wait; so
whatever the order, the session ends as if only the newest answer had come.
-/

namespace FacetSearch

/-- Closes a call: the store answers it, or, without a reply, it is given up. -/
def Move.close (number : Nat) : Option Reply → Move
  | some reply => .answer number reply
  | none => .cancel number

namespace Run

/-- The numbers of the calls that wait. -/
def numbers (run : Run) : List Nat := run.waiting.map Prod.fst

/-- Closes calls in this order. -/
def close (replies : Nat → Option Reply) (order : List Nat) (run : Run) : Run :=
  run.play (order.map fun number => .close number (replies number))

/-- Lets the store answer calls in this order. -/
def release (reply : Nat → Reply) (order : List Nat) (run : Run) : Run :=
  run.close (fun number => some (reply number)) order

/-- The call waits, and no search has been begun after it. -/
def HoldsNewest (run : Run) (number : Nat) : Prop :=
  ∃ request, run.request? number = some request ∧
    request.version = run.session.versions.newest

theorem close_cons (replies : Nat → Option Reply) (number : Nat) (rest : List Nat) (run : Run) :
    run.close replies (number :: rest) =
      (run.step (.close number (replies number))).close replies rest := rfl

theorem close_append (replies : Nat → Option Reply) (first second : List Nat) (run : Run) :
    run.close replies (first ++ second) = (run.close replies first).close replies second := by
  unfold close play
  rw [List.map_append, List.foldl_append]

/-! ## Which call holds the newest version -/

theorem lookup_cons_of_ne {calls : List (Nat × Request)} {number first : Nat} {request : Request}
    (differs : number ≠ first) :
    ((first, request) :: calls).lookup number = calls.lookup number := by
  rw [List.lookup_cons, beq_eq_false_iff_ne.mpr differs]

theorem request?_others {run : Run} {closed number : Nat} :
    (run.others closed).lookup number =
      if number = closed then none else run.request? number := by
  unfold others request?
  induction run.waiting with
  | nil => simp
  | cons call rest ih =>
      obtain ⟨first, request⟩ := call
      by_cases gone : first = closed
      · subst gone
        rw [List.filter_cons_of_neg (by simp), ih]
        by_cases same : number = first
        · rw [if_pos same, if_pos same]
        · rw [if_neg same, if_neg same, lookup_cons_of_ne same]
      · rw [List.filter_cons_of_pos (by simpa using gone)]
        by_cases same : number = first
        · subst same
          rw [if_neg gone, List.lookup_cons_self, List.lookup_cons_self]
        · rw [lookup_cons_of_ne same, ih, lookup_cons_of_ne same]

theorem request?_close_one {run : Run} {closed : Nat} {reply : Option Reply} (number : Nat) :
    (run.step (.close closed reply)).request? number =
      if number = closed then none else run.request? number := by
  have unheard (gone : run.request? closed = none) :
      run.request? number = if number = closed then none else run.request? number := by
    by_cases same : number = closed
    · rw [if_pos same, same, gone]
    · rw [if_neg same]
  have moved := moved_step run (.close closed reply)
  generalize run.step (.close closed reply) = after at moved
  cases reply with
  | some reply =>
      cases moved with
      | ended waits => exact request?_others
      | unheard gone => exact unheard gone
  | none =>
      cases moved with
      | cancelled waits => exact request?_others
      | missed gone => exact unheard gone

theorem versions_close_one {run : Run} {closed : Nat} {reply : Option Reply} :
    (run.step (.close closed reply)).session.versions = run.session.versions := by
  have moved := moved_step run (.close closed reply)
  generalize run.step (.close closed reply) = after at moved
  cases reply with
  | some reply =>
      cases moved with
      | ended waits => exact Session.versions_receive
      | unheard gone => rfl
  | none =>
      cases moved with
      | cancelled waits => rfl
      | missed gone => rfl

theorem request?_close {replies : Nat → Option Reply} {order : List Nat} {run : Run}
    (number : Nat) :
    (run.close replies order).request? number =
      if number ∈ order then none else run.request? number := by
  induction order generalizing run with
  | nil => simp [close, play]
  | cons first rest ih =>
      rw [close_cons, ih, request?_close_one]
      by_cases same : number = first
      · simp [same]
      · simp [same]

theorem versions_close {replies : Nat → Option Reply} {order : List Nat} {run : Run} :
    (run.close replies order).session.versions = run.session.versions := by
  induction order generalizing run with
  | nil => rfl
  | cons first rest ih => rw [close_cons, ih, versions_close_one]

/-- Closing calls takes the newest version from no call but those closed. -/
theorem holdsNewest_close (replies : Nat → Option Reply) (order : List Nat) {run : Run}
    {number : Nat} :
    (run.close replies order).HoldsNewest number ↔ run.HoldsNewest number ∧ number ∉ order := by
  unfold HoldsNewest
  rw [versions_close, request?_close]
  by_cases closed : number ∈ order
  · simp [closed]
  · simp [closed]

theorem HoldsNewest.mem_numbers {run : Run} {number : Nat} (h : run.HoldsNewest number) :
    number ∈ run.numbers := by
  obtain ⟨request, waits, _⟩ := h
  exact List.mem_map_of_mem (f := Prod.fst) (mem_of_request? waits)

/-- **At most one call holds the newest version.** -/
theorem Orderly.holdsNewest_unique {run : Run} (h : Orderly run) (bound : run.asked < 2 ^ 64)
    {one other : Nat} (hone : run.HoldsNewest one) (hother : run.HoldsNewest other) :
    one = other := by
  obtain ⟨_, waits, newest⟩ := hone
  obtain ⟨_, waits', newest'⟩ := hother
  have last := (h.version_eq_newest bound (mem_of_request? waits)).mp newest
  have last' := (h.version_eq_newest bound (mem_of_request? waits')).mp newest'
  exact Nat.succ_inj.mp (last.trans last'.symm)

/-! ## Closing late calls -/

theorem close_one_late {run : Run} {number : Nat} (reply : Option Reply)
    (late : ¬ run.HoldsNewest number) :
    (run.step (.close number reply)).session = run.session ∧
      (run.step (.close number reply)).effects = run.effects := by
  have moved := moved_step run (.close number reply)
  generalize run.step (.close number reply) = after at moved
  cases reply with
  | some reply =>
      cases moved with
      | @ended _ _ request waits =>
          have older : request.version ≠ run.session.versions.newest := fun newest =>
            late ⟨request, waits, newest⟩
          rw [effects_snoc rfl, Session.receive_late older]
          exact ⟨rfl, List.append_nil _⟩
      | unheard gone => exact ⟨rfl, rfl⟩
  | none =>
      cases moved with
      | cancelled waits =>
          rw [effects_snoc rfl]
          exact ⟨rfl, List.append_nil _⟩
      | missed gone => exact ⟨rfl, rfl⟩

/-- Late calls may be answered or given up, in any order: the session stays as it is, and nothing
goes out. -/
theorem close_late (replies : Nat → Option Reply) {order : List Nat} {run : Run}
    (late : ∀ number ∈ order, ¬ run.HoldsNewest number) :
    (run.close replies order).session = run.session ∧
      (run.close replies order).effects = run.effects := by
  induction order generalizing run with
  | nil => exact ⟨rfl, rfl⟩
  | cons first rest ih =>
      obtain ⟨session, effects⟩ := close_one_late (replies first)
        (late first List.mem_cons_self)
      have still : ∀ number ∈ rest,
          ¬ (run.step (.close first (replies first))).HoldsNewest number := by
        intro number hnumber holds
        have before : run.HoldsNewest number :=
          ((holdsNewest_close replies [first]).mp holds).1
        exact late number (List.mem_cons_of_mem _ hnumber) before
      obtain ⟨session', effects'⟩ := ih still
      rw [close_cons]
      exact ⟨session'.trans session, effects'.trans effects⟩

/-! ## Closing the newest call -/

section Newest

variable {run : Run} {number : Nat} {reply : Reply}

theorem HoldsNewest.answer (h : run.HoldsNewest number) (reply : Reply) :
    (run.step (.answer number reply)).session =
        (run.session.receive run.session.versions.newest reply).session ∧
      (run.step (.answer number reply)).history = run.history ++
        [.ended number reply (run.session.receive run.session.versions.newest reply).outcome
          (run.session.receive run.session.versions.newest reply).effects] := by
  obtain ⟨request, waits, newest⟩ := h
  have moved := moved_step run (.answer number reply)
  generalize run.step (.answer number reply) = after at moved
  cases moved with
  | ended waits' =>
      obtain rfl := Option.some.inj (waits.symm.trans waits')
      rw [newest]
      exact ⟨rfl, rfl⟩
  | unheard gone => exact absurd (waits.symm.trans gone) (by simp)

/-- Wherever the newest call stands among those that are closed, its answer is what comes of them. -/
theorem close_newest (replies : Nat → Option Reply) {before after : List Nat}
    (orderly : Orderly run) (bound : run.asked < 2 ^ 64)
    (h : run.HoldsNewest number) (answered : replies number = some reply)
    (nodup : (before ++ number :: after).Nodup) :
    (run.close replies (before ++ number :: after)).session =
        (run.session.receive run.session.versions.newest reply).session ∧
      (run.close replies (before ++ number :: after)).effects =
        run.effects ++ (run.session.receive run.session.versions.newest reply).effects := by
  have lateBefore : ∀ other ∈ before, ¬ run.HoldsNewest other := by
    intro other hother holds
    obtain rfl := orderly.holdsNewest_unique bound holds h
    exact (List.nodup_append.mp nodup).2.2 _ hother _ List.mem_cons_self rfl
  obtain ⟨session, effects⟩ := close_late replies lateBefore
  have still : (run.close replies before).HoldsNewest number := by
    refine (holdsNewest_close replies before).mpr ⟨h, fun hmem => ?_⟩
    exact lateBefore number hmem h
  -- It is answered where it stands, and those after it are late as those before it.
  obtain ⟨shown, recorded⟩ := still.answer reply
  have lateAfter : ∀ other ∈ after,
      ¬ ((run.close replies before).step (.answer number reply)).HoldsNewest other := by
    intro other hother holds
    rw [show Move.answer number reply = .close number (replies number) by rw [answered]; rfl]
      at holds
    have holds' : run.HoldsNewest other :=
      ((holdsNewest_close replies before).mp ((holdsNewest_close replies [number]).mp holds).1).1
    obtain rfl := orderly.holdsNewest_unique bound holds' h
    exact (List.nodup_cons.mp (List.nodup_append.mp nodup).2.1).1 hother
  obtain ⟨session', effects'⟩ := close_late replies lateAfter
  rw [close_append, close_cons, answered]
  show ((Run.step _ (.answer number reply)).close replies after).session = _ ∧
    ((Run.step _ (.answer number reply)).close replies after).effects = _
  rw [session', effects', shown, effects_snoc recorded, session, effects]
  exact ⟨rfl, rfl⟩

end Newest

/-- **Only the newest answer counts.** Two ways to close all the calls that wait, in different
orders and with different replies, come to the same if they agree on the newest call. -/
theorem close_congr {run : Run} (replies replies' : Nat → Option Reply) {one other : List Nat}
    (orderly : Orderly run) (bound : run.asked < 2 ^ 64)
    (hone : one.Perm run.numbers) (hother : other.Perm run.numbers)
    (agree : ∀ number, run.HoldsNewest number →
      ∃ reply, replies number = some reply ∧ replies' number = some reply) :
    (run.close replies one).session = (run.close replies' other).session ∧
      (run.close replies one).effects = (run.close replies' other).effects := by
  by_cases holder : ∃ number, run.HoldsNewest number
  · obtain ⟨number, holds⟩ := holder
    obtain ⟨reply, answered, answered'⟩ := agree number holds
    obtain ⟨before, after, split⟩ := List.append_of_mem (hone.mem_iff.mpr holds.mem_numbers)
    obtain ⟨before', after', split'⟩ := List.append_of_mem (hother.mem_iff.mpr holds.mem_numbers)
    have nodup := hone.symm.nodup orderly.nodup
    have nodup' := hother.symm.nodup orderly.nodup
    subst split split'
    obtain ⟨session, effects⟩ := close_newest replies orderly bound holds answered nodup
    obtain ⟨session', effects'⟩ := close_newest replies' orderly bound holds answered' nodup'
    exact ⟨session.trans session'.symm, effects.trans effects'.symm⟩
  -- If the newest call was given up before, all that wait are late.
  · have late : ∀ number, ¬ run.HoldsNewest number := fun number holds => holder ⟨number, holds⟩
    obtain ⟨session, effects⟩ := close_late replies (fun number (_ : number ∈ one) => late number)
    obtain ⟨session', effects'⟩ :=
      close_late replies' (fun number (_ : number ∈ other) => late number)
    exact ⟨session.trans session'.symm, effects.trans effects'.symm⟩

/-! ## What becomes of the calls -/

section Outcomes

variable {run : Run} {number : Nat}

theorem ending?_close_one {closed : Nat} {reply : Option Reply} (other : closed ≠ number) :
    (run.step (.close closed reply)).ending? number = run.ending? number := by
  have moved := moved_step run (.close closed reply)
  generalize run.step (.close closed reply) = after at moved
  cases reply with
  | some reply =>
      cases moved with
      | ended waits =>
          rw [ending?_snoc rfl]
          simp [Happening.ending?, other]
      | unheard gone => rfl
  | none =>
      cases moved with
      | cancelled waits =>
          exact ending?_of_endless rfl (fun _ => rfl) number
      | missed gone => rfl

theorem ending?_close {replies : Nat → Option Reply} {order : List Nat}
    (others : number ∉ order) : (run.close replies order).ending? number = run.ending? number := by
  induction order generalizing run with
  | nil => rfl
  | cons first rest ih =>
      rw [List.mem_cons, not_or] at others
      rw [close_cons, ih others.2, ending?_close_one (Ne.symm others.1)]

theorem answer_late {reply : Reply} (waits : number ∈ run.numbers)
    (late : ¬ run.HoldsNewest number) :
    (run.step (.answer number reply)).history =
      run.history ++ [.ended number reply .superseded []] := by
  have moved := moved_step run (.answer number reply)
  generalize run.step (.answer number reply) = after at moved
  cases moved with
  | @ended _ _ request asked =>
      have older : request.version ≠ run.session.versions.newest := fun newest =>
        late ⟨request, asked, newest⟩
      rw [Session.receive_late older]
  | unheard gone =>
      obtain ⟨call, hcall, rfl⟩ := List.mem_map.mp waits
      exact absurd (List.lookup_eq_none_iff.mp gone call hcall) (by simp)

/-- The outcome that the record notes for a call stays the same while others are closed. -/
theorem outcome?_release {reply : Nat → Reply} {before after : List Nat} {outcome : Outcome}
    {effects : List Effect} (fresh : run.ending? number = none)
    (nodup : (before ++ number :: after).Nodup)
    (recorded : ((run.release reply before).step (.answer number (reply number))).history =
      (run.release reply before).history ++ [.ended number (reply number) outcome effects]) :
    (run.release reply (before ++ number :: after)).outcome? number = some outcome := by
  have notBefore : number ∉ before := fun hmem =>
    (List.nodup_append.mp nodup).2.2 _ hmem _ List.mem_cons_self rfl
  have notAfter : number ∉ after := (List.nodup_cons.mp (List.nodup_append.mp nodup).2.1).1
  unfold release outcome?
  rw [close_append, close_cons, ending?_close notAfter]
  show Option.map Prod.snd (((run.release reply before).step
    (.answer number (reply number))).ending? number) = some outcome
  rw [ending?_snoc recorded]
  unfold release
  rw [ending?_close notBefore, fresh]
  simp [Happening.ending?]

variable {reply : Nat → Reply} {order : List Nat}

theorem outcome?_release_late (orderly : Orderly run) (recorded : Recorded run)
    (perm : order.Perm run.numbers) (waits : number ∈ run.numbers)
    (late : ¬ run.HoldsNewest number) :
    (run.release reply order).outcome? number = some .superseded := by
  have nodup := perm.symm.nodup orderly.nodup
  obtain ⟨call, hcall, rfl⟩ := List.mem_map.mp waits
  obtain ⟨before, after, rfl⟩ := List.append_of_mem (perm.mem_iff.mpr waits)
  refine outcome?_release (recorded.waits call hcall) nodup (answer_late ?_ ?_)
  · have notBefore : call.1 ∉ before := fun hmem =>
      (List.nodup_append.mp nodup).2.2 _ hmem _ List.mem_cons_self rfl
    have still : (run.release reply before).request? call.1 = run.request? call.1 := by
      unfold release
      rw [request?_close, if_neg notBefore]
    cases found : run.request? call.1 with
    | none => exact absurd (List.lookup_eq_none_iff.mp found call hcall) (by simp)
    | some request =>
        exact List.mem_map_of_mem (a := (call.1, request)) (mem_of_request? (still.trans found))
  · exact fun holds => late ((holdsNewest_close _ before).mp holds).1

theorem outcome?_release_newest (orderly : Orderly run) (recorded : Recorded run)
    (bound : run.asked < 2 ^ 64) (perm : order.Perm run.numbers) (holds : run.HoldsNewest number) :
    (run.release reply order).outcome? number =
      some (run.session.receive run.session.versions.newest (reply number)).outcome := by
  have nodup := perm.symm.nodup orderly.nodup
  have waits := holds.mem_numbers
  obtain ⟨call, hcall, rfl⟩ := List.mem_map.mp waits
  obtain ⟨before, after, rfl⟩ := List.append_of_mem (perm.mem_iff.mpr waits)
  have notBefore : call.1 ∉ before := fun hmem =>
    (List.nodup_append.mp nodup).2.2 _ hmem _ List.mem_cons_self rfl
  have late : ∀ other ∈ before, ¬ run.HoldsNewest other := by
    intro other hother holds'
    obtain rfl := orderly.holdsNewest_unique bound holds' holds
    exact notBefore hother
  have still : (run.release reply before).HoldsNewest call.1 :=
    (holdsNewest_close _ before).mpr ⟨holds, notBefore⟩
  have session : (run.release reply before).session = run.session := (close_late _ late).1
  rw [outcome?_release (recorded.waits call hcall) nodup (still.answer _).2, session]

end Outcomes

/-- **Answers in any order.** Let the calls that wait be answered, each with its reply. Whatever the
order, the session ends the same, the same events are published in the same order, and the same
becomes of each call. A call that does not hold the newest version is superseded, whatever its
reply: it changes nothing and nothing goes out, and it makes no difference if it is given up instead.
A failure of the newest call changes only the two flags that tell of it. -/
theorem release_in_any_order {run : Run} (reached : Reachable Move.Any run)
    (bound : run.asked < 2 ^ 64) (reply : Nat → Reply) {one other : List Nat}
    (hone : one.Perm run.numbers) (hother : other.Perm run.numbers) :
    ((run.release reply one).session = (run.release reply other).session ∧
      Effect.events (run.release reply one).effects =
        Effect.events (run.release reply other).effects ∧
      ∀ number ∈ run.numbers, ∃ outcome,
        (run.release reply one).outcome? number = some outcome ∧
        (run.release reply other).outcome? number = some outcome) ∧
    (∀ number before after, one = before ++ number :: after → ¬ run.HoldsNewest number →
      (run.release reply one).outcome? number = some .superseded ∧
      ((run.release reply before).step (.answer number (reply number))).session =
        (run.release reply before).session ∧
      ((run.release reply before).step (.answer number (reply number))).effects =
        (run.release reply before).effects) ∧
    (∀ given : Nat → Bool, (∀ number, given number = true → ¬ run.HoldsNewest number) →
      let replies := fun number => if given number then none else some (reply number)
      (run.close replies other).session = (run.release reply one).session ∧
      Effect.events (run.close replies other).effects =
        Effect.events (run.release reply one).effects) ∧
    (∀ number error, run.HoldsNewest number → reply number = .failure error →
      (run.release reply one).session =
        { run.session with loading := false, error := some error.message }) := by
  have orderly := reached.orderly
  have recorded := reached.recorded
  refine ⟨?_, ?_, ?_, ?_⟩
  · obtain ⟨session, effects⟩ := close_congr (fun number => some (reply number))
      (fun number => some (reply number)) orderly bound hone hother
      (fun number _ => ⟨reply number, rfl, rfl⟩)
    refine ⟨session, congrArg Effect.events effects, ?_⟩
    intro number waits
    by_cases holds : run.HoldsNewest number
    · exact ⟨_, outcome?_release_newest orderly recorded bound hone holds,
        outcome?_release_newest orderly recorded bound hother holds⟩
    · exact ⟨_, outcome?_release_late orderly recorded hone waits holds,
        outcome?_release_late orderly recorded hother waits holds⟩
  · intro number before after split late
    have waits : number ∈ run.numbers :=
      hone.mem_iff.mp (split ▸ List.mem_append_right _ List.mem_cons_self)
    have still : ¬ (run.release reply before).HoldsNewest number := fun holds =>
      late ((holdsNewest_close _ before).mp holds).1
    exact ⟨outcome?_release_late orderly recorded hone waits late,
      close_one_late (some (reply number)) still⟩
  · intro given late replies
    have agree : ∀ number, run.HoldsNewest number →
        ∃ answer, replies number = some answer ∧ some (reply number) = some answer := by
      intro number holds
      refine ⟨reply number, ?_, rfl⟩
      cases hgiven : given number with
      | true => exact absurd holds (late number hgiven)
      | false => simp [replies, hgiven]
    obtain ⟨session, effects⟩ := close_congr replies (fun number => some (reply number))
      orderly bound hother hone agree
    exact ⟨session, congrArg Effect.events effects⟩
  · intro number error holds failure
    obtain ⟨before, after, split⟩ := List.append_of_mem (hone.mem_iff.mpr holds.mem_numbers)
    subst split
    obtain ⟨session, _⟩ := close_newest (fun number => some (reply number)) orderly bound holds
      (congrArg some failure) (hone.symm.nodup orderly.nodup)
    show (run.close _ _).session = _
    rw [session, Session.receive_failure]
    rfl

/-- A run in which three calls wait. -/
def crowded : Run := rehearsal [.call .search, .call (.add "word"), .call .search]

theorem crowded_release_in_any_order :
    let reply := fun number : Nat =>
      if number = 0 then Reply.failure (.store "offline")
      else if number = 2 then .failure (.serialization "EOF while parsing a value")
      else .documents [rehearsed "b"]
    Reachable Move.Any crowded ∧ crowded.asked < 2 ^ 64 ∧
      [2, 0, 1].Perm crowded.numbers ∧ [0, 1, 2].Perm crowded.numbers ∧
      (crowded.release reply [2, 0, 1]).session = (crowded.release reply [0, 1, 2]).session ∧
      Effect.events (crowded.release reply [2, 0, 1]).effects =
        Effect.events (crowded.release reply [0, 1, 2]).effects ∧
      crowded.HoldsNewest 2 ∧
      (crowded.release reply [2, 0, 1]).session =
        { crowded.session with
          loading := false
          error := some "Serialization error: EOF while parsing a value" } := by
  intro reply
  have reached : Reachable Move.Any crowded := reachable_rehearsal _ (fun _ _ => trivial)
  have bound : crowded.asked < 2 ^ 64 := by decide +kernel
  have numbers : crowded.numbers = [0, 1, 2] := by decide +kernel
  have one : [2, 0, 1].Perm crowded.numbers := by
    rw [numbers]
    decide
  have other : [0, 1, 2].Perm crowded.numbers := by
    rw [numbers]
  have newest : crowded.HoldsNewest 2 := by
    have version : (crowded.request? 2).map (·.version) = some crowded.session.versions.newest := by
      decide +kernel
    exact Option.map_eq_some_iff.mp version
  obtain ⟨⟨session, events, _⟩, _, _, failure⟩ := release_in_any_order reached bound reply one other
  exact ⟨reached, bound, one, other, session, events, newest, failure 2 _ newest rfl⟩

end Run

end FacetSearch
