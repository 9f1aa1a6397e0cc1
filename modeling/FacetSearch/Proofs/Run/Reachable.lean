import FacetSearch.Proofs.Session.Call
import Mathlib.Algebra.Group.Nat.Defs
import Mathlib.Data.List.Nodup

/-!
# Runs that can come about

A run begins with a new session and goes on by moves. `Moved` says once what a move can do, and what
holds in every run follows from it by cases. Two things hold throughout: the terms are distinct, and
the calls that wait are in good order, each under its own number and with the version that belongs
to it.
-/

namespace FacetSearch

/-- Whatever may happen to a session. -/
def Move.Any : Move → Prop := fun _ => True

/-- Whatever may happen to a session under a directory that stays as it is. -/
def Move.KeepsDirectory : Move → Prop
  | .setDirectory _ => False
  | _ => True

/-! ## Endings -/

/-- How the call of this number has ended, if that is what happened. -/
def Happening.ending? (number : Nat) : Happening → Option (Reply × Outcome)
  | ended other reply outcome _ => if other = number then some (reply, outcome) else none
  | _ => none

namespace Run

/-- What has gone out so far. -/
def effects (run : Run) : List Effect := run.history.flatMap Happening.effects

/-- How a call has ended, if it has. -/
def ending? (number : Nat) (run : Run) : Option (Reply × Outcome) :=
  run.history.findSome? (Happening.ending? number)

/-- The answer that a call has had. -/
def reply? (number : Nat) (run : Run) : Option Reply := (run.ending? number).map Prod.fst

/-- What has become of a call. -/
def outcome? (number : Nat) (run : Run) : Option Outcome := (run.ending? number).map Prod.snd

/-! ## Moves -/

/-- All that a move can do to a run. -/
inductive Moved (run : Run) : Move → Run → Prop
  | skipped {command : Command} (nothing : run.session.carryOut? run.directory command = none) :
      Moved run (.call command) { run with history := run.history ++ [.skipped command] }
  | began {command : Command} {changed : Session}
      (carriedOut : Session.CarriedOut run.directory run.session command changed) :
      Moved run (.call command)
        { run with
          session := (changed.begun run.directory command).session
          waiting := run.waiting ++ [(run.asked, (changed.begun run.directory command).request)]
          asked := run.asked + 1
          history := run.history ++
            [.began run.asked command (changed.begun run.directory command).request
              (changed.begun run.directory command).effects] }
  | ended {number : Nat} {reply : Reply} {request : Request}
      (waits : run.request? number = some request) :
      Moved run (.answer number reply)
        { run with
          session := (run.session.receive request.version reply).session
          waiting := run.others number
          history := run.history ++
            [.ended number reply (run.session.receive request.version reply).outcome
              (run.session.receive request.version reply).effects] }
  | cancelled {number : Nat} {request : Request} (waits : run.request? number = some request) :
      Moved run (.cancel number)
        { run with waiting := run.others number, history := run.history ++ [.cancelled number] }
  | unheard {number : Nat} {reply : Reply} (gone : run.request? number = none) :
      Moved run (.answer number reply) run
  | missed {number : Nat} (gone : run.request? number = none) : Moved run (.cancel number) run
  | redirected (directory : Directory) :
      Moved run (.setDirectory directory) { run with directory := directory }

/-- A call that is skipped leaves a note, and nothing else. -/
theorem call_skipped {run : Run} {command : Command}
    (nothing : run.session.begin? run.directory command = none) :
    run.call command = { run with history := run.history ++ [.skipped command] } := by
  unfold call
  rw [nothing]

theorem call_begun {run : Run} {command : Command} {begun : Session.Begun}
    (begins : run.session.begin? run.directory command = some begun) :
    run.call command =
      { run with
        session := begun.session
        waiting := run.waiting ++ [(run.asked, begun.request)]
        asked := run.asked + 1
        history := run.history ++ [.began run.asked command begun.request begun.effects] } := by
  unfold call
  rw [begins]

theorem moved_step (run : Run) (move : Move) : Moved run move (run.step move) := by
  cases move with
  | call command =>
      show Moved run _ (run.call command)
      unfold call
      rw [Session.begin?_eq]
      cases carriedOut : run.session.carryOut? run.directory command with
      | none => exact .skipped carriedOut
      | some changed => exact .began (Session.carriedOut_of_carryOut? carriedOut)
  | answer number reply =>
      show Moved run _ (run.answer number reply)
      unfold answer
      cases waits : run.request? number with
      | none => exact .unheard waits
      | some request => exact .ended waits
  | cancel number =>
      show Moved run _ (run.cancel number)
      unfold cancel
      cases waits : run.request? number with
      | none => exact .missed waits
      | some request => exact .cancelled waits
  | setDirectory directory => exact .redirected directory

/-! ## Reachability -/

/-- The runs of new sessions in which only such moves are made. -/
inductive Reachable (may : Move → Prop) : Run → Prop
  | new (config : Config) (saves : Bool) (directory : Directory) (kept : List String) :
      Reachable may (start (Session.new config saves directory kept) directory)
  | step {run : Run} {move : Move} (reached : Reachable may run) (allowed : may move) :
      Reachable may (run.step move)

theorem Reachable.play {may : Move → Prop} {run : Run} (reached : Reachable may run)
    (moves : List Move) (allowed : ∀ move ∈ moves, may move) : Reachable may (run.play moves) := by
  induction moves generalizing run with
  | nil => exact reached
  | cons move rest ih =>
      exact ih (reached.step (allowed move List.mem_cons_self))
        (fun other hother => allowed other (List.mem_cons_of_mem _ hother))

theorem play_snoc (run : Run) (moves : List Move) (move : Move) :
    run.play (moves ++ [move]) = (run.play moves).step move := by
  unfold play
  rw [List.foldl_append]
  rfl

/-- What every move preserves holds after any moves. -/
theorem play_invariant {holds : Run → Prop}
    (preserved : ∀ run move, holds run → holds (run.step move)) {run : Run} (moves : List Move)
    (initial : holds run) : holds (run.play moves) := by
  induction moves generalizing run with
  | nil => exact initial
  | cons move rest ih => exact ih (preserved run move initial)

/-- The run of a session with pages of one document and no journals, in which these moves are
made. -/
def rehearsal (moves : List Move) : Run :=
  (start (Session.new ⟨1, by decide⟩ false ⟨fun _ => none⟩ []) ⟨fun _ => none⟩).play moves

theorem reachable_rehearsal {may : Move → Prop} (moves : List Move)
    (allowed : ∀ move ∈ moves, may move) : Reachable may (rehearsal moves) :=
  (Reachable.new _ _ _ _).play moves allowed

/-- A document for a rehearsal, of which nothing is known but its identifier. -/
def rehearsed (id : String) : Document := ⟨id, "2024-03-01", none, "j"⟩

/-! ## The terms -/

/-- No move does more to the terms than an edit under the present directory. -/
theorem selected_step {may : Directory → Selection.Edit → Prop} {run after : Run} {move : Move}
    (moved : Moved run move after) (allowed : ∀ edit, may run.directory edit)
    (h : Selection.Reached may run.session.terms) : Selection.Reached may after.session.terms := by
  cases moved with
  | skipped nothing => exact h
  | @began command changed carriedOut =>
      show Selection.Reached may changed.terms
      rcases carriedOut.terms_eq_or with same | ⟨edit, edited⟩
      · rw [same]
        exact h
      · rw [edited]
        exact h.edit (allowed edit)
  | ended waits =>
      show Selection.Reached may (run.session.receive _ _).session.terms
      rw [Session.terms_receive]
      exact h
  | cancelled waits => exact h
  | unheard gone => exact h
  | missed gone => exact h
  | redirected directory => exact h

/-- In every run the terms are distinct. -/
theorem Reachable.distinct {may : Move → Prop} {run : Run} (reached : Reachable may run) :
    Terms.Distinct run.session.terms := by
  have selected : Selection.Reached (fun _ _ => True) run.session.terms := by
    induction reached with
    | new config saves directory kept => exact Selection.reached_restore (fun _ => trivial) kept
    | step _ _ ih => exact selected_step (moved_step _ _) (fun _ => trivial) ih
  exact selected.distinct

theorem directory_step {run after : Run} {move : Move} (moved : Moved run move after)
    (keeps : move.KeepsDirectory) : after.directory = run.directory := by
  cases moved with
  | redirected directory => exact absurd keeps id
  | skipped nothing => rfl
  | began carriedOut => rfl
  | ended waits => rfl
  | cancelled waits => rfl
  | unheard gone => rfl
  | missed gone => rfl

/-- **The terms are a selection** that edits lead to, under the one directory there is. -/
theorem Reachable.selected {run : Run} (reached : Reachable Move.KeepsDirectory run) :
    Selection.Reached (Selection.Under run.directory) run.session.terms := by
  induction reached with
  | new config saves directory kept => exact Selection.reached_restore (fun _ => rfl) kept
  | step _ allowed ih =>
      rw [directory_step (moved_step _ _) allowed]
      exact selected_step (moved_step _ _) (fun _ => rfl) ih

/-! ## The calls that wait -/

theorem mem_of_request? {run : Run} {number : Nat} {request : Request}
    (waits : run.request? number = some request) : (number, request) ∈ run.waiting := by
  obtain ⟨before, after, split, _⟩ := List.lookup_eq_some_iff.mp waits
  rw [split]
  exact List.mem_append_right _ List.mem_cons_self

theorem mem_others {run : Run} {number : Nat} {call : Nat × Request} :
    call ∈ run.others number ↔ call ∈ run.waiting ∧ call.1 ≠ number := by
  simp [others]

/-- The calls that wait have numbers of their own, given out already, and the version of a call is
the one that follows its number. -/
structure Orderly (run : Run) : Prop where
  newest : run.session.versions.newest = UInt64.ofNat run.asked
  asked : ∀ call ∈ run.waiting, call.1 < run.asked
  versions : ∀ call ∈ run.waiting, call.2.version = UInt64.ofNat (call.1 + 1)
  nodup : (run.waiting.map Prod.fst).Nodup

theorem Orderly.others {run after : Run} {number : Nat} (h : Orderly run)
    (versions : after.session.versions = run.session.versions)
    (waiting : after.waiting = run.others number) (asked : after.asked = run.asked) :
    Orderly after where
  newest := by rw [versions, asked, h.newest]
  asked := by
    intro call hcall
    rw [waiting] at hcall
    rw [asked]
    exact h.asked call (mem_others.mp hcall).1
  versions := by
    intro call hcall
    rw [waiting] at hcall
    exact h.versions call (mem_others.mp hcall).1
  nodup := by
    rw [waiting]
    exact h.nodup.sublist (List.Sublist.map _ List.filter_sublist)

theorem Orderly.step {run after : Run} {move : Move} (h : Orderly run)
    (moved : Moved run move after) : Orderly after := by
  cases moved with
  | skipped nothing => exact ⟨h.newest, h.asked, h.versions, h.nodup⟩
  | @began command changed carriedOut =>
      have newest : changed.versions.next.newest = UInt64.ofNat (run.asked + 1) := by
        rw [carriedOut.eq_with, UInt64.ofNat_add]
        exact congrArg (· + 1) h.newest
      refine ⟨newest, ?_, ?_, ?_⟩
      · intro call hcall
        rcases List.mem_append.mp hcall with old | new
        · exact Nat.lt_succ_of_lt (h.asked call old)
        · obtain rfl := List.mem_singleton.mp new
          exact Nat.lt_succ_self _
      · intro call hcall
        rcases List.mem_append.mp hcall with old | new
        · exact h.versions call old
        · obtain rfl := List.mem_singleton.mp new
          exact newest
      · rw [List.map_append]
        refine List.nodup_append.mpr ⟨h.nodup, List.nodup_singleton _, ?_⟩
        intro number hnumber last hlast same
        obtain ⟨call, hcall, rfl⟩ := List.mem_map.mp hnumber
        obtain rfl := List.mem_singleton.mp hlast
        exact absurd same (Nat.ne_of_lt (h.asked call hcall))
  | ended waits => exact h.others Session.versions_receive rfl rfl
  | cancelled waits => exact h.others rfl rfl rfl
  | unheard gone => exact h
  | missed gone => exact h
  | redirected directory => exact ⟨h.newest, h.asked, h.versions, h.nodup⟩

/-- **In every run the calls that wait are in good order.** -/
theorem Reachable.orderly {may : Move → Prop} {run : Run} (reached : Reachable may run) :
    Orderly run := by
  induction reached with
  | new config saves directory kept =>
      exact ⟨rfl, by simp [start], by simp [start], List.nodup_nil⟩
  | step _ _ ih => exact ih.step (moved_step _ _)

/-- While versions have not run out, the call that holds the newest one is the last that asked. -/
theorem Orderly.version_eq_newest {run : Run} (h : Orderly run) (bound : run.asked < 2 ^ 64)
    {call : Nat × Request} (waits : call ∈ run.waiting) :
    call.2.version = run.session.versions.newest ↔ call.1 + 1 = run.asked := by
  have asked := h.asked call waits
  have small : call.1 + 1 < 2 ^ 64 := by omega
  rw [h.versions call waits, h.newest, ← UInt64.toNat_inj, UInt64.toNat_ofNat_of_lt' bound,
    UInt64.toNat_ofNat_of_lt' small]

/-! ## A call and its answer -/

section Answer

variable {run : Run} {command : Command} {changed : Session}

theorem Orderly.request?_asked (h : Orderly run) : run.request? run.asked = none := by
  apply List.lookup_eq_none_iff.mpr
  intro call hcall
  exact bne_iff_ne.mpr (Nat.ne_of_gt (h.asked call hcall))

theorem Orderly.request?_call (h : Orderly run)
    (carriedOut : run.session.carryOut? run.directory command = some changed) :
    (run.call command).request? run.asked = some (changed.begun run.directory command).request := by
  rw [call_begun (Session.begin?_of_carryOut? carriedOut)]
  show (run.waiting ++ [_]).lookup run.asked = _
  rw [List.lookup_append, show run.waiting.lookup run.asked = none from h.request?_asked]
  simp

/-- A call that is not skipped and is answered at once leaves the other calls as they are. -/
theorem Orderly.answer_call (h : Orderly run)
    (carriedOut : run.session.carryOut? run.directory command = some changed) {reply : Reply} :
    let begun := changed.begun run.directory command
    let answered := begun.session.receive begun.request.version reply
    (run.call command).answer run.asked reply =
      { run with
        session := answered.session
        asked := run.asked + 1
        history := run.history ++ [.began run.asked command begun.request begun.effects] ++
          [.ended run.asked reply answered.outcome answered.effects] } := by
  intro begun answered
  have left : (run.waiting ++ [(run.asked, begun.request)]).filter (·.1 ≠ run.asked) =
      run.waiting := by
    rw [List.filter_append, List.filter_eq_self.mpr fun call hcall => by
      simpa using Nat.ne_of_lt (h.asked call hcall)]
    simp
  have waits := h.request?_call carriedOut
  rw [call_begun (Session.begin?_of_carryOut? carriedOut)] at waits ⊢
  unfold answer
  rw [waits]
  show Run.mk answered.session run.directory
    ((run.waiting ++ [(run.asked, begun.request)]).filter (·.1 ≠ run.asked)) _ _ = _
  rw [left]

end Answer

end Run

end FacetSearch
