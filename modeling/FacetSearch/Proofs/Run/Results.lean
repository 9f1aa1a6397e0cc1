import FacetSearch.Proofs.Run.Shown

/-!
# Results as they are told

When the answer to the newest call has come, its result is told: the page that is now shown, or the
failure. No other answer is told of. So results are told in the order in which their searches were
begun, each call's once at most, and while nothing is awaited the last result told is the one that
the session shows. A page that is used up or a way back that is forgotten goes untold, but only where
a new search is begun in the same breath.
-/

namespace FacetSearch

/-- The version of the search whose result an event tells, if it tells one. -/
def Event.version? : Event → Option UInt64
  | termsChanged _ => none
  | resultsChanged version _ _ _ => some version
  | searchFailed version _ => some version

namespace Effect

/-- The results told, first things first. -/
def results (effects : List Effect) : List Event :=
  (events effects).filter (·.version?.isSome)

/-- The versions of the results told. -/
def versions (effects : List Effect) : List UInt64 :=
  (results effects).filterMap Event.version?

theorem results_append (first second : List Effect) :
    results (first ++ second) = results first ++ results second := by
  unfold results events
  rw [List.filterMap_append, List.filter_append]

end Effect

/-- These results tell, under this version, what has become of a call. A call that goes on, that was
given up or whose answer was dropped has none. -/
def Outcome.Told (version : UInt64) (results : List Event) : Option Outcome → Prop
  | some (.completed count hasNext) =>
    ∃ hasPrev, results = [.resultsChanged version count hasNext hasPrev]
  | some (.failed error) => results = [.searchFailed version error.message]
  | some .superseded => results = []
  | some .skipped => results = []
  | none => results = []

namespace Session

/-- A command tells no result. -/
theorem results_begun (directory : Directory) (command : Command) (changed : Session) :
    Effect.results (changed.begun directory command).effects = [] := by
  show Effect.results (changed.announcements command ++ [.ask _]) = []
  rw [Effect.results_append]
  unfold announcements
  cases command <;> cases changed.saves <;> rfl

/-- An answer tells what has become of its call, and nothing else. -/
theorem told_receive (session : Session) (version : UInt64) (reply : Reply) :
    Outcome.Told version (Effect.results (session.receive version reply).effects)
      (some (session.receive version reply).outcome) := by
  unfold receive
  split
  · cases reply with
    | documents answer => exact ⟨_, rfl⟩
    | failure error => rfl
  · rfl

/-- Whatever the answer to the newest call is, one result is told of it, and it is the page or the
failure that the session then shows. -/
theorem exists_result_receive (session : Session) (reply : Reply) (awaited : session.error = none) :
    let answered := session.receive session.versions.newest reply
    ∃ event : Event, event.version? = some session.versions.newest ∧
      Effect.results answered.effects = [event] ∧
      (answered.session.loading = false → answered.session.error = none →
        event = .resultsChanged session.versions.newest answered.session.documents.length
          answered.session.paging.hasNext answered.session.paging.hasPrev) ∧
      ∀ message, answered.session.error = some message →
        event = .searchFailed session.versions.newest message := by
  intro answered
  cases reply with
  | documents answer =>
      have page : answered = session.showPage session.versions.newest answer :=
        receive_documents answer
      rw [page]
      refine ⟨_, rfl, rfl, fun _ _ => rfl, fun message shown => ?_⟩
      exact absurd (awaited.symm.trans shown) (by simp)
  | failure error =>
      have failed : answered = session.fail session.versions.newest error := receive_failure error
      rw [failed]
      refine ⟨_, rfl, rfl, fun _ none => absurd none (by simp [fail]), fun message shown => ?_⟩
      rw [← Option.some.inj shown]

end Session

/-! ## What is told of each call -/

/-- The number of the call that something has happened to. A call that is skipped has none. -/
def Happening.number? : Happening → Option Nat
  | skipped _ => none
  | began number _ _ _ => some number
  | ended number _ _ _ => some number
  | cancelled number => some number

namespace Run

/-- What has gone out on account of a call. -/
def effectsOf (number : Nat) (run : Run) : List Effect :=
  (run.history.filter (·.number? = some number)).flatMap Happening.effects

section Snoc

variable {run after : Run} {last : Happening}

theorem effectsOf_snoc (grown : after.history = run.history ++ [last]) (number : Nat) :
    after.effectsOf number =
      run.effectsOf number ++ if last.number? = some number then last.effects else [] := by
  unfold effectsOf
  rw [grown, List.filter_append, List.flatMap_append]
  by_cases mine : last.number? = some number <;> simp [mine]

theorem outcome?_snoc (grown : after.history = run.history ++ [last]) (number : Nat) :
    after.outcome? number = (run.outcome? number).or ((last.ending? number).map Prod.snd) := by
  unfold outcome?
  rw [ending?_snoc grown]
  cases run.ending? number <;> rfl

end Snoc

/-- Of every call that is told which has come about, under the version that belongs to the call. -/
structure Accounted (run : Run) : Prop where
  version : ∀ number command request effects,
    .began number command request effects ∈ run.history →
    request.version = UInt64.ofNat (number + 1)
  told : ∀ number, Outcome.Told (UInt64.ofNat (number + 1))
    (Effect.results (run.effectsOf number)) (run.outcome? number)

/-- Nothing has been told of a call that has not ended. -/
theorem Accounted.results_eq_nil {run : Run} (h : Accounted run) {number : Nat}
    (goes : run.ending? number = none) : Effect.results (run.effectsOf number) = [] := by
  have told := h.told number
  unfold outcome? at told
  rw [goes] at told
  exact told

theorem Accounted.keep {run after : Run} {last : Happening} (h : Accounted run)
    (grown : after.history = run.history ++ [last]) (silent : Effect.results last.effects = [])
    (endless : ∀ number, last.ending? number = none)
    (began : ∀ number command request effects, last = .began number command request effects →
      request.version = UInt64.ofNat (number + 1)) : Accounted after where
  version := by
    intro number command request effects hmem
    rw [grown, List.mem_append] at hmem
    rcases hmem with old | new
    · exact h.version number command request effects old
    · exact began number command request effects (List.mem_singleton.mp new).symm
  told := by
    intro number
    rw [outcome?_snoc grown, endless, effectsOf_snoc grown, Effect.results_append]
    have nothing : Effect.results (if last.number? = some number then last.effects else []) = [] := by
      split
      · exact silent
      · rfl
    rw [nothing, List.append_nil, Option.map_none, Option.or_none]
    exact h.told number

theorem Accounted.step {run after : Run} {move : Move} (orderly : Orderly run)
    (recorded : Recorded run) (h : Accounted run) (moved : Moved run move after) :
    Accounted after := by
  cases moved with
  | skipped nothing => exact h.keep rfl rfl (fun _ => rfl) (fun _ _ _ _ other => by cases other)
  | @began command changed carriedOut =>
      refine h.keep rfl (Session.results_begun run.directory command changed) (fun _ => rfl) ?_
      intro number command' request effects same
      cases same
      show changed.versions.newest + 1 = _
      rw [carriedOut.eq_with, UInt64.ofNat_add]
      exact congrArg (· + 1) orderly.newest
  | @ended number reply request waits =>
      have waiting := mem_of_request? waits
      refine ⟨?_, ?_⟩
      · intro number' command request' effects hmem
        rcases List.mem_append.mp hmem with old | new
        · exact h.version number' command request' effects old
        · cases List.mem_singleton.mp new
      · intro other
        rw [outcome?_snoc rfl, effectsOf_snoc rfl, Effect.results_append]
        by_cases same : number = other
        · subst same
          have goes : run.ending? number = none := recorded.waits _ waiting
          have version : request.version = UInt64.ofNat (number + 1) := orderly.versions _ waiting
          rw [h.results_eq_nil goes, ← version]
          unfold outcome?
          rw [goes]
          simpa [Happening.ending?, Happening.number?, Happening.effects] using
            run.session.told_receive request.version reply
        · simpa [Happening.ending?, Happening.number?, same, Effect.results, Effect.events] using
            h.told other
  | cancelled waits => exact h.keep rfl rfl (fun _ => rfl) (fun _ _ _ _ other => by cases other)
  | unheard gone => exact h
  | missed gone => exact h
  | redirected directory => exact ⟨h.version, h.told⟩

theorem Reachable.accounted {may : Move → Prop} {run : Run} (reached : Reachable may run) :
    Accounted run := by
  induction reached with
  | new config saves directory kept =>
      exact ⟨fun _ _ _ _ hmem => absurd hmem List.not_mem_nil, fun _ => rfl⟩
  | step reached _ ih => exact ih.step reached.orderly reached.recorded (moved_step _ _)

/-! ## What is told last -/

/-- While the newest call waits, no failure is shown. -/
theorem Reachable.error_of_waits {may : Move → Prop} {run : Run} (reached : Reachable may run)
    (bound : run.asked < 2 ^ 64) {call : Nat × Request} (waits : call ∈ run.waiting)
    (current : call.2.version = run.session.versions.newest) : run.session.error = none := by
  have last := (reached.orderly.version_eq_newest bound waits).mp current
  exact reached.recorded.error_eq_none waits last (reached.shows bound (by omega))

/-- Results are told of calls that wait no longer, in the order of their versions, and the last one
is the one that the session shows, unless it awaits another. -/
structure Telling (run : Run) : Prop where
  ordered : (Effect.versions run.effects).Pairwise (· < ·)
  closed : ∀ version ∈ Effect.versions run.effects,
    version ≤ run.session.versions.newest ∧ ∀ call ∈ run.waiting, call.2.version ≠ version
  page : run.session.loading = false → run.session.error = none → 0 < run.asked →
    (Effect.results run.effects).getLast? =
      some (.resultsChanged run.session.versions.newest run.session.documents.length
        run.session.paging.hasNext run.session.paging.hasPrev)
  failure : ∀ message, run.session.error = some message →
    (Effect.results run.effects).getLast? =
      some (.searchFailed run.session.versions.newest message)

/-- Where nothing is told and nothing shown is changed, what was told stays true. -/
theorem Telling.keep {run after : Run} (h : Telling run)
    (session : after.session = run.session) (asked : after.asked = run.asked)
    (results : Effect.results after.effects = Effect.results run.effects)
    (waiting : ∀ call ∈ after.waiting, call ∈ run.waiting) : Telling after where
  ordered := by
    unfold Effect.versions
    rw [results]
    exact h.ordered
  closed := by
    intro version hversion
    unfold Effect.versions at hversion
    rw [results] at hversion
    obtain ⟨handed, gone⟩ := h.closed version hversion
    exact ⟨session ▸ handed, fun call hcall => gone call (waiting call hcall)⟩
  page := by
    rw [session, asked, results]
    exact h.page
  failure := by
    rw [session, results]
    exact h.failure

/-- The result of the newest call comes after all that was told before. -/
theorem Telling.versions_concat {run : Run} (h : Telling run) {call : Nat × Request}
    (waits : call ∈ run.waiting) (current : call.2.version = run.session.versions.newest) :
    (Effect.versions run.effects ++ [run.session.versions.newest]).Pairwise (· < ·) := by
  refine List.pairwise_append.mpr ⟨h.ordered, List.pairwise_singleton _ _, ?_⟩
  intro version hversion last hlast
  obtain rfl := List.mem_singleton.mp hlast
  obtain ⟨handed, gone⟩ := h.closed version hversion
  exact UInt64.lt_of_le_of_ne handed fun same => gone call waits (current.trans same.symm)

/-- A new search is numbered above all before it, while numbers have not run out. -/
theorem Orderly.newest_lt_next {run : Run} (h : Orderly run) (bound : run.asked + 1 < 2 ^ 64) :
    run.session.versions.newest < run.session.versions.next.newest := by
  have next : run.session.versions.next.newest = UInt64.ofNat (run.asked + 1) := by
    rw [UInt64.ofNat_add]
    exact congrArg (· + 1) h.newest
  rw [next, h.newest, UInt64.lt_iff_toNat_lt, UInt64.toNat_ofNat_of_lt' bound,
    UInt64.toNat_ofNat_of_lt' (Nat.lt_of_succ_lt bound)]
  exact Nat.lt_succ_self _

/-- A new search is told of only once it has been answered; till then nothing is said of it. -/
theorem Telling.begin {run after : Run} (h : Telling run)
    (lt : run.session.versions.newest < run.session.versions.next.newest)
    (versions : after.session.versions = run.session.versions.next)
    (loading : after.session.loading = true) (error : after.session.error = none)
    (waiting : ∀ call ∈ after.waiting,
      call ∈ run.waiting ∨ call.2.version = after.session.versions.newest)
    (results : Effect.results after.effects = Effect.results run.effects) : Telling after where
  ordered := by
    unfold Effect.versions
    rw [results]
    exact h.ordered
  closed := by
    intro version hversion
    unfold Effect.versions at hversion
    rw [results] at hversion
    obtain ⟨handed, gone⟩ := h.closed version hversion
    have below : version < after.session.versions.newest := by
      rw [versions]
      exact UInt64.lt_of_le_of_lt handed lt
    refine ⟨UInt64.le_of_lt below, fun call hcall same => ?_⟩
    rcases waiting call hcall with old | new
    · exact gone call old same
    · exact UInt64.ne_of_lt below (same.symm.trans new)
  page := by
    intro shown
    rw [loading] at shown
    cases shown
  failure := by
    intro message shown
    rw [error] at shown
    cases shown

/-- The result of the newest call is told last, and the session shows it. -/
theorem Telling.answer {run after : Run} {number : Nat} {reply : Reply} {request : Request}
    (h : Telling run) (orderly : Orderly run) (bound : run.asked < 2 ^ 64)
    (waits : (number, request) ∈ run.waiting)
    (current : request.version = run.session.versions.newest) (awaited : run.session.error = none)
    (session : after.session = (run.session.receive run.session.versions.newest reply).session)
    (waiting : after.waiting = run.others number)
    (effects : after.effects =
      run.effects ++ (run.session.receive run.session.versions.newest reply).effects) :
    Telling after := by
  obtain ⟨event, version, results, page, failure⟩ :=
    run.session.exists_result_receive reply awaited
  rw [← session] at page failure
  have results : Effect.results after.effects = Effect.results run.effects ++ [event] := by
    rw [effects, Effect.results_append, results]
  have versions : after.session.versions = run.session.versions := by
    rw [session, Session.versions_receive]
  have told : Effect.versions after.effects =
      Effect.versions run.effects ++ [run.session.versions.newest] := by
    unfold Effect.versions
    rw [results, List.filterMap_append]
    simp [version]
  refine ⟨?_, ?_, ?_, ?_⟩
  · rw [told]
    exact h.versions_concat waits current
  · intro version hversion
    rw [told] at hversion
    rw [versions, waiting]
    rcases List.mem_append.mp hversion with old | new
    · obtain ⟨handed, gone⟩ := h.closed version old
      exact ⟨handed, fun call hcall => gone call (mem_others.mp hcall).1⟩
    · obtain rfl := List.mem_singleton.mp new
      refine ⟨UInt64.le_refl _, fun call hcall same => ?_⟩
      -- Another call with the newest version would have the number of the one just answered.
      obtain ⟨other, differs⟩ := mem_others.mp hcall
      have last := (orderly.version_eq_newest bound waits).mp current
      have last' := (orderly.version_eq_newest bound other).mp same
      exact differs (Nat.succ_inj.mp (last'.trans last.symm))
  · intro shown none _
    rw [results, List.getLast?_concat, versions, page shown none]
  · intro message shown
    rw [results, List.getLast?_concat, versions, failure message shown]

theorem Telling.step {run after : Run} {move : Move} (h : Telling run) (orderly : Orderly run)
    (moved : Moved run move after) (bound : after.asked < 2 ^ 64)
    (awaited : ∀ call ∈ run.waiting, call.2.version = run.session.versions.newest →
      run.session.error = none) : Telling after := by
  cases moved with
  | skipped nothing =>
      refine h.keep rfl rfl ?_ fun _ hcall => hcall
      rw [effects_of_silent rfl rfl]
  | @began command changed carriedOut =>
      have versions : changed.versions = run.session.versions := by rw [carriedOut.eq_with]
      refine h.begin (orderly.newest_lt_next bound) (congrArg Versions.next versions) rfl rfl ?_ ?_
      · intro call hcall
        rcases List.mem_append.mp hcall with old | new
        · exact Or.inl old
        · obtain rfl := List.mem_singleton.mp new
          exact Or.inr rfl
      · rw [effects_snoc rfl, Effect.results_append]
        show _ ++ Effect.results (changed.begun run.directory command).effects = _
        rw [Session.results_begun, List.append_nil]
  | @ended number reply request waits =>
      have waiting := mem_of_request? waits
      by_cases current : request.version = run.session.versions.newest
      · rw [current]
        refine h.answer orderly bound waiting current (awaited _ waiting current) rfl rfl ?_
        rw [effects_snoc rfl]
        rfl
      · rw [Session.receive_late current]
        refine h.keep rfl rfl ?_ fun _ hcall => (mem_others.mp hcall).1
        rw [effects_of_silent rfl rfl]
  | cancelled waits =>
      refine h.keep rfl rfl ?_ fun _ hcall => (mem_others.mp hcall).1
      rw [effects_of_silent rfl rfl]
  | unheard gone => exact h
  | missed gone => exact h
  | redirected directory => exact h.keep rfl rfl rfl fun _ hcall => hcall

theorem Reachable.telling {may : Move → Prop} {run : Run} (reached : Reachable may run)
    (bound : run.asked < 2 ^ 64) : Telling run := by
  induction reached with
  | new config saves directory kept =>
      exact ⟨List.Pairwise.nil, fun _ hversion => absurd hversion List.not_mem_nil,
        fun _ _ searched => absurd searched (Nat.lt_irrefl 0), fun _ shown => by cases shown⟩
  | @step run move reached _ ih =>
      have moved := moved_step run move
      have before := Nat.lt_of_le_of_lt (asked_le_step moved) bound
      exact (ih before).step reached.orderly moved bound fun call => reached.error_of_waits before

/-- **What is told is true.** The versions of the results told go up. A call that is skipped lets
nothing out, and of a call that asked the store is told, once and under its own version, the page it
came to or its failure, and otherwise nothing. Where a page is shown and nothing awaited, the last
result told is that page; where an error is shown, it is that failure, and it is the newest search
that has failed. -/
theorem results_tell_truth {run : Run} (reached : Reachable Move.Any run)
    (bound : run.asked < 2 ^ 64) :
    (Effect.versions run.effects).Pairwise (· < ·) ∧
    (∀ command, run.session.begin? run.directory command = none →
      (run.step (.call command)).effects = run.effects) ∧
    (∀ number command request effects, .began number command request effects ∈ run.history →
      Outcome.Told request.version (Effect.results (run.effectsOf number))
        (run.outcome? number)) ∧
    (run.session.loading = false → run.session.error = none → 0 < run.asked →
      (Effect.results run.effects).getLast? =
        some (.resultsChanged run.session.versions.newest run.session.documents.length
          run.session.paging.hasNext run.session.paging.hasPrev)) ∧
    ∀ message, run.session.error = some message →
      (Effect.results run.effects).getLast? =
        some (.searchFailed run.session.versions.newest message) := by
  have telling := reached.telling bound
  refine ⟨telling.ordered, ?_, ?_, telling.page, telling.failure⟩
  · intro command nothing
    show (run.call command).effects = run.effects
    exact effects_of_silent (congrArg history (call_skipped nothing)) rfl
  · intro number command request effects began
    rw [reached.accounted.version number command request effects began]
    exact reached.accounted.told number

/-- A run in which the first search is answered too late, the second in time, an edit that changes
nothing is skipped, and the next page cannot be had. -/
def rocky : Run :=
  rehearsal [.call .search, .call (.add "word"), .answer 1 (.documents [rehearsed "b", rehearsed "a"]),
    .answer 0 (.failure (.store "offline")), .call (.add "word"), .call .next,
    .answer 2 (.failure (.serialization "EOF while parsing a value"))]

theorem rocky_results_tell_truth :
    Reachable Move.Any rocky ∧ rocky.asked < 2 ^ 64 ∧
      (Effect.versions rocky.effects).Pairwise (· < ·) ∧
      Effect.results (rocky.effectsOf 0) = [] ∧
      rocky.session.error = some "Serialization error: EOF while parsing a value" ∧
      (Effect.results rocky.effects).getLast? =
        some (.searchFailed rocky.session.versions.newest
          "Serialization error: EOF while parsing a value") := by
  have reached : Reachable Move.Any rocky := reachable_rehearsal _ (fun _ _ => trivial)
  have bound : rocky.asked < 2 ^ 64 := by decide +kernel
  have first : .began 0 .search ⟨1, .all 2⟩ [.ask ⟨1, .all 2⟩] ∈ rocky.history := by decide +kernel
  have late : rocky.outcome? 0 = some .superseded := by decide +kernel
  have failed : rocky.session.error = some "Serialization error: EOF while parsing a value" := by
    decide +kernel
  obtain ⟨ordered, -, told, -, last⟩ := results_tell_truth reached bound
  refine ⟨reached, bound, ordered, ?_, failed, last _ failed⟩
  have nothing := told 0 _ _ _ first
  rw [late] at nothing
  exact nothing

end Run

end FacetSearch
