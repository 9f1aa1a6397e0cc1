import FacetSearch.Proofs.Run.Record

/-!
# The page that comes next

The cursor of the next page is taken from the answer last shown, and kept until another answer is
shown or the cursor is used. While nothing but plain searches is begun, it opens the next page of
what the terms ask for. An edit or a step back, however, leaves the cursor of the old page in place
until its own answer comes: if that fails or is late, the cursor belongs to another search.
-/

namespace FacetSearch

/-- The call answered and the documents, if what happened is that an answer was shown. -/
def Happening.shown? : Happening → Option (Nat × List Document)
  | ended number (.documents answer) (.completed _ _) _ => some (number, answer)
  | _ => none

/-- The number of the call and its query, if what happened is that a call asked the store. -/
def Happening.asked? : Happening → Option (Nat × Query)
  | began number _ request _ => some (number, request.query)
  | _ => none

namespace Run

/-- The answers that were shown, with the numbers of their calls, first things first. -/
def shown (run : Run) : List (Nat × List Document) := run.history.filterMap Happening.shown?

/-- The answer last shown, and the number of its call. -/
def lastShown? (run : Run) : Option (Nat × List Document) := run.shown.getLast?

/-- The call of this number has asked this query. -/
def Asked (run : Run) (number : Nat) (query : Query) : Prop :=
  (number, query) ∈ run.history.filterMap Happening.asked?

theorem asked_of_began {run : Run} {number : Nat} {command : Command} {request : Request}
    {effects : List Effect} (began : .began number command request effects ∈ run.history) :
    run.Asked number request.query :=
  List.mem_filterMap.mpr ⟨_, began, rfl⟩

theorem lastShown?_snoc {run after : Run} {last : Happening}
    (grown : after.history = run.history ++ [last]) :
    after.lastShown? = last.shown?.or run.lastShown? := by
  unfold lastShown? Run.shown
  rw [grown, List.filterMap_append, List.getLast?_append]
  cases shown : last.shown? <;> simp [shown]

/-! ## Where the cursor comes from -/

/-- The cursor is the identifier of the document beyond the page of the answer last shown. -/
structure Opens (run : Run) (id : String) (number : Nat) (answer : List Document) : Prop where
  shown : run.lastShown? = some (number, answer)
  overflows : run.session.config.pageSize.toNat < answer.length
  last : answer.getLast?.map (·.id) = some id
  began : ∃ command request effects, .began number command request effects ∈ run.history

theorem Opens.keep {run after : Run} {id : String} {number : Nat} {answer : List Document}
    {last : Happening} (h : run.Opens id number answer)
    (config : after.session.config = run.session.config)
    (grown : after.history = run.history ++ [last]) (quiet : last.shown? = none) :
    after.Opens id number answer where
  shown := by
    rw [lastShown?_snoc grown, quiet]
    exact h.shown
  overflows := config ▸ h.overflows
  last := h.last
  began := by
    obtain ⟨command, request, effects, hmem⟩ := h.began
    exact ⟨command, request, effects, grown ▸ List.mem_append_left _ hmem⟩

theorem opens_step {run after : Run} {move : Move} (recorded : Recorded run)
    (moved : Moved run move after)
    (h : ∀ id, run.session.paging.next = some id → ∃ number answer, run.Opens id number answer) :
    ∀ id, after.session.paging.next = some id → ∃ number answer, after.Opens id number answer := by
  intro id cursor
  cases moved with
  | skipped nothing =>
      obtain ⟨number, answer, opens⟩ := h id cursor
      exact ⟨number, answer, opens.keep rfl rfl rfl⟩
  | began carriedOut =>
      -- No command finds a cursor, so the one there is was there before.
      obtain ⟨number, answer, opens⟩ := h id (carriedOut.next_eq cursor)
      refine ⟨number, answer, opens.keep ?_ rfl rfl⟩
      rw [carriedOut.eq_with]
      rfl
  | @ended number reply request waits =>
      by_cases current : request.version = run.session.versions.newest
      · rw [current] at cursor ⊢
        cases reply with
        | documents answer =>
            rw [Session.receive_documents] at cursor ⊢
            obtain ⟨overflows, last⟩ : run.session.config.pageSize.toNat < answer.length ∧
                answer.getLast?.map (·.id) = some id := by
              simpa [Session.showPage, Paging.record] using cursor
            obtain ⟨command, effects, hmem⟩ := recorded.began _ (mem_of_request? waits)
            refine ⟨number, answer, ?_, overflows, last, ?_⟩
            · rw [lastShown?_snoc rfl]
              rfl
            · exact ⟨command, request, effects, List.mem_append_left _ hmem⟩
        | failure error =>
            rw [Session.receive_failure] at cursor ⊢
            obtain ⟨other, answer, opens⟩ := h id cursor
            exact ⟨other, answer, opens.keep rfl rfl rfl⟩
      · rw [Session.receive_late current] at cursor ⊢
        obtain ⟨other, answer, opens⟩ := h id cursor
        refine ⟨other, answer, opens.keep rfl rfl ?_⟩
        cases reply <;> rfl
  | cancelled waits =>
      obtain ⟨number, answer, opens⟩ := h id cursor
      exact ⟨number, answer, opens.keep rfl rfl rfl⟩
  | unheard gone => exact h id cursor
  | missed gone => exact h id cursor
  | redirected directory =>
      obtain ⟨number, answer, opens⟩ := h id cursor
      exact ⟨number, answer, opens.shown, opens.overflows, opens.last, opens.began⟩

theorem Reachable.opens {may : Move → Prop} {run : Run} (reached : Reachable may run) :
    ∀ id, run.session.paging.next = some id → ∃ number answer, run.Opens id number answer := by
  induction reached with
  | new config saves directory kept => exact fun id cursor => by cases cursor
  | step reached _ ih => exact opens_step reached.recorded (moved_step _ _) ih

/-! ## What was asked, and what the terms ask now -/

/-- Every call begun after this one was a plain search. -/
def OnlySearchedSince (run : Run) (number : Nat) : Prop :=
  ∀ later command request effects, .began later command request effects ∈ run.history →
    number < later → command = .search

theorem OnlySearchedSince.of_snoc {run after : Run} {number : Nat} {last : Happening}
    (grown : after.history = run.history ++ [last]) (h : after.OnlySearchedSince number) :
    run.OnlySearchedSince number := by
  intro later command request effects hmem hlt
  exact h later command request effects (grown ▸ List.mem_append_left _ hmem) hlt

/-- The calls on record have their numbers, and a call after which there were only plain searches
has asked what the terms ask now. -/
structure AskedStill (run : Run) : Prop where
  asked : ∀ number command request effects, .began number command request effects ∈ run.history →
    number < run.asked
  query : ∀ number command request effects, .began number command request effects ∈ run.history →
    run.OnlySearchedSince number → request.query = run.session.query run.directory

theorem AskedStill.keep {run after : Run} {last : Happening} (h : AskedStill run)
    (asked : after.asked = run.asked)
    (query : after.session.query after.directory = run.session.query run.directory)
    (grown : after.history = run.history ++ [last])
    (quiet : ∀ number command request effects, last ≠ .began number command request effects) :
    AskedStill after where
  asked := by
    intro number command request effects hmem
    rw [grown, List.mem_append] at hmem
    rcases hmem with old | new
    · exact asked ▸ h.asked number command request effects old
    · exact absurd (List.mem_singleton.mp new).symm (quiet number command request effects)
  query := by
    intro number command request effects hmem since
    rw [grown, List.mem_append] at hmem
    rcases hmem with old | new
    · exact query ▸ h.query number command request effects old (since.of_snoc grown)
    · exact absurd (List.mem_singleton.mp new).symm (quiet number command request effects)

theorem AskedStill.step {run after : Run} {move : Move} (h : AskedStill run)
    (moved : Moved run move after) (keeps : move.KeepsDirectory) : AskedStill after := by
  cases moved with
  | skipped nothing => exact h.keep rfl rfl rfl (fun _ _ _ _ => by simp)
  | @began command changed carriedOut =>
      constructor
      · intro number command' request effects hmem
        rcases List.mem_append.mp hmem with old | new
        · exact Nat.lt_succ_of_lt (h.asked number command' request effects old)
        · cases List.mem_singleton.mp new
          exact Nat.lt_succ_self _
      · intro number command' request effects hmem since
        rcases List.mem_append.mp hmem with old | new
        -- The call begun now comes after the old one, so it is a plain search too.
        · have plain : command = .search :=
            since run.asked command _ _ (List.mem_append_right _ List.mem_cons_self)
              (h.asked number command' request effects old)
          subst plain
          have asked := h.query number command' request effects old (since.of_snoc rfl)
          cases carriedOut with
          | edited edit => exact absurd edit (by simp [Command.edit?])
          | searched => exact asked
        · cases List.mem_singleton.mp new
          rfl
  | ended waits => exact h.keep rfl (Session.query_receive _) rfl (fun _ _ _ _ => by simp)
  | cancelled waits => exact h.keep rfl rfl rfl (fun _ _ _ _ => by simp)
  | unheard gone => exact h
  | missed gone => exact h
  | redirected directory => exact absurd keeps id

theorem Reachable.askedStill {run : Run} (reached : Reachable Move.KeepsDirectory run) :
    AskedStill run := by
  induction reached with
  | new config saves directory kept =>
      exact ⟨fun _ _ _ _ hmem => absurd hmem List.not_mem_nil,
        fun _ _ _ _ hmem => absurd hmem List.not_mem_nil⟩
  | step _ allowed ih => exact ih.step (moved_step _ _) allowed

/-! ## The next page -/

/-- **The next page is the one after the page last shown.** If a session turns to the next page, the
cursor it takes is the identifier of the document beyond the page of the answer last shown. What
that answer was asked for is what the terms ask now, provided that every call begun since was a
plain search. -/
theorem next_opens_last_shown {run : Run} (reached : Reachable Move.KeepsDirectory run)
    {beginning : Session.Begun}
    (begins : run.session.begin? run.directory .next = some beginning) :
    ∃ id number answer, run.Opens id number answer ∧
      Terms.cursor? beginning.session.terms = some id ∧
      beginning.request.query = (run.session.query run.directory).startingAt (some id) ∧
      (run.OnlySearchedSince number → run.Asked number (run.session.query run.directory)) := by
  obtain ⟨changed, carriedOut, rfl⟩ := Session.begin?_eq_some begins
  cases carriedOut with
  | edited edit => exact absurd edit (by simp [Command.edit?])
  | @forward id cursor =>
      obtain ⟨number, answer, opens⟩ := reached.opens id cursor
      refine ⟨id, number, answer, opens, ?_, ?_, ?_⟩
      · show Terms.cursor? (run.session.turned run.directory (some id) _).terms = some id
        exact Session.cursor?_turned reached.distinct
      · exact Session.query_turned reached.distinct
      · intro since
        obtain ⟨command, request, effects, began⟩ := opens.began
        rw [← reached.askedStill.query number command request effects began since]
        exact asked_of_began began

/-- A run in which a search has been answered and is refreshed, and the answer is held back. -/
def refreshed : Run :=
  rehearsal [.call .search, .answer 0 (.documents [rehearsed "b", rehearsed "a"]), .call .search]

theorem refreshed_opens_last_shown :
    ∃ beginning, Reachable Move.KeepsDirectory refreshed ∧
      refreshed.session.begin? refreshed.directory .next = some beginning ∧
      ∃ id number answer, refreshed.Opens id number answer ∧
        Terms.cursor? beginning.session.terms = some id ∧
        beginning.request.query =
          (refreshed.session.query refreshed.directory).startingAt (some id) ∧
        (refreshed.OnlySearchedSince number →
          refreshed.Asked number (refreshed.session.query refreshed.directory)) := by
  have begins : (refreshed.session.begin? refreshed.directory .next).isSome = true := by
    decide +kernel
  obtain ⟨beginning, begins⟩ := Option.isSome_iff_exists.mp begins
  have reached : Reachable Move.KeepsDirectory refreshed :=
    reachable_rehearsal _ (by simp [Move.KeepsDirectory])
  exact ⟨beginning, reached, begins, next_opens_last_shown reached begins⟩

/-! ## The page of another search -/

/-- A call to turn to the next page takes its cursor from an answer to what the terms ask now. -/
def FollowsOwnPages (run : Run) : Prop :=
  ∀ beginning ∈ run.session.begin? run.directory .next,
    ∃ answered ∈ run.shown, run.session.config.pageSize.toNat < answered.2.length ∧
      answered.2.getLast?.map (·.id) = Terms.cursor? beginning.session.terms ∧
      run.Asked answered.1 (run.session.query run.directory)

/-- A run in which a word is added to a search that has a next page, and the store fails. -/
def strayed : Run :=
  rehearsal [.call .search, .answer 0 (.documents [rehearsed "b", rehearsed "a"]),
    .call (.add "word"), .answer 1 (.failure (.store "offline"))]

/-- **A cursor may outlive its search.** After an edit whose search has failed, the next page is that
of the search before the edit, under the terms after it. -/
theorem strayed_not_followsOwnPages :
    Reachable Move.KeepsDirectory strayed ∧ ¬ strayed.FollowsOwnPages := by
  refine ⟨reachable_rehearsal _ (by simp [Move.KeepsDirectory]), ?_⟩
  intro follows
  have begins : (strayed.session.begin? strayed.directory .next).isSome = true := by
    decide +kernel
  obtain ⟨beginning, begins⟩ := Option.isSome_iff_exists.mp begins
  obtain ⟨answered, shown, _, _, asked⟩ := follows beginning begins
  -- What was shown was asked for before the word was added.
  have before : ∀ answered ∈ strayed.shown,
      (answered.1, strayed.session.query strayed.directory) ∉
        strayed.history.filterMap Happening.asked? := by
    decide +kernel
  exact before answered shown asked

end Run

end FacetSearch
