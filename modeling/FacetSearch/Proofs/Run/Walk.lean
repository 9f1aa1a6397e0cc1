import FacetSearch.Proofs.Paging.Pager
import FacetSearch.Proofs.Run.Reachable

/-!
# Walking through the pages

Once a search has been answered, a session that goes from page to page, and waits for each of them,
shows what a pager would show that has the whole answer before it. What ties the two together is
where the pages start: the way back holds the starts of the pages behind, and the cursor is the
start of the page ahead.
-/

namespace FacetSearch

def Turn.command : Turn → Command
  | .next => .next
  | .prev => .prev

/-- The command, if what happened is that it asked the store. -/
def Happening.command? : Happening → Option Command
  | began _ command _ _ => some command
  | _ => none

namespace Run

/-- The commands that were not skipped, first things first. -/
def commands (run : Run) : List Command := run.history.filterMap Happening.command?

/-- Calls the session and, unless the call is skipped, lets the store answer it at once. -/
def await (store : StaticStore) (command : Command) (run : Run) : Run :=
  match (run.call command).request? run.asked with
  | none => run.call command
  | some request =>
    (run.call command).answer run.asked (.documents (store.answer request.query))

def walk (store : StaticStore) (turns : List Turn) (run : Run) : Run :=
  turns.foldl (fun run turn => run.await store turn.command) run

/-! ## One call -/

section Await

variable {run : Run} {command : Command} (store : StaticStore)

theorem Reachable.await (reached : Reachable Move.Any run) :
    Reachable Move.Any (run.await store command) := by
  have called : Reachable Move.Any (run.step (.call command)) := reached.step trivial
  unfold Run.await
  split
  · exact called
  · rename_i request _
    show Reachable Move.Any (Run.step _ (.answer run.asked (.documents (store.answer request.query))))
    exact called.step trivial

/-- A call that is skipped leaves a note, and nothing else. -/
theorem await_skipped (orderly : Orderly run)
    (nothing : run.session.carryOut? run.directory command = none) :
    run.await store command = { run with history := run.history ++ [.skipped command] } := by
  unfold await
  rw [call_skipped (Session.begin?_eq_none.mpr nothing)]
  show (match run.request? run.asked with | none => _ | some request => _) = _
  rw [orderly.request?_asked]

/-- A call that is not skipped ends with the page that the store answers. -/
theorem await_begun (orderly : Orderly run) {changed : Session}
    (carriedOut : run.session.carryOut? run.directory command = some changed) :
    let begun := changed.begun run.directory command
    let answered := begun.session.showPage begun.request.version
      (store.answer (changed.query run.directory))
    run.await store command =
      { run with
        session := answered.session
        asked := run.asked + 1
        history := run.history ++ [.began run.asked command begun.request begun.effects] ++
          [.ended run.asked (.documents (store.answer (changed.query run.directory)))
            answered.outcome answered.effects] } := by
  intro begun answered
  have shown : begun.session.receive begun.request.version
      (.documents (store.answer (changed.query run.directory))) = answered :=
    Session.receive_documents _
  unfold await
  rw [orderly.request?_call carriedOut]
  show (run.call command).answer run.asked
    (.documents (store.answer (changed.query run.directory))) = _
  rw [orderly.answer_call carriedOut, shown]

theorem commands_await (orderly : Orderly run) :
    (run.await store command).commands =
      run.commands ++
        if (run.session.carryOut? run.directory command).isSome then [command] else [] := by
  unfold commands
  cases carriedOut : run.session.carryOut? run.directory command with
  | none =>
      rw [await_skipped store orderly carriedOut, List.filterMap_append]
      rfl
  | some changed =>
      rw [await_begun store orderly carriedOut, List.filterMap_append, List.filterMap_append,
        List.append_assoc]
      rfl

/-- The call is skipped. -/
def Skips (run : Run) (store : StaticStore) (command : Command) : Prop :=
  (run.await store command).history = run.history ++ [.skipped command]

theorem skips_iff (orderly : Orderly run) :
    run.Skips store command ↔ run.session.carryOut? run.directory command = none := by
  unfold Skips
  cases carriedOut : run.session.carryOut? run.directory command with
  | none =>
      rw [await_skipped store orderly carriedOut]
      exact iff_of_true rfl rfl
  | some changed =>
      rw [await_begun store orderly carriedOut, List.append_assoc]
      simp

end Await

/-! ## The session and the pager -/

/-- A session that shows the page that a pager shows, and knows the pages around it. -/
structure Follows (store : StaticStore) (query : Query) (run : Run) (pager : Pager) : Prop where
  reached : Reachable Move.Any run
  size : run.session.config.pageSize.toNat = pager.size
  found : pager.found = store.found query
  there : pager.page = 0 ∨ pager.page * pager.size < pager.found.length
  asks : run.session.query run.directory =
    query.startingAt (store.pageStart query pager.size pager.page)
  documents : run.session.documents = pager.shown
  ahead : run.session.paging.next = pager.found[(pager.page + 1) * pager.size]?.map (·.id)
  behind : run.session.paging.history =
    (List.range pager.page).reverse.map (store.pageStart query pager.size)

section Follows

variable {store : StaticStore} {query : Query} {run : Run}

theorem follows_await {command : Command} {changed : Session} {page : Nat}
    (reached : Reachable Move.Any run)
    (small : run.session.config.pageSize.toNat < 2 ^ 64 - 1)
    (carriedOut : run.session.carryOut? run.directory command = some changed)
    (there : page = 0 ∨
      page * run.session.config.pageSize.toNat < (store.found query).length)
    (asks : changed.query run.directory =
      query.startingAt (store.pageStart query run.session.config.pageSize.toNat page))
    (behind : changed.paging.history =
      (List.range page).reverse.map
        (store.pageStart query run.session.config.pageSize.toNat)) :
    Follows store query (run.await store command)
      ⟨store.found query, run.session.config.pageSize.toNat, page⟩ := by
  have config : changed.config = run.session.config := by
    rw [(Session.carriedOut_of_carryOut? carriedOut).eq_with]
  have limit : (changed.query run.directory).limit.toNat =
      run.session.config.pageSize.toNat + 1 := by
    unfold Session.query
    rw [Query.limit_ofTerms, config, Paging.toNat_requestLimit _ small]
  have answer : store.answer (changed.query run.directory) =
      ((store.found query).drop (page * run.session.config.pageSize.toNat)).take
        (run.session.config.pageSize.toNat + 1) := by
    unfold StaticStore.answer
    rw [limit, asks, store.found_pageStart _ _ there]
  have again : Reachable Move.Any (run.await store command) := reached.await store
  rw [await_begun store reached.orderly carriedOut] at again ⊢
  refine ⟨again, ?_, rfl, there, asks, ?_, ?_, behind⟩
  · exact congrArg (fun config => config.pageSize.toNat) config
  · show Paging.shown changed.config.pageSize (store.answer (changed.query run.directory)) = _
    rw [config, answer, Paging.shown_take, Pager.shown_eq_take]
  · show (Paging.record changed.config.pageSize (store.answer (changed.query run.directory))
      changed.paging).next = _
    rw [config, answer, Paging.next_record_take, List.getElem?_drop]
    show _ = Option.map _ (store.found query)[(page + 1) * _]?
    rw [Nat.succ_mul]

/-- The answered search shows the first page. -/
theorem follows_search (reached : Reachable Move.Any run)
    (small : run.session.config.pageSize.toNat < 2 ^ 64 - 1) :
    Follows store (run.session.query run.directory) (run.await store .search)
      ⟨store.found (run.session.query run.directory), run.session.config.pageSize.toNat, 0⟩ :=
  follows_await reached small rfl (Or.inl rfl) rfl rfl

variable {pager : Pager}

theorem Follows.await_skipped {command : Command} (h : Follows store query run pager)
    (nothing : run.session.carryOut? run.directory command = none) :
    Follows store query (run.await store command) pager := by
  have again : Reachable Move.Any (run.await store command) := h.reached.await store
  rw [Run.await_skipped store h.reached.orderly nothing] at again ⊢
  exact ⟨again, h.size, h.found, h.there, h.asks, h.documents, h.ahead, h.behind⟩

/-- The way back, once the page is left. -/
theorem Follows.behind_left (h : Follows store query run pager) :
    Terms.cursor? run.session.terms :: run.session.paging.history =
      (List.range (pager.page + 1)).reverse.map (store.pageStart query pager.size) := by
  have start : Terms.cursor? run.session.terms = store.pageStart query pager.size pager.page := by
    rw [← Query.before_ofTerms h.reached.distinct (Paging.requestLimit run.session.config.pageSize)]
    exact congrArg Query.before h.asks
  rw [start, h.behind, List.range_succ, List.reverse_append]
  rfl

theorem Follows.await_next (h : Follows store query run pager) (small : pager.size < 2 ^ 64 - 1)
    (more : pager.hasNext = true) :
    Follows store query (run.await store .next) { pager with page := pager.page + 1 } := by
  obtain ⟨found, size, page⟩ := pager
  obtain rfl : run.session.config.pageSize.toNat = size := h.size
  obtain rfl : found = store.found query := h.found
  have inside : (page + 1) * run.session.config.pageSize.toNat < (store.found query).length :=
    of_decide_eq_true more
  have opens := List.getElem?_eq_getElem inside
  have cursor := h.ahead
  rw [opens] at cursor
  refine follows_await h.reached small (Session.carryOut?_next cursor) (Or.inr inside) ?_ ?_
  · rw [Session.query_turned h.reached.distinct, h.asks, store.pageStart_succ, opens]
    rfl
  · exact h.behind_left

theorem Follows.await_prev (h : Follows store query run pager) (small : pager.size < 2 ^ 64 - 1)
    (more : pager.hasPrev = true) :
    Follows store query (run.await store .prev) { pager with page := pager.page - 1 } := by
  obtain ⟨found, size, page⟩ := pager
  obtain rfl : run.session.config.pageSize.toNat = size := h.size
  obtain rfl : found = store.found query := h.found
  obtain ⟨page, rfl⟩ : ∃ before, page = before + 1 :=
    Nat.exists_eq_succ_of_ne_zero (Nat.ne_of_gt (of_decide_eq_true more))
  have left := h.behind
  rw [List.range_succ, List.reverse_append] at left
  refine follows_await h.reached small (Session.carryOut?_prev left) ?_ ?_ rfl
  · have inside : (page + 1) * run.session.config.pageSize.toNat < (store.found query).length :=
      h.there.resolve_left (Nat.succ_ne_zero page)
    exact Or.inr (Nat.lt_of_le_of_lt (Nat.mul_le_mul_right _ (Nat.le_succ page)) inside)
  · rw [Session.query_turned h.reached.distinct, h.asks]
    rfl

/-- The session has a page to turn to exactly when the pager has. -/
theorem Follows.hasNext_eq (h : Follows store query run pager) :
    run.session.paging.hasNext = pager.hasNext := by
  unfold Paging.hasNext Pager.hasNext
  rw [h.ahead, Option.isSome_map, Bool.eq_iff_iff, Option.isSome_iff_exists]
  simp [List.getElem?_eq_some_iff]

theorem Follows.hasPrev_eq (h : Follows store query run pager) :
    run.session.paging.hasPrev = pager.hasPrev := by
  unfold Paging.hasPrev Pager.hasPrev
  rw [h.behind]
  cases pager.page <;> simp

/-- The session turns the page exactly when the pager does. -/
theorem Follows.isSome_carryOut? (h : Follows store query run pager) (turn : Turn) :
    (run.session.carryOut? run.directory turn.command).isSome = (pager.turn? turn).isSome := by
  rw [Bool.eq_iff_iff, Option.isSome_iff_ne_none, Option.isSome_iff_ne_none, not_iff_not]
  cases turn with
  | next =>
      refine Session.carryOut?_next_eq_none.trans ?_
      rw [h.hasNext_eq]
      simp [Pager.turn?]
  | prev =>
      refine Session.carryOut?_prev_eq_none.trans ?_
      rw [h.hasPrev_eq]
      simp [Pager.turn?]

theorem Follows.await_turn (h : Follows store query run pager) (small : pager.size < 2 ^ 64 - 1)
    (turn : Turn) :
    Follows store query (run.await store turn.command) ((pager.turn? turn).getD pager) := by
  cases turned : pager.turn? turn with
  | none =>
      refine h.await_skipped (Option.not_isSome_iff_eq_none.mp ?_)
      rw [h.isSome_carryOut?, turned]
      exact Bool.false_ne_true
  | some after =>
      cases turn with
      | next =>
          obtain ⟨more, rfl⟩ := Pager.of_turn?_next turned
          exact h.await_next small more
      | prev =>
          obtain ⟨more, rfl⟩ := Pager.of_turn?_prev turned
          exact h.await_prev small more

/-- The page number counts the turns that were not skipped. -/
theorem Follows.count_await_turn (h : Follows store query run pager) (turn : Turn) :
    ∃ begun, (run.await store turn.command).commands = run.commands ++ begun ∧
      ((pager.turn? turn).getD pager).page + begun.count .prev =
        pager.page + begun.count .next := by
  -- The call asks the store exactly when the pager turns.
  refine ⟨_, commands_await store h.reached.orderly, ?_⟩
  rw [h.isSome_carryOut?]
  cases turned : pager.turn? turn with
  | none => rfl
  | some after =>
      cases turn with
      | next =>
          obtain ⟨more, rfl⟩ := Pager.of_turn?_next turned
          rfl
      | prev =>
          obtain ⟨more, rfl⟩ := Pager.of_turn?_prev turned
          exact Nat.sub_add_cancel (of_decide_eq_true more)

/-- **The session goes where the pager goes.** -/
theorem Follows.walk (h : Follows store query run pager) (small : pager.size < 2 ^ 64 - 1)
    (turns : List Turn) :
    Follows store query (run.walk store turns) (pager.follow turns) ∧
      ∃ begun, (run.walk store turns).commands = run.commands ++ begun ∧
        (pager.follow turns).page + begun.count .prev = pager.page + begun.count .next := by
  induction turns generalizing run pager with
  | nil => exact ⟨h, [], (List.append_nil _).symm, rfl⟩
  | cons turn rest ih =>
      obtain ⟨begun, commands, page⟩ := h.count_await_turn turn
      have after := h.await_turn small turn
      have small' : ((pager.turn? turn).getD pager).size < 2 ^ 64 - 1 := by
        rw [Pager.size_turn?]
        exact small
      obtain ⟨followed, begun', commands', page'⟩ := ih after small'
      refine ⟨followed, begun ++ begun', ?_, ?_⟩
      · rw [← List.append_assoc, ← commands]
        exact commands'
      · rw [List.count_append, List.count_append]
        show (((pager.turn? turn).getD pager).follow rest).page + _ = _
        omega

end Follows

/-! ## Walks -/

/-- **A session leafs like a pager.** Let a search be answered by a store whose documents stay as
they are, and let the session go from page to page and wait for each. Then it shows the slice of
the whole answer that a pager shows, the page number being that of the turns forward less the turns
back; there is a next page unless the answer ends, there is a previous one unless it begins here,
and a turn is skipped exactly where there is none. Going forward as long as there is a next page
shows the whole answer, with no document left out or shown again. -/
theorem walk_follows_pager {run : Run} (reached : Reachable Move.Any run) (store : StaticStore)
    (small : run.session.config.pageSize.toNat < 2 ^ 64 - 1) :
    let found := store.found (run.session.query run.directory)
    let size := run.session.config.pageSize.toNat
    let searched := run.await store .search
    (∀ turns, let walked := searched.walk store turns
      ∃ page begun, (Pager.mk found size 0).follow turns = ⟨found, size, page⟩ ∧
        walked.commands = searched.commands ++ begun ∧
        page + begun.count .prev = begun.count .next ∧
        walked.session.documents =
          found.extract (page * size) (min ((page + 1) * size) found.length) ∧
        (walked.session.paging.hasNext = true ↔ (page + 1) * size < found.length) ∧
        (walked.session.paging.hasPrev = true ↔ 0 < page) ∧
        (walked.Skips store .next ↔ walked.session.paging.hasNext = false) ∧
        (walked.Skips store .prev ↔ walked.session.paging.hasPrev = false)) ∧
      ∃ last, let forward := fun page => searched.walk store (List.replicate page .next)
        (∀ page < last, (forward page).session.paging.hasNext = true) ∧
        (forward last).session.paging.hasNext = false ∧
        (List.range (last + 1)).flatMap (fun page => (forward page).session.documents) =
          found := by
  intro found size searched
  have follows : Follows store (run.session.query run.directory) searched ⟨found, size, 0⟩ :=
    follows_search reached small
  constructor
  · intro turns walked
    obtain ⟨followed, begun, commands, count⟩ := follows.walk small turns
    obtain ⟨page, same⟩ := Pager.exists_follow_eq ⟨found, size, 0⟩ turns
    rw [same] at followed count
    refine ⟨page, begun, same, commands, ?_, followed.documents, ?_, ?_, ?_, ?_⟩
    · rw [count]
      exact Nat.zero_add _
    · rw [followed.hasNext_eq]
      exact decide_eq_true_iff
    · rw [followed.hasPrev_eq]
      exact decide_eq_true_iff
    · exact (skips_iff store followed.reached.orderly).trans Session.carryOut?_next_eq_none
    · exact (skips_iff store followed.reached.orderly).trans Session.carryOut?_prev_eq_none
  · obtain ⟨last, there, ends⟩ := Pager.exists_last found run.session.config.toNat_pageSize_pos
    -- Up to the last page no turn forward is skipped.
    have shows : ∀ page ≤ last, Follows store (run.session.query run.directory)
        (searched.walk store (List.replicate page .next)) ⟨found, size, page⟩ := by
      intro page hpage
      have before : page = 0 ∨ page * size < found.length :=
        Pager.there_of_le hpage there
      have followed := (follows.walk small (List.replicate page .next)).1
      rw [Pager.follow_forward before] at followed
      exact followed
    refine ⟨last, ?_, ?_, ?_⟩
    · intro page hpage
      rw [(shows page (Nat.le_of_lt hpage)).hasNext_eq]
      exact decide_eq_true ((Pager.there_of_le hpage there).resolve_left (Nat.succ_ne_zero page))
    · rw [(shows last (Nat.le_refl last)).hasNext_eq]
      exact decide_eq_false (Nat.not_lt_of_le ends)
    · have pages : (List.range (last + 1)).flatMap
          (fun page => (searched.walk store (List.replicate page .next)).session.documents) =
          (List.range (last + 1)).flatMap fun page => (Pager.mk found size page).shown := by
        refine List.flatMap_congr fun page hpage => ?_
        exact (shows page (Nat.le_of_lt_succ (List.mem_range.mp hpage))).documents
      rw [pages, Pager.flatMap_shown, List.take_of_length_le ends]

/-- Three documents of one journal. -/
def shelf : StaticStore :=
  Listing.store [rehearsed "c", rehearsed "b", rehearsed "a"] (by decide +kernel)

/-- A run in which a word is looked for and the answer is held back. -/
def awaited : Run := rehearsal [.call (.add "word")]

theorem awaited_walk_follows_pager :
    Reachable Move.Any awaited ∧ awaited.session.config.pageSize.toNat < 2 ^ 64 - 1 ∧
      ∃ last, let forward := fun page =>
          (awaited.await shelf .search).walk shelf (List.replicate page .next)
        (∀ page < last, (forward page).session.paging.hasNext = true) ∧
        (forward last).session.paging.hasNext = false ∧
        (List.range (last + 1)).flatMap (fun page => (forward page).session.documents) =
          [rehearsed "c", rehearsed "b", rehearsed "a"] := by
  have reached : Reachable Move.Any awaited := reachable_rehearsal _ (fun _ _ => trivial)
  have small : awaited.session.config.pageSize.toNat < 2 ^ 64 - 1 := by decide +kernel
  have found : shelf.found (awaited.session.query awaited.directory) =
      [rehearsed "c", rehearsed "b", rehearsed "a"] := by
    decide +kernel
  refine ⟨reached, small, ?_⟩
  rw [← found]
  exact (walk_follows_pager reached shelf small).2

end Run

end FacetSearch
