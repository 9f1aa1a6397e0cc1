import FacetSearch.Proofs.Run.NextPage

/-!
# A cursor opens one page

The cursor of the next page is found by an answer that is longer than a page, and is used up by the
call that turns to that page, before its own answer comes. So each such answer lets the page be
turned once: a second call to turn it is skipped, however often it is made, until another answer has
found a next page again.
-/

namespace FacetSearch

namespace Happening

/-- A call has turned to the next page. -/
def turnsPage : Happening → Bool
  | began _ .next _ _ => true
  | _ => false

/-- A call is completed and says that there is a next page. -/
def findsNext : Happening → Bool
  | ended _ _ (.completed _ hasNext) _ => hasNext
  | _ => false

/-- An answer was shown that holds a document more than the page. -/
def overflows (pageSize : UInt64) (happening : Happening) : Bool :=
  happening.shown?.any fun shown => pageSize.toNat < shown.2.length

theorem command_of_turnsPage {number : Nat} {command : Command} {request : Request}
    {effects : List Effect} (turns : (began number command request effects).turnsPage = true) :
    command = .next := by
  cases command with
  | next => rfl
  | _ => cases turns

theorem findsNext_of_turnsPage {happening : Happening} (turns : happening.turnsPage = true) :
    happening.findsNext = false := by
  cases happening with
  | began number command request effects => rfl
  | _ => cases turns

end Happening

/-! ## Histories in which pages are turned -/

/-- A next page was found, and the page has not been turned since. -/
def foundSince (history : List Happening) : Bool :=
  history.foldl (fun found happening => happening.findsNext || found && !happening.turnsPage) false

/-- Every page that was turned to had been found since the last one was. -/
def TurnsFound (history : List Happening) : Prop :=
  ∀ before turn after, history = before ++ turn :: after → turn.turnsPage = true →
    foundSince before = true

section History

variable {history : List Happening}

theorem foundSince_snoc (history : List Happening) (last : Happening) :
    foundSince (history ++ [last]) =
      (last.findsNext || foundSince history && !last.turnsPage) := by
  unfold foundSince
  rw [List.foldl_append]
  rfl

/-- If the next page was found since some turn, it was found after that turn. -/
theorem exists_findsNext_of_foundSince {before since : List Happening} {turn : Happening}
    (turns : turn.turnsPage = true) (found : foundSince (before ++ turn :: since) = true) :
    ∃ happening ∈ since, happening.findsNext = true := by
  induction since using List.reverseRecOn with
  | nil =>
      rw [foundSince_snoc, turns, Happening.findsNext_of_turnsPage turns] at found
      simp at found
  | append_singleton since last ih =>
      rw [← List.cons_append, ← List.append_assoc, foundSince_snoc, Bool.or_eq_true] at found
      rcases found with now | before
      · exact ⟨last, List.mem_append_right _ List.mem_cons_self, now⟩
      · obtain ⟨happening, hmem, finds⟩ := ih (Bool.and_eq_true_iff.mp before).1
        exact ⟨happening, List.mem_append_left _ hmem, finds⟩

theorem TurnsFound.of_append {rest : List Happening} (h : TurnsFound (history ++ rest)) :
    TurnsFound history := by
  rintro before turn after rfl turns
  exact h before turn (after ++ rest) (by simp) turns

theorem TurnsFound.snoc {last : Happening} (h : TurnsFound history)
    (found : last.turnsPage = true → foundSince history = true) :
    TurnsFound (history ++ [last]) := by
  intro before turn after split turns
  rcases List.eq_nil_or_concat after with rfl | ⟨earlier, other, rfl⟩
  · obtain ⟨rfl, same⟩ := List.append_inj' split rfl
    obtain rfl := List.singleton_inj.mp same
    exact found turns
  · rw [List.concat_eq_append, ← List.cons_append, ← List.append_assoc] at split
    exact h before turn earlier (List.append_inj' split rfl).1 turns

/-- Every turn uses up what was found, so there were no more turns than there were pages found. -/
theorem TurnsFound.count_le (h : TurnsFound history) :
    history.countP Happening.turnsPage + (foundSince history).toNat ≤
      history.countP Happening.findsNext := by
  -- What is found and not yet used up counts as one turn that is still free.
  induction history using List.reverseRecOn with
  | nil => exact Nat.le_refl 0
  | append_singleton history last ih =>
      have counted := ih h.of_append
      have found := h history last [] rfl
      rw [foundSince_snoc, List.countP_append, List.countP_append, List.countP_singleton,
        List.countP_singleton]
      cases turns : last.turnsPage with
      | true =>
          rw [found turns] at counted
          simpa [Happening.findsNext_of_turnsPage turns] using counted
      | false =>
          cases last.findsNext with
          | true =>
              simp only [Bool.true_or, Bool.toNat_true, Bool.false_eq_true, if_true, if_false]
              omega
          | false => simpa using counted

end History

/-- A next page is known after an answer exactly when the answer is longer than a page. -/
theorem Paging.hasNext_record (pageSize : UInt64) (answer : List Document) (paging : Paging) :
    (paging.record pageSize answer).hasNext = decide (pageSize.toNat < answer.length) := by
  unfold hasNext record
  by_cases overflows : pageSize.toNat < answer.length
  · have some_last : answer ≠ [] := List.ne_nil_of_length_pos (by omega)
    simp [overflows, some_last]
  · simp [overflows]

namespace Session

variable {directory : Directory} {command : Command} {session changed : Session}

/-- Only where a next page is known can be turned to it. -/
theorem CarriedOut.hasNext_of_next (h : CarriedOut directory session .next changed) :
    session.paging.hasNext = true := by
  cases h with
  | edited edit => cases edit
  | forward cursor => simp [Paging.hasNext, cursor]

/-- Once the page is turned no next page is known. -/
theorem CarriedOut.hasNext_eq_false (h : CarriedOut directory session .next changed) :
    changed.paging.hasNext = false := by
  cases h with
  | edited edit => cases edit
  | forward cursor => rfl

theorem CarriedOut.hasNext (h : CarriedOut directory session command changed)
    (known : changed.paging.hasNext = true) : session.paging.hasNext = true := by
  obtain ⟨id, cursor⟩ := Option.isSome_iff_exists.mp known
  exact Option.isSome_iff_exists.mpr ⟨id, h.next_eq cursor⟩

/-- An answer finds a next page if it is shown and longer than a page. No other finds one. -/
theorem findsNext_receive (session : Session) (number : Nat) (version : UInt64) (reply : Reply) :
    let answered := session.receive version reply
    let ended := Happening.ended number reply answered.outcome answered.effects
    ended.findsNext = ended.overflows session.config.pageSize ∧
      (answered.session.paging.hasNext = true →
        ended.findsNext = true ∨ session.paging.hasNext = true) := by
  by_cases current : version = session.versions.newest
  · rw [current]
    cases reply with
    | documents answer =>
        rw [receive_documents]
        exact ⟨Paging.hasNext_record session.config.pageSize answer session.paging, Or.inl⟩
    | failure error =>
        rw [receive_failure]
        exact ⟨rfl, Or.inr⟩
  · rw [receive_late current]
    refine ⟨?_, Or.inr⟩
    cases reply <;> rfl

end Session

namespace Run

/-- The history of a run accounts for its pages. A next page that is known has been found and not
turned to since, no page was turned to that had not been found, and to find one is to be shown an
answer longer than a page. -/
structure Paged (run : Run) : Prop where
  known : run.session.paging.hasNext = true → foundSince run.history = true
  turns : TurnsFound run.history
  finds : ∀ happening ∈ run.history,
    happening.findsNext = happening.overflows run.session.config.pageSize

/-- One more happening: a page is turned to only if it is known, and it is known afterwards only if
it is found now, or was known and is not turned to. -/
theorem Paged.snoc {run after : Run} {last : Happening} (h : Paged run)
    (grown : after.history = run.history ++ [last])
    (config : after.session.config = run.session.config)
    (turns : last.turnsPage = true → run.session.paging.hasNext = true)
    (finds : last.findsNext = last.overflows run.session.config.pageSize)
    (known : after.session.paging.hasNext = true →
      last.findsNext = true ∨ run.session.paging.hasNext = true ∧ last.turnsPage = false) :
    Paged after where
  known := by
    intro knows
    rw [grown, foundSince_snoc]
    rcases known knows with found | ⟨knew, stays⟩
    · rw [found, Bool.true_or]
    · rw [h.known knew, stays]
      simp
  turns := by
    rw [grown]
    exact h.turns.snoc fun turn => h.known (turns turn)
  finds := by
    intro happening hmem
    rw [config]
    rw [grown, List.mem_append] at hmem
    rcases hmem with old | new
    · exact h.finds happening old
    · rw [List.mem_singleton.mp new]
      exact finds

theorem Paged.step {run after : Run} {move : Move} (h : Paged run)
    (moved : Moved run move after) : Paged after := by
  cases moved with
  | skipped nothing =>
      exact h.snoc rfl rfl (fun turns => Bool.noConfusion turns) rfl
        (fun knew => Or.inr ⟨knew, rfl⟩)
  | @began command changed carriedOut =>
      have config : changed.config = run.session.config := by rw [carriedOut.eq_with]
      refine h.snoc rfl config ?_ rfl ?_
      · intro turns
        obtain rfl := Happening.command_of_turnsPage turns
        exact carriedOut.hasNext_of_next
      · intro knows
        refine Or.inr ⟨carriedOut.hasNext knows, ?_⟩
        by_contra turns
        obtain rfl := Happening.command_of_turnsPage (Bool.of_not_eq_false turns)
        have known : changed.paging.hasNext = true := knows
        rw [carriedOut.hasNext_eq_false] at known
        cases known
  | @ended number reply request waits =>
      obtain ⟨finds, known⟩ :=
        Session.findsNext_receive run.session number request.version reply
      refine h.snoc rfl Session.config_receive (fun turns => Bool.noConfusion turns) finds ?_
      exact fun knows => (known knows).imp_right fun knew => ⟨knew, rfl⟩
  | cancelled waits =>
      exact h.snoc rfl rfl (fun turns => Bool.noConfusion turns) rfl
        (fun knew => Or.inr ⟨knew, rfl⟩)
  | unheard gone => exact h
  | missed gone => exact h
  | redirected directory => exact ⟨h.known, h.turns, h.finds⟩

theorem Reachable.paged {may : Move → Prop} {run : Run} (reached : Reachable may run) :
    Paged run := by
  induction reached with
  | new config saves directory kept =>
      exact ⟨fun known => Bool.noConfusion known,
        fun before turn after split => absurd split (by simp [start]), by simp [start]⟩
  | step _ _ ih => exact ih.step (moved_step _ _)

/-- **One cursor opens one page at most.** However calls and answers follow each other, up to any
point there were no more turns to a next page than calls that were completed and said that there is
one. Between two turns an answer longer than a page was shown. And as long as none has been shown
since a turn, whatever has become of its own answer, a call to turn the page again is skipped, and
leaves everything as it was. -/
theorem cursor_opens_one_page {run : Run} (reached : Reachable Move.Any run) :
    (∀ past, past <+: run.history →
      past.countP Happening.turnsPage ≤ past.countP Happening.findsNext) ∧
    (∀ before first between second after,
      run.history = before ++ first :: between ++ second :: after →
      first.turnsPage = true → second.turnsPage = true →
      ∃ answered ∈ between, answered.overflows run.session.config.pageSize = true) ∧
    ∀ before turn since, run.history = before ++ turn :: since → turn.turnsPage = true →
      (∀ answered ∈ since, answered.overflows run.session.config.pageSize = false) →
      run.call .next = { run with history := run.history ++ [.skipped .next] } := by
  have paged := reached.paged
  refine ⟨?_, ?_, ?_⟩
  · rintro past ⟨rest, split⟩
    have turns : TurnsFound past := (split ▸ paged.turns).of_append
    exact Nat.le_trans (Nat.le_add_right _ _) turns.count_le
  · intro before first between second after split turns turnsAgain
    have found := paged.turns _ second after split turnsAgain
    obtain ⟨answered, hmem, finds⟩ := exists_findsNext_of_foundSince turns found
    refine ⟨answered, hmem, ?_⟩
    rw [← paged.finds answered (by simp [split, hmem])]
    exact finds
  · intro before turn since split turns short
    apply call_skipped
    rw [Session.begin?_eq_none, Session.carryOut?_next_eq_none]
    by_contra known
    have found := paged.known (Bool.of_not_eq_false known)
    rw [split] at found
    obtain ⟨answered, hmem, finds⟩ := exists_findsNext_of_foundSince turns found
    rw [paged.finds answered (by simp [split, hmem]), short answered hmem] at finds
    cases finds

/-- A run in which the page is turned twice at once, the first turn fails, and a new search finds
the page again. -/
def insistent : Run :=
  rehearsal [.call .search, .answer 0 (.documents [rehearsed "b", rehearsed "a"]), .call .next,
    .call .next, .answer 1 (.failure (.store "offline")), .call .search,
    .answer 2 (.documents [rehearsed "b", rehearsed "a"]), .call .next]

theorem insistent_opens_one_page :
    Reachable Move.Any insistent ∧
    (insistent.history.take 5).countP Happening.turnsPage ≤
      (insistent.history.take 5).countP Happening.findsNext ∧
    (∃ first second, insistent.history = insistent.history.take 2 ++
        first :: (insistent.history.take 7).drop 3 ++ second :: [] ∧
      first.turnsPage = true ∧ second.turnsPage = true ∧
      ∃ answered ∈ (insistent.history.take 7).drop 3, answered.overflows 1 = true) ∧
    insistent.call .next =
      { insistent with history := insistent.history ++ [.skipped .next] } := by
  have reached : Reachable Move.Any insistent := reachable_rehearsal _ (by simp [Move.Any])
  have found : ∃ first ∈ insistent.history, ∃ second ∈ insistent.history,
      insistent.history = insistent.history.take 2 ++
        first :: (insistent.history.take 7).drop 3 ++ second :: [] ∧
      first.turnsPage = true ∧ second.turnsPage = true := by
    decide +kernel
  obtain ⟨first, -, second, -, split, turns, turnsAgain⟩ := found
  obtain ⟨counted, between, skipped⟩ := cursor_opens_one_page reached
  refine ⟨reached, counted _ (List.take_prefix 5 _),
    ⟨first, second, split, turns, turnsAgain, ?_⟩, ?_⟩
  · exact between _ first _ second [] split turns turnsAgain
  · exact skipped _ second [] split turnsAgain (fun answered hmem => absurd hmem List.not_mem_nil)

end Run

end FacetSearch
