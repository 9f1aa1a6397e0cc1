import FacetSearch.Proofs.Selection.Distinct
import Mathlib.Data.List.Induction

/-!
# Which terms last

Terms are put one after the other, and a slot is emptied and filled again on the way. Which of them
are there at the end, and in which order, can be read off the row of terms itself, without putting
any. A term of a field lasts where it stands for the first time. A slot ends with the value of its
last term, and that value stands where the last run of it began: to put it again changes nothing, to
put another one in between moves it to the end.
-/

namespace FacetSearch.Terms

/-- A term lasts between those put earlier and those put later. In a field, it has not been there
before. In a slot, no later term changes the value, and the nearest earlier term of the slot, if there
is one, has another. -/
def Lasts (earlier : List Term) (term : Term) (later : List Term) : Prop :=
  match term.facet with
  | .field _ => term ∉ earlier
  | .slot _ =>
    (∀ other ∈ later, other.facet = term.facet → other = term) ∧
      earlier.reverse.find? (·.facet = term.facet) ≠ some term

instance (earlier : List Term) (term : Term) (later : List Term) :
    Decidable (Lasts earlier term later) := by
  unfold Lasts
  split <;> infer_instance

/-- The terms that last, in the order of their places. -/
def lasting (terms : List Term) : List Term :=
  (terms.zipIdx.filter fun place =>
    Lasts (terms.take place.2) place.1 (terms.drop (place.2 + 1))).map Prod.fst

section Snoc

variable {terms earlier later : List Term} {added term : Term}

/-! ## What stays when one more term is put -/

theorem staysBeside_of_field {field : Field} (h : term.facet = .field field) :
    staysBeside added term = true := by
  cases hfacet : added.facet with
  | field other => simp [staysBeside, hfacet, Facet.isSlot]
  | slot slot => simp [staysBeside, h, hfacet]

theorem staysBeside_of_slot {slot : Slot} (h : term.facet = .slot slot) :
    staysBeside added term = true ↔ added.facet ≠ .slot slot := by
  cases hfacet : added.facet with
  | field field => simp [staysBeside, hfacet, Facet.isSlot]
  | slot other =>
      simp only [staysBeside, h, hfacet, Facet.isSlot]
      simpa using not_congr eq_comm

/-- In a distinct collection nothing else stands in the slot of a term. -/
theorem Distinct.stays_of_mem (h : Distinct terms) (there : added ∈ terms) (hterm : term ∈ terms) :
    added = term ∨ staysBeside added term = true := by
  cases hfacet : term.facet with
  | field field => exact Or.inr (staysBeside_of_field hfacet)
  | slot slot =>
      rw [staysBeside_of_slot hfacet, or_iff_not_imp_right, not_not]
      exact fun same => h.eq_of_slot there hterm same hfacet

theorem Distinct.mem_merge_iff (h : Distinct terms) :
    term ∈ Terms.merge terms added ↔
      added = term ∨ term ∈ terms ∧ staysBeside added term = true := by
  rw [h.merge_eq]
  split
  · rename_i there
    constructor
    · intro hterm
      exact (h.stays_of_mem there hterm).imp_right fun stays => ⟨hterm, stays⟩
    · rintro (rfl | ⟨hterm, -⟩)
      · exact there
      · exact hterm
  · rw [List.mem_append, List.mem_filter, List.mem_singleton, or_comm, eq_comm]

theorem mergeAll_snoc (terms : List Term) (added : Term) :
    mergeAll (terms ++ [added]) = merge (mergeAll terms) added := by
  unfold mergeAll
  rw [List.foldl_append]
  rfl

/-! ## What lasts when one more term is put -/

/-- A term does not last if one more is put later that takes its slot, unless the two are equal. -/
theorem lasts_snoc_later :
    Lasts earlier term (later ++ [added]) ↔
      Lasts earlier term later ∧ (added = term ∨ staysBeside added term = true) := by
  unfold Lasts
  cases hfacet : term.facet with
  | field field =>
      have stays : staysBeside added term = true := staysBeside_of_field hfacet
      simp [stays]
  | slot slot =>
      have one_more : (∀ other ∈ later ++ [added], other.facet = .slot slot → other = term) ↔
          (∀ other ∈ later, other.facet = .slot slot → other = term) ∧
            (added = term ∨ staysBeside added term = true) := by
        rw [List.forall_mem_append, List.forall_mem_singleton, staysBeside_of_slot hfacet, or_comm,
          ← imp_iff_not_or]
      rw [one_more]
      exact and_right_comm

/-- A term put right behind another lasts if the two differ, and if it would last without the other
or takes the slot from it. -/
theorem lasts_snoc_earlier :
    Lasts (earlier ++ [added]) term [] ↔
      added ≠ term ∧ (Lasts earlier term [] ∨ ¬ staysBeside added term = true) := by
  unfold Lasts
  cases hfacet : term.facet with
  | field field =>
      have stays : staysBeside added term = true := staysBeside_of_field hfacet
      simp [stays, and_comm, eq_comm]
  | slot slot =>
      rw [List.reverse_concat, staysBeside_of_slot hfacet]
      by_cases nearest : added.facet = .slot slot
      · simp [nearest]
      · have other : added ≠ term := fun same => nearest (same ▸ hfacet)
        simp [nearest, other]

theorem lasting_snoc :
    lasting (terms ++ [added]) =
      ((lasting terms).filter fun term => added = term || staysBeside added term) ++
        if Lasts terms added [] then [added] else [] := by
  have others : ∀ place ∈ terms.zipIdx,
      decide (Lasts ((terms ++ [added]).take place.2) place.1
          ((terms ++ [added]).drop (place.2 + 1))) =
        ((decide (added = place.1) || staysBeside added place.1) &&
          decide (Lasts (terms.take place.2) place.1 (terms.drop (place.2 + 1)))) := by
    rintro ⟨term, i⟩ hplace
    have within : i < terms.length := List.snd_lt_of_mem_zipIdx hplace
    rw [List.take_append_of_le_length (Nat.le_of_lt within),
      List.drop_append_of_le_length (Nat.succ_le_of_lt within), Bool.eq_iff_iff]
    simp [lasts_snoc_later, and_comm]
  have last : (terms ++ [added]).drop (terms.length + 1) = [] := by simp
  unfold lasting
  rw [List.zipIdx_append, List.filter_append, List.map_append, List.filter_congr others,
    ← List.filter_filter, List.filter_map, List.zipIdx_singleton, List.filter_singleton,
    Nat.zero_add, List.take_left, last]
  congr 1
  by_cases lasts : Lasts terms added [] <;> simp [lasts]

end Snoc

/-- A term put at the end lasts there unless it is in the collection already. -/
theorem lasts_nil_iff {terms : List Term} {term : Term} :
    Lasts terms term [] ↔ term ∉ mergeAll terms := by
  induction terms using List.reverseRecOn with
  | nil =>
      unfold Lasts
      cases term.facet <;> simp [mergeAll]
  | append_singleton terms added ih =>
      rw [mergeAll_snoc, (distinct_mergeAll terms).mem_merge_iff, lasts_snoc_earlier, ih,
        ← not_and_or, ← not_or]

/-- **The merged collection is what lasts**, in the order in which it was put, and to put it again
changes nothing. -/
theorem mergeAll_eq_lasting (terms : List Term) :
    mergeAll terms = lasting terms ∧ mergeAll (mergeAll terms) = mergeAll terms := by
  refine ⟨?_, (distinct_mergeAll terms).mergeAll⟩
  -- From the end: the term put last drops from the collection what it drops from those that lasted.
  induction terms using List.reverseRecOn with
  | nil => rfl
  | append_singleton terms added ih =>
      have distinct := distinct_mergeAll terms
      rw [mergeAll_snoc, lasting_snoc, ← ih, distinct.merge_eq]
      by_cases there : added ∈ mergeAll terms
      · rw [if_pos there, if_neg fun lasts => lasts_nil_iff.mp lasts there, List.append_nil]
        refine (List.filter_eq_self.mpr fun term hterm => ?_).symm
        simpa using distinct.stays_of_mem there hterm
      · rw [if_neg there, if_pos (lasts_nil_iff.mpr there)]
        congr 1
        refine List.filter_congr fun term hterm => ?_
        have other : added ≠ term := fun same => there (same ▸ hterm)
        simp [other]

example : lasting [.cursor "a", .matching .tag "t" false, .cursor "b", .matching .tag "t" false,
    .cursor "a", .date "2024", .cursor "a"] =
    [.matching .tag "t" false, .cursor "a", .date "2024"] := by
  decide

end FacetSearch.Terms
