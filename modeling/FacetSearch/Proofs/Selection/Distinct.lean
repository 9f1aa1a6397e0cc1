import FacetSearch.Selection
import Mathlib.Data.List.Basic

/-!
# Terms side by side

A collection made by putting terms never holds a term twice, and never two terms of one slot. With
that, the rules of a slot become simple: taking out its first term takes out all, and finding its
first term finds the only one.
-/

namespace FacetSearch

/-- Two terms that a collection may hold side by side: they differ, and do not fill one slot. -/
def Term.Beside (a b : Term) : Prop :=
  a ≠ b ∧ (a.facet.isSlot = true → a.facet ≠ b.facet)

theorem Term.Beside.symm {a b : Term} (h : a.Beside b) : b.Beside a := by
  refine ⟨Ne.symm h.1, ?_⟩
  intro isSlot same
  exact h.2 (same ▸ isSlot) same.symm

/-- No term twice, and no two terms of one slot. -/
def Terms.Distinct (terms : List Term) : Prop :=
  terms.Pairwise Term.Beside

namespace Terms

theorem distinct_nil : Distinct [] := List.Pairwise.nil

/-- Whatever is taken out, the terms left stay distinct. -/
theorem Distinct.filter {terms : List Term} (h : Distinct terms) (p : Term → Bool) :
    Distinct (terms.filter p) :=
  List.Pairwise.filter p h

theorem Distinct.nodup {terms : List Term} (h : Distinct terms) : terms.Nodup :=
  List.Pairwise.imp And.left h

theorem Distinct.perm {terms other : List Term} (h : Distinct terms) (perm : terms.Perm other) :
    Distinct other :=
  (perm.pairwise_iff Term.Beside.symm).mp h

/-! ## Slots -/

section Slots

variable {terms : List Term} {slot : Slot}

/-- A slot that a term fills is not filled again further on. -/
theorem Distinct.facet_ne_of_cons {term : Term} (h : Distinct (term :: terms))
    (filled : term.facet = .slot slot) : ∀ other ∈ terms, other.facet ≠ .slot slot := by
  intro other hother same
  have beside := (List.pairwise_cons.mp h).1 other hother
  exact beside.2 (by rw [filled]; rfl) (filled.trans same.symm)

/-- Taking out the first term of a slot takes out all of them. -/
theorem Distinct.eraseP_slot (h : Distinct terms) :
    terms.eraseP (·.facet = .slot slot) = terms.filter (·.facet ≠ .slot slot) := by
  induction terms with
  | nil => rfl
  | cons term rest ih =>
      by_cases filled : term.facet = .slot slot
      · have others := h.facet_ne_of_cons filled
        rw [List.eraseP_cons_of_pos (by simpa using filled),
          List.filter_cons_of_neg (by simpa using filled)]
        exact (List.filter_eq_self.mpr (by simpa using others)).symm
      · rw [List.eraseP_cons_of_neg (by simpa using filled),
          List.filter_cons_of_pos (by simpa using filled),
          ih (List.Pairwise.of_cons h)]

/-- The first term of a slot is the only one. -/
theorem Distinct.find?_slot (h : Distinct terms) {term : Term}
    (fills : term.facet = .slot slot) :
    terms.find? (·.facet = .slot slot) = some term ↔ term ∈ terms := by
  induction terms with
  | nil => simp
  | cons first rest ih =>
      by_cases filled : first.facet = .slot slot
      · have others := h.facet_ne_of_cons filled
        rw [List.find?_cons_of_pos (by simpa using filled), List.mem_cons]
        constructor
        · intro found
          exact Or.inl (Option.some.inj found).symm
        · rintro (rfl | later)
          · rfl
          · exact absurd fills (others term later)
      · have differs : term ≠ first := fun same => filled (same ▸ fills)
        rw [List.find?_cons_of_neg (by simpa using filled), List.mem_cons,
          ih (List.Pairwise.of_cons h)]
        simp [differs]

/-- Two terms of one slot are one term. -/
theorem Distinct.eq_of_slot (h : Distinct terms) {a b : Term} (ha : a ∈ terms) (hb : b ∈ terms)
    (fills : a.facet = .slot slot) (same : b.facet = .slot slot) : a = b := by
  have found := (h.find?_slot fills).mpr ha
  rw [(h.find?_slot same).mpr hb] at found
  exact (Option.some.inj found).symm

/-- Putting a term of a slot: nothing if it is there, else the slot is emptied first. -/
theorem Distinct.merge_slot (h : Distinct terms) {term : Term}
    (fills : term.facet = .slot slot) :
    merge terms term =
      if term ∈ terms then terms else terms.filter (·.facet ≠ .slot slot) ++ [term] := by
  unfold merge
  simp only [fills, h.find?_slot fills, h.eraseP_slot]

end Slots

/-! ## Putting terms -/

/-- The other term may stay when this one is put: they do not fill one slot. -/
def staysBeside (term other : Term) : Bool :=
  !(term.facet.isSlot && other.facet = term.facet)

/-- Putting a term that is not there: what fills its slot goes, and the term comes last. -/
theorem Distinct.merge_eq {terms : List Term} (h : Distinct terms) (term : Term) :
    Terms.merge terms term =
      if term ∈ terms then terms else terms.filter (staysBeside term) ++ [term] := by
  cases hfacet : term.facet with
  | field field =>
      have all_stay : staysBeside term = fun _ => true := by
        funext other
        simp [staysBeside, hfacet, Facet.isSlot]
      simp only [Terms.merge, hfacet, all_stay, List.filter_true]
  | slot slot =>
      have others_stay : staysBeside term = fun other => decide (other.facet ≠ .slot slot) := by
        funext other
        simp [staysBeside, hfacet, Facet.isSlot]
      rw [h.merge_slot hfacet, others_stay]

/-- Putting a term keeps a collection distinct. -/
theorem Distinct.merge {terms : List Term} (h : Distinct terms) (term : Term) :
    Distinct (merge terms term) := by
  cases hfacet : term.facet with
  | field field =>
      simp only [Terms.merge, hfacet]
      split
      · exact h
      · rename_i absent
        refine List.pairwise_append.mpr ⟨h, List.pairwise_singleton _ _, ?_⟩
        intro other hother last hlast
        obtain rfl : last = term := List.mem_singleton.mp hlast
        refine ⟨fun same => absent (same ▸ hother), ?_⟩
        intro isSlot same
        rw [same, hfacet] at isSlot
        exact Bool.noConfusion isSlot
  | slot slot =>
      rw [h.merge_slot hfacet]
      split
      · exact h
      · refine List.pairwise_append.mpr ⟨h.filter _, List.pairwise_singleton _ _, ?_⟩
        intro other hother last hlast
        obtain rfl : last = term := List.mem_singleton.mp hlast
        have empty : other.facet ≠ .slot slot := by simpa using List.of_mem_filter hother
        have differs : other.facet ≠ last.facet := hfacet ▸ empty
        exact ⟨fun same => differs (same ▸ rfl), fun _ => differs⟩

theorem distinct_foldl_merge (added : List Term) {terms : List Term} (h : Distinct terms) :
    Distinct (added.foldl Terms.merge terms) := by
  induction added generalizing terms with
  | nil => exact h
  | cons term rest ih => exact ih (h.merge term)

theorem distinct_mergeAll (terms : List Term) : Distinct (mergeAll terms) :=
  distinct_foldl_merge terms distinct_nil

/-- A term that may stand beside all others is put at the end. -/
theorem Distinct.merge_last {terms : List Term} {term : Term} (h : Distinct (terms ++ [term])) :
    Terms.merge terms term = terms ++ [term] := by
  have distinct : Distinct terms := (List.pairwise_append.mp h).1
  have beside := (List.pairwise_append.mp h).2.2
  have absent : term ∉ terms := fun present =>
    (beside term present term List.mem_cons_self).1 rfl
  cases hfacet : term.facet with
  | field field => simp only [Terms.merge, hfacet, if_neg absent]
  | slot slot =>
      rw [distinct.merge_slot hfacet, if_neg absent]
      congr 1
      refine List.filter_eq_self.mpr fun other hother => decide_eq_true fun filled => ?_
      have apart := (beside other hother term List.mem_cons_self).2 (by rw [filled]; rfl)
      exact apart (filled.trans hfacet.symm)

theorem Distinct.foldl_merge {terms added : List Term} (h : Distinct (terms ++ added)) :
    added.foldl Terms.merge terms = terms ++ added := by
  induction added generalizing terms with
  | nil => simp
  | cons term rest ih =>
      have split : terms ++ term :: rest = (terms ++ [term]) ++ rest := by simp
      rw [split] at h ⊢
      have first : Distinct (terms ++ [term]) := (List.pairwise_append.mp h).1
      rw [List.foldl_cons, first.merge_last, ih h]

/-- **Putting the terms of a distinct collection** one after the other makes the same collection. -/
theorem Distinct.mergeAll {terms : List Term} (h : Distinct terms) : mergeAll terms = terms :=
  Distinct.foldl_merge h

/-- Taking a term out keeps a collection distinct. -/
theorem Distinct.removeTyped {terms : List Term} (h : Distinct terms) (raw : String) :
    Distinct (removeTyped raw terms) := by
  unfold Terms.removeTyped
  split
  · unfold remove
    split
    · exact h.filter _
    · exact h.filter _
  · exact h

end Terms

/-! ## Selections -/

namespace Selection

open Terms (Distinct)

/-- What is left after an operation, whether or not it counts as a change. -/
@[simp] theorem getD_changed? (old new : List Term) : (changed? old new).getD old = new := by
  unfold changed?
  split
  · rename_i same
    rw [same]
    rfl
  · rfl

theorem eq_of_changed? {old new terms : List Term} (h : changed? old new = some terms) :
    terms = new := by
  unfold changed? at h
  split at h
  · exact absurd h (by simp)
  · exact (Option.some.inj h).symm

theorem distinct_ofTerms {directory : Directory} (added : List Term) :
    Distinct (ofTerms directory added) :=
  (Terms.distinct_mergeAll added).filter _

end Selection

end FacetSearch
