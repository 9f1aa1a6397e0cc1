import FacetSearch.Proofs.Selection.Distinct

/-!
# What a slot holds

The value of a slot is a matter of the terms of that slot alone. Putting or taking out a term of
another facet, and dropping the journals that a directory does not know, leave it as it is.
-/

namespace FacetSearch

namespace Terms

/-- A slot holds the value of its first term. -/
theorem slotValue?_cons (slot : Slot) (term : Term) (terms : List Term) :
    slotValue? slot (term :: terms) =
      if term.facet = .slot slot then term.value? else slotValue? slot terms := by
  unfold slotValue?
  by_cases fills : term.facet = .slot slot <;> simp [fills]

/-- What a slot holds does not depend on where its term stands. -/
theorem Distinct.slotValue?_perm {terms other : List Term} (h : Distinct terms)
    (perm : terms.Perm other) (slot : Slot) : slotValue? slot terms = slotValue? slot other := by
  have same : terms.find? (·.facet = .slot slot) = other.find? (·.facet = .slot slot) := by
    ext term
    constructor
    · intro found
      have fills : term.facet = .slot slot := by simpa using List.find?_some found
      rw [(h.perm perm).find?_slot fills, ← perm.mem_iff]
      exact List.mem_of_find?_eq_some found
    · intro found
      have fills : term.facet = .slot slot := by simpa using List.find?_some found
      rw [h.find?_slot fills, perm.mem_iff]
      exact List.mem_of_find?_eq_some found
  unfold slotValue?
  rw [same]

section OtherFacets

variable {terms : List Term} {slot : Slot} {term : Term}

/-- Whatever is taken out, a slot whose terms all stay keeps its value. -/
theorem slotValue?_filter {p : Term → Bool} (keeps : ∀ other, other.facet = .slot slot → p other) :
    slotValue? slot (terms.filter p) = slotValue? slot terms := by
  have same : (fun other => p other && decide (other.facet = .slot slot)) =
      fun other : Term => decide (other.facet = .slot slot) := by
    funext other
    by_cases filled : other.facet = .slot slot <;> simp [filled, keeps]
  unfold slotValue?
  rw [List.find?_filter]
  simp only [Bool.decide_and, Bool.decide_eq_true]
  rw [same]

theorem slotValue?_append_singleton (other : term.facet ≠ .slot slot) :
    slotValue? slot (terms ++ [term]) = slotValue? slot terms := by
  unfold slotValue?
  rw [List.find?_append, List.find?_cons_of_neg (by simpa using other), List.find?_nil,
    Option.or_none]

/-- Putting a term of another facet leaves the value of a slot as it is. -/
theorem slotValue?_merge (h : Distinct terms) (other : term.facet ≠ .slot slot) :
    slotValue? slot (merge terms term) = slotValue? slot terms := by
  cases hfacet : term.facet with
  | field field =>
      simp only [merge, hfacet]
      split
      · rfl
      · exact slotValue?_append_singleton other
  | slot filled =>
      rw [h.merge_slot hfacet]
      split
      · rfl
      · rw [slotValue?_append_singleton other]
        refine slotValue?_filter fun kept hkept => ?_
        have differs : kept.facet ≠ .slot filled := by
          rw [hkept, ← hfacet]
          exact Ne.symm other
        simpa using differs

/-- Taking out a term of another facet leaves the value of a slot as it is. -/
theorem slotValue?_remove (other : term.facet ≠ .slot slot) :
    slotValue? slot (remove term.facet term terms) = slotValue? slot terms := by
  unfold remove
  split
  · refine slotValue?_filter fun kept hkept => ?_
    have differs : kept ≠ term := fun same => other (same ▸ hkept)
    simpa using differs
  · refine slotValue?_filter fun kept hkept => ?_
    have differs : kept.facet ≠ term.facet := by
      rw [hkept]
      exact Ne.symm other
    simpa using differs

/-- Taking out the term of a slot empties the slot. -/
theorem slotValue?_remove_self (fills : term.facet = .slot slot) :
    slotValue? slot (remove term.facet term terms) = none := by
  have emptied : ∀ other ∈ remove term.facet term terms, other.facet ≠ .slot slot := by
    intro other hother
    simp only [remove, fills] at hother
    simpa using List.of_mem_filter hother
  unfold slotValue?
  rw [List.find?_eq_none.mpr (by simpa using emptied)]
  rfl

end OtherFacets

end Terms

namespace Selection

open Terms (Distinct slotValue?)

variable {directory : Directory} {terms after : List Term} {slot : Slot} {raw : String}

/-- A directory has no say in slots. -/
theorem slotValue?_known : slotValue? slot (known directory terms) = slotValue? slot terms := by
  refine Terms.slotValue?_filter fun kept hkept => ?_
  cases kept <;> simp_all [Term.facet, Directory.admits]

/-- Putting a typed term of another facet leaves the value of a slot as it is. -/
theorem slotValue?_of_add? (h : Distinct terms) (added : add? directory raw terms = some after)
    (other : (Term.parse? raw).map Term.facet ≠ some (.slot slot)) :
    slotValue? slot after = slotValue? slot terms := by
  obtain ⟨term, parsed, merged⟩ := Option.bind_eq_some_iff.mp added
  have differs : term.facet ≠ .slot slot := by simpa [parsed] using other
  rw [eq_of_changed? merged, slotValue?_known, Terms.slotValue?_merge h differs]

/-- Taking out a typed term empties its slot, if it has one, and leaves other slots as they are. -/
theorem slotValue?_of_remove? (removed : remove? directory raw terms = some after) :
    slotValue? slot after =
      if (Term.parse? raw).map Term.facet = some (.slot slot) then none
      else slotValue? slot terms := by
  rw [eq_of_changed? removed, slotValue?_known]
  unfold Terms.removeTyped
  cases parsed : Term.parse? raw with
  | none => simp
  | some term =>
      by_cases fills : term.facet = .slot slot
      · simpa [fills] using Terms.slotValue?_remove_self fills
      · simpa [fills] using Terms.slotValue?_remove fills

end Selection

end FacetSearch
