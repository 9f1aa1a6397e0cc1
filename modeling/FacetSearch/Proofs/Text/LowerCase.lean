import FacetSearch.Text.LowerCase

/-!
# Lower case is settled

The lower case of a character is made of characters that are their own lower case, so a text in lower
case stays as it is. And no character below `a` comes out of another one: what separates the parts of
a typed text is not made by lower-casing.

The table has well over a thousand characters, so nothing here goes through them one by one. Two runs
are compared by their ends and, where both take every second place, by whether those places are odd.
-/

namespace FacetSearch.Text

namespace CaseRun

/-- The last lower case of a run. -/
def reach (run : CaseRun) : Nat := run.lower + (run.last - run.first)

-- The table is checked by the kernel, which computes `Nat.blt` and `Nat.beq` at once.
/-- No lower case of a character of `a` is a character of `b`. -/
def apart (a b : CaseRun) : Bool :=
  a.reach.blt b.first || b.last.blt a.lower ||
    ((a.step.beq 2 || a.first.beq a.last) && b.step.beq 2 && ((a.lower + b.first) % 2).beq 1)

/-- The lower cases are letters from `a` on, and code points of characters. -/
def InRange (run : CaseRun) : Prop :=
  'a'.toNat ≤ run.lower ∧
    (run.reach < 0xD800 ∨ 0xDFFF < run.lower ∧ run.reach < 0x110000)

instance (run : CaseRun) : Decidable run.InRange :=
  inferInstanceAs (Decidable (_ ∧ _))

/-- The run of `İ` alone, which stands outside the table. -/
def dotted : CaseRun := ⟨0x130, 0x130, 1, 0x69⟩

theorem lower?_eq_some {run : CaseRun} {n lower : Nat} (h : run.lower? n = some lower) :
    run.first ≤ n ∧ n ≤ run.last ∧ (n - run.first) % run.step = 0 ∧
      lower = run.lower + (n - run.first) := by
  unfold lower? at h
  split at h
  · rename_i within
    exact ⟨within.1, within.2.1, within.2.2, (Option.some.inj h).symm⟩
  · cases h

theorem lower?_eq_none_of_apart {a b : CaseRun} (h : a.apart b) {n lower : Nat}
    (lowered : a.lower? n = some lower) : b.lower? lower = none := by
  obtain ⟨above, below, places, rfl⟩ := lower?_eq_some lowered
  have cases : a.reach < b.first ∨ b.last < a.lower ∨
      (a.step = 2 ∨ a.first = a.last) ∧ b.step = 2 ∧ (a.lower + b.first) % 2 = 1 := by
    simpa [apart, and_assoc, or_assoc] using h
  unfold lower?
  refine if_neg ?_
  rintro ⟨from_first, to_last, even⟩
  unfold reach at cases
  rcases cases with before | behind | ⟨steps | alone, steps', odd⟩
  · omega
  · omega
  · rw [steps] at places
    rw [steps'] at even
    omega
  · rw [steps'] at even
    omega

end CaseRun

/-! ## The table -/

theorem apart_caseRuns :
    (caseRuns.all fun a => (CaseRun.dotted :: caseRuns).all a.apart) = true := by
  decide +kernel

theorem CaseRun.apart_of_mem {a b : CaseRun} (ha : a ∈ caseRuns)
    (hb : b ∈ CaseRun.dotted :: caseRuns) : a.apart b :=
  List.all_eq_true.mp (List.all_eq_true.mp apart_caseRuns a ha) b hb

theorem inRange_caseRuns : ∀ run ∈ caseRuns, run.InRange := by
  decide +kernel

theorem toNat_ofNat_lower {run : CaseRun} (listed : run ∈ caseRuns) {n lower : Nat}
    (h : run.lower? n = some lower) : 'a'.toNat ≤ lower ∧ (Char.ofNat lower).toNat = lower := by
  obtain ⟨above, below, -, rfl⟩ := CaseRun.lower?_eq_some h
  obtain ⟨letters, valid⟩ := inRange_caseRuns run listed
  unfold CaseRun.reach at valid
  refine ⟨by omega, ?_⟩
  rw [Char.ofNat, dif_pos (show Nat.isValidChar _ from ?_)]
  · rfl
  · unfold Nat.isValidChar
    omega

/-- How a character got into the lower case of another: it is one of the two of `İ`, it comes from
the table, or it was there before. -/
theorem mem_lowerCase {c d : Char} (h : d ∈ lowerCase c) :
    (d = 'i' ∨ d = '\u0307') ∨
      (∃ run ∈ caseRuns, ∃ lower, run.lower? c.toNat = some lower ∧ d = Char.ofNat lower) ∨
      (d = c ∧ lowerCase c = [c]) := by
  unfold lowerCase at h ⊢
  split at h
  · exact Or.inl (by simpa using h)
  · rename_i plain
    rw [if_neg plain]
    split at h
    · rename_i lower found
      obtain ⟨run, listed, lowered⟩ := List.exists_of_findSome?_eq_some found
      exact Or.inr (Or.inl ⟨run, listed, lower, lowered, List.mem_singleton.mp h⟩)
    · exact Or.inr (Or.inr ⟨List.mem_singleton.mp h, rfl⟩)

/-- Nothing is lost in lower case. -/
theorem lowerCase_ne_nil (c : Char) : lowerCase c ≠ [] := by
  unfold lowerCase
  split
  · exact List.cons_ne_nil _ _
  · split <;> exact List.cons_ne_nil _ _

/-- **Lower case is settled**: what a character is written with in lower case is in lower case. -/
theorem lowerCase_of_mem {c d : Char} (h : d ∈ lowerCase c) : lowerCase d = [d] := by
  rcases mem_lowerCase h with (rfl | rfl) | ⟨run, listed, lower, lowered, rfl⟩ | ⟨rfl, same⟩
  · decide +kernel
  · decide +kernel
  · have code := (toNat_ofNat_lower listed lowered).2
    have undotted : Char.ofNat lower ≠ '\u0130' := by
      intro dotted
      have outside := CaseRun.lower?_eq_none_of_apart
        (CaseRun.apart_of_mem listed List.mem_cons_self) lowered
      rw [← code, dotted] at outside
      exact absurd outside (by decide)
    have unlisted : caseRuns.findSome? (·.lower? (Char.ofNat lower).toNat) = none := by
      rw [List.findSome?_eq_none_iff, code]
      intro other hother
      exact CaseRun.lower?_eq_none_of_apart
        (CaseRun.apart_of_mem listed (List.mem_cons_of_mem _ hother)) lowered
    rw [lowerCase, if_neg undotted, unlisted]
  · exact same

/-- **Only letters are made**: a character below `a` is in the lower case of no other. -/
theorem eq_of_mem_lowerCase {c d : Char} (h : d ∈ lowerCase c) (small : d.toNat < 'a'.toNat) :
    d = c := by
  rcases mem_lowerCase h with (rfl | rfl) | ⟨run, listed, lower, lowered, rfl⟩ | ⟨rfl, -⟩
  · exact absurd small (by decide)
  · exact absurd small (by decide)
  · obtain ⟨letter, code⟩ := toNat_ofNat_lower listed lowered
    omega
  · rfl

end FacetSearch.Text
