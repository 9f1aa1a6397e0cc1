/-!
# Cutting text

Ways to take a text apart at a mark. Each is a structural recursion and comes with the law that
nothing is lost: the parts and the mark, put together again, are the text.
-/

namespace FacetSearch.Text

/-- Cuts at the first `mark`: the text before it and the text after it. -/
def cutAt (mark : Char) : List Char → Option (List Char × List Char)
  | [] => none
  | c :: rest =>
    if c = mark then some ([], rest)
    else (cutAt mark rest).map fun parts => (c :: parts.1, parts.2)

/-- Cuts at the last place where `a` is followed at once by `b`. -/
def cutAtLast (a b : Char) : List Char → Option (List Char × List Char)
  | [] => none
  | c :: rest =>
    match cutAtLast a b rest with
    | some (before, after) => some (c :: before, after)
    | none => if c = a ∧ rest.head? = some b then some ([], rest.tail) else none

/-- The text without `tail` at its end, if it ends so. -/
def dropEnd? (tail text : List Char) : Option (List Char) :=
  if tail.isSuffixOf text then some (text.take (text.length - tail.length)) else none

/-! ## Nothing is lost -/

/-- The run of one character that a text begins with. -/
theorem takeWhile_eq_replicate (mark : Char) (text : List Char) :
    text.takeWhile (· = mark) = List.replicate (text.takeWhile (· = mark)).length mark := by
  refine List.eq_replicate_of_mem fun c hc => ?_
  simpa using List.all_eq_true.mp List.all_takeWhile c hc

theorem eq_append_of_cutAt {mark : Char} {text before after : List Char}
    (h : cutAt mark text = some (before, after)) :
    text = before ++ mark :: after ∧ mark ∉ before := by
  induction text generalizing before with
  | nil => simp [cutAt] at h
  | cons c rest ih =>
    by_cases hc : c = mark
    · simp [cutAt, hc] at h
      obtain ⟨rfl, rfl⟩ := h
      simp [hc]
    · simp [cutAt, hc] at h
      obtain ⟨b, hb, rfl⟩ := h
      obtain ⟨h₁, h₂⟩ := ih hb
      exact ⟨by simp [h₁], by simp [h₂, Ne.symm hc]⟩

theorem cutAt_append {mark : Char} {before : List Char} (after : List Char)
    (h : mark ∉ before) : cutAt mark (before ++ mark :: after) = some (before, after) := by
  induction before with
  | nil => simp [cutAt]
  | cons c rest ih =>
    simp only [List.mem_cons, not_or] at h
    simp [cutAt, Ne.symm h.1, ih h.2]

theorem cutAt_eq_none {mark : Char} {text : List Char} : cutAt mark text = none ↔ mark ∉ text := by
  induction text with
  | nil => simp [cutAt]
  | cons c rest ih => by_cases hc : c = mark <;> simp [cutAt, hc, ih, Ne.symm]

theorem eq_append_of_cutAtLast {a b : Char} {text before after : List Char}
    (h : cutAtLast a b text = some (before, after)) : text = before ++ a :: b :: after := by
  induction text generalizing before with
  | nil => simp [cutAtLast] at h
  | cons c rest ih =>
    unfold cutAtLast at h
    split at h
    · rename_i h'
      simp only [Option.some.injEq, Prod.mk.injEq] at h
      obtain ⟨rfl, rfl⟩ := h
      simp [ih h']
    · split at h
      · rename_i hc
        obtain ⟨rfl, hb⟩ := hc
        cases rest with
        | nil => simp at hb
        | cons d r => simp_all
      · simp at h

theorem eq_append_of_dropEnd? {tail text rest : List Char} (h : dropEnd? tail text = some rest) :
    text = rest ++ tail := by
  unfold dropEnd? at h
  split at h
  · rename_i ends
    obtain ⟨before, rfl⟩ := List.isSuffixOf_iff_suffix.mp ends
    simpa using h
  · cases h

theorem dropEnd?_append (text tail : List Char) : dropEnd? tail (text ++ tail) = some text := by
  unfold dropEnd?
  rw [if_pos (List.isSuffixOf_iff_suffix.mpr (List.suffix_append text tail))]
  simp

/-! ## The last place -/

theorem pair_prefix_cons {a b c : Char} {rest : List Char} :
    [a, b] <+: c :: rest ↔ c = a ∧ rest.head? = some b := by
  rw [List.cons_prefix_cons, eq_comm]
  cases rest with
  | nil => simp
  | cons d r => simp [eq_comm]

theorem cutAtLast_eq_none {a b : Char} {text : List Char} :
    cutAtLast a b text = none ↔ ¬ [a, b] <:+: text := by
  induction text with
  | nil => simp [cutAtLast]
  | cons c rest ih =>
    rw [List.infix_cons_iff, not_or, pair_prefix_cons, ← ih, cutAtLast]
    cases later : cutAtLast a b rest with
    | none => simp
    | some parts => simp

/-- Behind the last place there is no other. -/
theorem not_infix_of_cutAtLast {a b : Char} {text before after : List Char}
    (h : cutAtLast a b text = some (before, after)) : ¬ [a, b] <:+: after := by
  induction text generalizing before with
  | nil => simp [cutAtLast] at h
  | cons c rest ih =>
    unfold cutAtLast at h
    split at h
    · rename_i later
      simp only [Option.some.injEq, Prod.mk.injEq] at h
      exact ih (h.2 ▸ later)
    · rename_i none_later
      split at h
      · simp only [Option.some.injEq, Prod.mk.injEq] at h
        rw [← h.2]
        intro found
        exact cutAtLast_eq_none.mp none_later (found.trans (List.tail_suffix rest).isInfix)
      · cases h

theorem cutAtLast_append {a b : Char} {after : List Char} (before : List Char) (differ : a ≠ b)
    (h : ¬ [a, b] <:+: after) : cutAtLast a b (before ++ a :: b :: after) = some (before, after) := by
  induction before with
  | nil =>
    have none_later : cutAtLast a b (b :: after) = none := by
      rw [cutAtLast_eq_none, List.infix_cons_iff, pair_prefix_cons]
      simp [differ.symm, h]
    rw [List.nil_append, cutAtLast, none_later]
    simp
  | cons c rest ih => rw [List.cons_append, cutAtLast, ih]

end FacetSearch.Text
