import FacetSearch.Text.Cut
import FacetSearch.Proofs.Tag.Normal

/-!
# Normalizing a tag again

The number signs in front are taken off before the colons are dropped. So a number sign that only
colons keep apart from the front is still there after the first round, and now it is in front. The
second round takes it off. These tags aside, a second round changes nothing; and none is changed by a
third.
-/

namespace FacetSearch.Tag

open Text

/-- Behind the number signs in front stand colons, and right behind these a number sign again. -/
def SignBehindColons (raw : List Char) : Prop :=
  ∃ signs colons rest, 0 < colons ∧
    raw = List.replicate signs '#' ++ List.replicate colons ':' ++ '#' :: rest

/-! ## The front of a tag -/

theorem head?_lowered (c : Char) (rest : List Char) :
    ((((c :: rest).map joint).flatMap lowerCase).take maxLength).head? =
      (lowerCase (joint c)).head? := by
  have some_char := lowerCase_ne_nil (joint c)
  rw [List.head?_take, if_neg (by decide), List.map_cons, List.flatMap_cons,
    List.head?_append, Option.or_of_isSome (List.isSome_head?.mpr some_char)]

/-- A tag begins with a number sign exactly when what is kept of the text does. -/
theorem head?_of_normalize? {raw tag : List Char} (h : normalize? raw = some tag) :
    tag.head? = some '#' ↔ ((raw.dropWhile (· = '#')).filter (· ≠ ':')).head? = some '#' := by
  simp only [normalize?] at h
  generalize (raw.dropWhile (· = '#')).filter (· ≠ ':') = kept at *
  obtain ⟨-, same⟩ := Option.ite_none_left_eq_some.mp h
  obtain rfl := Option.some.inj same
  cases kept with
  | nil => simp
  | cons c rest =>
      rw [head?_lowered]
      constructor
      · intro sign
        have lowered := List.mem_of_mem_head? (Option.mem_def.mpr sign)
        have joined := (eq_of_mem_lowerCase lowered (by decide)).symm
        exact congrArg some ((joint_eq_iff (by decide)).mp joined).1
      · intro sign
        obtain rfl : c = '#' := Option.some.inj sign
        decide +kernel

/-- A number sign comes to the front when the colons in front of it are dropped. -/
theorem head?_filter_colons {text : List Char} :
    (text.filter (· ≠ ':')).head? = some '#' ↔
      ∃ colons rest, text = List.replicate colons ':' ++ '#' :: rest := by
  rw [List.head?_filter, List.find?_eq_some_iff_append]
  constructor
  · rintro ⟨-, dropped, rest, rfl, colons⟩
    have all : ∀ c ∈ dropped, c = ':' := by simpa using colons
    exact ⟨dropped.length, rest, by rw [← List.eq_replicate_of_mem all]⟩
  · rintro ⟨colons, rest, rfl⟩
    exact ⟨by decide, _, rest, rfl, by simp⟩

theorem signBehindColons_iff {raw : List Char} :
    SignBehindColons raw ↔ ((raw.dropWhile (· = '#')).filter (· ≠ ':')).head? = some '#' := by
  rw [head?_filter_colons]
  constructor
  · rintro ⟨signs, colons, rest, pos, rfl⟩
    refine ⟨colons, rest, ?_⟩
    obtain ⟨n, rfl⟩ := Nat.exists_eq_add_of_lt pos
    rw [List.append_assoc, List.dropWhile_append_of_pos (by simp)]
    simp [List.replicate_succ]
  · rintro ⟨colons, rest, behind⟩
    refine ⟨(raw.takeWhile (· = '#')).length, colons, rest, ?_, ?_⟩
    · -- Without a colon the sign would be one of those in front.
      have stops := List.head?_dropWhile_not (fun c => decide (c = '#')) raw
      rw [behind] at stops
      cases colons with
      | zero => simp at stops
      | succ n => exact Nat.succ_pos n
    · rw [List.append_assoc, ← behind, ← takeWhile_eq_replicate, List.takeWhile_append_dropWhile]

/-! ## The second round -/

/-- **Normalizing again.** A second round leaves a tag as it is unless the text has a number sign
behind colons. Then it takes the number signs off the front of the tag, and nothing is left of a tag
that has nothing else. What is left by it, a third round leaves as it is. -/
theorem normalize?_normalize? {raw tag : List Char} (h : normalize? raw = some tag) :
    (normalize? tag = some tag ↔ ¬ SignBehindColons raw) ∧
    (normalize? tag =
      if tag.dropWhile (· = '#') = [] then none else some (tag.dropWhile (· = '#'))) ∧
    ∀ again, normalize? tag = some again → normalize? again = some again := by
  refine ⟨?_, ?_, ?_⟩
  · rw [normalize?_eq_self_iff, normal_of_normalize? h, ne_eq, head?_of_normalize? h,
      signBehindColons_iff]
  · exact normalize?_of_settled (length_le_of_normalize? h) (settled_of_normalize? h)
  · intro again second
    exact normalize?_eq_self_iff.mpr (normal_of_normalize?_twice h second)

/-- A tag that keeps its number sign behind a letter, one that loses it in the second round, and one
that is nothing but number signs by then. -/
theorem normalize?_normalize?_signs :
    (normalize? "##W:#o, R".toList = some "w#o__r".toList ∧
      normalize? "w#o__r".toList = some "w#o__r".toList) ∧
    (normalize? "#::#W o".toList = some "#w_o".toList ∧
      normalize? "#w_o".toList = some "w_o".toList ∧ normalize? "w_o".toList = some "w_o".toList) ∧
    normalize? ":##".toList = some "##".toList ∧ normalize? "##".toList = none := by
  have inside : normalize? "##W:#o, R".toList = some "w#o__r".toList := by decide +kernel
  have behind : normalize? "#::#W o".toList = some "#w_o".toList := by decide +kernel
  have alone : normalize? ":##".toList = some "##".toList := by decide +kernel
  have apart : ¬ SignBehindColons "##W:#o, R".toList := by
    rw [signBehindColons_iff]
    decide
  obtain ⟨again, -, -⟩ := normalize?_normalize? inside
  obtain ⟨-, bare, third⟩ := normalize?_normalize? behind
  obtain ⟨-, nothing, -⟩ := normalize?_normalize? alone
  have second : normalize? "#w_o".toList = some "w_o".toList := bare
  exact ⟨⟨inside, again.mpr apart⟩, ⟨behind, second, third _ second⟩, alone, nothing⟩

/-- To normalize once is to normalize for good. -/
def NormalizesForGood : Prop :=
  ∀ raw tag, normalize? raw = some tag → normalize? tag = some tag

/-- **Once is not for good**: a colon hides a number sign from the first round. -/
theorem colon_sign_not_normalizesForGood :
    normalize? ":#a".toList = some "#a".toList ∧ normalize? "#a".toList = some "a".toList ∧
      ¬ NormalizesForGood := by
  have once : normalize? ":#a".toList = some "#a".toList := by decide +kernel
  have twice : normalize? "#a".toList = some "a".toList := by decide +kernel
  refine ⟨once, twice, ?_⟩
  intro law
  have same := law _ _ once
  rw [twice] at same
  exact absurd same (by decide)

end FacetSearch.Tag
