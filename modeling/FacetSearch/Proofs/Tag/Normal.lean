import FacetSearch.Tag
import FacetSearch.Proofs.Text.LowerCase

/-!
# The normal form of a tag

What comes out of normalizing is made of settled characters, which a second round would not change.
It is a normal form unless it begins with a number sign: that sign was behind a colon in the first
round, and the second one takes it off.
-/

namespace FacetSearch.Tag

open Text

/-- A character that normalizing leaves as it is. -/
structure Settled (c : Char) : Prop where
  not_colon : c ≠ ':'
  not_blank : c ≠ ' '
  not_comma : c ≠ ','
  lower : lowerCase c = [c]

/-- A tag in normal form. -/
structure Normal (tag : List Char) : Prop where
  nonempty : tag ≠ []
  short : tag.length ≤ maxLength
  unmarked : tag.head? ≠ some '#'
  settled : ∀ c ∈ tag, Settled c

theorem joint_eq_iff {c d : Char} (other : d ≠ '_') :
    joint c = d ↔ c = d ∧ d ≠ ' ' ∧ d ≠ ',' := by
  unfold joint
  split
  · rename_i apart
    constructor
    · intro joined
      exact absurd joined.symm other
    · rintro ⟨rfl, blank, comma⟩
      exact absurd apart (by simp [blank, comma])
  · rename_i kept
    rw [not_or] at kept
    constructor
    · rintro rfl
      exact ⟨rfl, kept⟩
    · exact And.left

/-- **Normalizing settles every character.** -/
theorem settled_of_normalize? {raw tag : List Char} (h : normalize? raw = some tag) :
    ∀ c ∈ tag, Settled c := by
  intro c hc
  obtain ⟨-, rfl⟩ : _ ∧ _ = tag := by simpa [normalize?] using h
  obtain ⟨joined, hjoined, lowered⟩ := List.mem_flatMap.mp (List.mem_of_mem_take hc)
  obtain ⟨kept, hkept, rfl⟩ := List.mem_map.mp hjoined
  have not_colon : kept ≠ ':' := by simpa using (List.mem_filter.mp hkept).2
  -- A separator is below `a`, so it would have been there before lower-casing.
  have before : ∀ {d}, c = d → d.toNat < 'a'.toNat → joint kept = d := by
    rintro d rfl small
    exact (eq_of_mem_lowerCase lowered small).symm
  refine ⟨?_, ?_, ?_, lowerCase_of_mem lowered⟩
  · intro colon
    exact not_colon ((joint_eq_iff (by decide)).mp (before colon (by decide))).1
  · intro blank
    exact ((joint_eq_iff (by decide)).mp (before blank (by decide))).2.1 rfl
  · intro comma
    exact ((joint_eq_iff (by decide)).mp (before comma (by decide))).2.2 rfl

/-- Settled characters are kept, one by one. -/
theorem rewritten_of_settled {tag : List Char} (settled : ∀ c ∈ tag, Settled c) :
    ((tag.filter (· ≠ ':')).map joint).flatMap lowerCase = tag := by
  induction tag with
  | nil => rfl
  | cons c rest ih =>
      have first := settled c List.mem_cons_self
      have joined : joint c = c := by simp [joint, first.not_blank, first.not_comma]
      rw [List.filter_cons_of_pos (by simpa using first.not_colon), List.map_cons,
        List.flatMap_cons, joined, first.lower,
        ih fun d hd => settled d (List.mem_cons_of_mem _ hd)]
      rfl

/-- Of settled characters, normalizing takes off the number signs in front and nothing else. -/
theorem normalize?_of_settled {tag : List Char} (short : tag.length ≤ maxLength)
    (settled : ∀ c ∈ tag, Settled c) :
    normalize? tag =
      if tag.dropWhile (· = '#') = [] then none else some (tag.dropWhile (· = '#')) := by
  have part := List.dropWhile_sublist (l := tag) (· = '#')
  have uncut := Nat.le_trans part.length_le short
  simp only [normalize?]
  rw [rewritten_of_settled fun c hc => settled c (part.subset hc), List.take_of_length_le uncut]

theorem dropWhile_eq_self_iff {tag : List Char} :
    tag.dropWhile (· = '#') = tag ↔ tag.head? ≠ some '#' := by
  cases tag with
  | nil => simp
  | cons c rest =>
      by_cases sign : c = '#'
      · have shorter := (List.dropWhile_sublist (l := rest) (· = '#')).length_le
        rw [List.dropWhile_cons_of_pos (by simpa using sign)]
        constructor
        · intro same
          rw [same, List.length_cons] at shorter
          omega
        · intro other
          exact absurd (congrArg some sign) other
      · simp [sign]

theorem ne_nil_of_normalize? {raw tag : List Char} (h : normalize? raw = some tag) : tag ≠ [] := by
  simp only [normalize?] at h
  split at h
  · cases h
  · rename_i nonempty
    exact Option.some.inj h ▸ nonempty

/-- What normalizing has made is a normal form unless it begins with a number sign. -/
theorem normal_of_normalize? {raw tag : List Char} (h : normalize? raw = some tag) :
    Normal tag ↔ tag.head? ≠ some '#' := by
  constructor
  · exact Normal.unmarked
  · intro unmarked
    exact ⟨ne_nil_of_normalize? h, length_le_of_normalize? h, unmarked, settled_of_normalize? h⟩

/-- **The normal form** is what normalizing leaves as it is. -/
theorem normalize?_eq_self_iff {tag : List Char} : normalize? tag = some tag ↔ Normal tag := by
  constructor
  · intro same
    refine (normal_of_normalize? same).mpr ?_
    rw [normalize?_of_settled (length_le_of_normalize? same) (settled_of_normalize? same)] at same
    split at same
    · cases same
    · exact dropWhile_eq_self_iff.mp (Option.some.inj same)
  · intro normal
    rw [normalize?_of_settled normal.short normal.settled,
      dropWhile_eq_self_iff.mpr normal.unmarked, if_neg normal.nonempty]

/-- Normalizing twice gives a normal form, if it gives anything. -/
theorem normal_of_normalize?_twice {raw once twice : List Char} (first : normalize? raw = some once)
    (second : normalize? once = some twice) : Normal twice := by
  rw [normal_of_normalize? second]
  rw [normalize?_of_settled (length_le_of_normalize? first) (settled_of_normalize? first)] at second
  split at second
  · cases second
  · obtain rfl := Option.some.inj second
    have stops := List.head?_dropWhile_not (fun c => decide (c = '#')) once
    intro marked
    rw [marked] at stops
    simp at stops

end FacetSearch.Tag
