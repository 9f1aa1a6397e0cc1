import FacetSearch.Proofs.Term.Value
import FacetSearch.Proofs.Text.Digits
import FacetSearch.Query

/-!
# The formats of cursors

A cursor is a date if it is written as one, and an identifier if it is written as one of a document:
five groups of hexadecimal digits, of which the third begins with the version and the fourth with
the variant. What is told from the bytes of the identifier can be told from these two digits.
-/

namespace FacetSearch

open Text

namespace Identifier

/-- The identifier that five groups of digits write. -/
inductive Written : List Char → Identifier → Prop
  | groups {a b c d e : List Char} {low middle high clock node : Nat}
      (ha : hexadecimal? 8 a = some low) (hb : hexadecimal? 4 b = some middle)
      (hc : hexadecimal? 4 c = some high) (hd : hexadecimal? 4 d = some clock)
      (he : hexadecimal? 12 e = some node) :
      Written (a ++ '-' :: (b ++ '-' :: (c ++ '-' :: (d ++ '-' :: e))))
        ⟨.ofNat low, .ofNat middle, .ofNat high, .ofNat clock, .ofNat 48 node⟩

theorem hexDigits_of_hexadecimal? {count n : Nat} {digits : List Char}
    (h : hexadecimal? count digits = some n) : HexDigits count digits :=
  isSome_hexadecimal?.mp (by rw [h]; rfl)

theorem hyphen_not_mem {count n : Nat} {digits : List Char}
    (h : hexadecimal? count digits = some n) : '-' ∉ digits := by
  intro hyphen
  exact absurd ((hexDigits_of_hexadecimal? h).2 '-' hyphen) (by decide)

/-- **The identifiers that are read** are those that are written so. -/
theorem ofChars?_eq_some {text : List Char} {identifier : Identifier} :
    ofChars? text = some identifier ↔ Written text identifier := by
  constructor
  · intro read
    obtain ⟨⟨a, behind⟩, cut, read⟩ := Option.bind_eq_some_iff.mp read
    rw [(eq_append_of_cutAt cut).1]
    obtain ⟨⟨b, behind'⟩, cut, read⟩ := Option.bind_eq_some_iff.mp read
    rw [(eq_append_of_cutAt cut).1]
    obtain ⟨⟨c, behind⟩, cut, read⟩ := Option.bind_eq_some_iff.mp read
    rw [(eq_append_of_cutAt cut).1]
    obtain ⟨⟨d, e⟩, cut, read⟩ := Option.bind_eq_some_iff.mp read
    rw [(eq_append_of_cutAt cut).1]
    obtain ⟨low, ha, read⟩ := Option.bind_eq_some_iff.mp read
    obtain ⟨middle, hb, read⟩ := Option.bind_eq_some_iff.mp read
    obtain ⟨high, hc, read⟩ := Option.bind_eq_some_iff.mp read
    obtain ⟨clock, hd, read⟩ := Option.bind_eq_some_iff.mp read
    obtain ⟨node, he, read⟩ := Option.bind_eq_some_iff.mp read
    obtain rfl := Option.some.inj read
    exact .groups ha hb hc hd he
  · rintro ⟨ha, hb, hc, hd, he⟩
    simp [ofChars?, cutAt_append _ (hyphen_not_mem ha), cutAt_append _ (hyphen_not_mem hb),
      cutAt_append _ (hyphen_not_mem hc), cutAt_append _ (hyphen_not_mem hd), ha, hb, hc, hd, he]

/-- Groups of 8, 4, 4, 4 and 12 hexadecimal digits, with hyphens between them. -/
inductive Hyphenated : List Char → Prop
  | groups {a b c d e : List Char} (ha : HexDigits 8 a) (hb : HexDigits 4 b) (hc : HexDigits 4 c)
      (hd : HexDigits 4 d) (he : HexDigits 12 e) :
      Hyphenated (a ++ '-' :: (b ++ '-' :: (c ++ '-' :: (d ++ '-' :: e))))

theorem exists_written {text : List Char} :
    (∃ identifier, Written text identifier) ↔ Hyphenated text := by
  constructor
  · rintro ⟨-, ha, hb, hc, hd, he⟩
    exact .groups (hexDigits_of_hexadecimal? ha) (hexDigits_of_hexadecimal? hb)
      (hexDigits_of_hexadecimal? hc) (hexDigits_of_hexadecimal? hd) (hexDigits_of_hexadecimal? he)
  · rintro ⟨ha, hb, hc, hd, he⟩
    obtain ⟨low, ha⟩ := Option.isSome_iff_exists.mp (isSome_hexadecimal?.mpr ha)
    obtain ⟨middle, hb⟩ := Option.isSome_iff_exists.mp (isSome_hexadecimal?.mpr hb)
    obtain ⟨high, hc⟩ := Option.isSome_iff_exists.mp (isSome_hexadecimal?.mpr hc)
    obtain ⟨clock, hd⟩ := Option.isSome_iff_exists.mp (isSome_hexadecimal?.mpr hd)
    obtain ⟨node, he⟩ := Option.isSome_iff_exists.mp (isSome_hexadecimal?.mpr he)
    exact ⟨_, .groups ha hb hc hd he⟩

theorem Hyphenated.length {text : List Char} (h : Hyphenated text) : text.length = 36 := by
  obtain ⟨ha, hb, hc, hd, he⟩ := h
  simp [ha.1, hb.1, hc.1, hd.1, he.1]

/-- The hyphens and digits of an identifier take a byte each. -/
theorem Hyphenated.utf8Size {text : List Char} (h : Hyphenated text) :
    ∀ c ∈ text, c.utf8Size = 1 := by
  obtain ⟨ha, hb, hc, hd, he⟩ := h
  simp only [List.forall_mem_append, List.forall_mem_cons]
  exact ⟨ha.utf8Size, rfl, hb.utf8Size, rfl, hc.utf8Size, rfl, hd.utf8Size, rfl, he.utf8Size⟩

theorem Hyphenated.utf8ByteSize {text : String} (h : Hyphenated text.toList) :
    text.utf8ByteSize = 36 := by
  rw [← String.ofList_toList (s := text), utf8ByteSize_ofList h.utf8Size, h.length]

/-- The version is in the upper four bits of its word. -/
theorem toNat_version (identifier : Identifier) :
    identifier.version.toNat = identifier.high.toNat / 2 ^ 12 := by
  have word := identifier.high.toNat_lt
  have bits : identifier.version.toNat = identifier.high.toNat / 2 ^ 8 % 2 ^ 8 / 2 ^ 4 := by
    simp [version, Nat.shiftRight_eq_div_pow]
  omega

/-- The variant is in the upper two bits of its word. -/
theorem toNat_variant (identifier : Identifier) :
    identifier.variant.toNat = identifier.clock.toNat / 2 ^ 14 := by
  have word := identifier.clock.toNat_lt
  have bits : identifier.variant.toNat = identifier.clock.toNat / 2 ^ 8 % 2 ^ 8 / 2 ^ 6 := by
    simp [variant, Nat.shiftRight_eq_div_pow]
  omega

/-- The version is the digit that the third group begins with. -/
theorem Written.version {text : List Char} {identifier : Identifier} (h : Written text identifier) :
    ∃ c d, text[14]? = some c ∧ hexDigit? c = some d ∧ identifier.version.toNat = d := by
  obtain ⟨ha, hb, hc, hd, he⟩ := h
  obtain ⟨first, rest, d, rfl, digit, value⟩ := exists_first_of_hexadecimal? hc
  have small := hexDigit?_lt digit
  refine ⟨first, d, ?_, digit, ?_⟩
  · simp [List.getElem?_append, (hexDigits_of_hexadecimal? ha).1, (hexDigits_of_hexadecimal? hb).1]
  · rw [toNat_version, UInt16.toNat_ofNat']
    omega

/-- The variant is the upper half of the digit that the fourth group begins with. -/
theorem Written.variant {text : List Char} {identifier : Identifier} (h : Written text identifier) :
    ∃ c d, text[19]? = some c ∧ hexDigit? c = some d ∧ identifier.variant.toNat = d / 4 := by
  obtain ⟨ha, hb, hc, hd, he⟩ := h
  obtain ⟨first, rest, d, rfl, digit, value⟩ := exists_first_of_hexadecimal? hd
  have small := hexDigit?_lt digit
  refine ⟨first, d, ?_, digit, ?_⟩
  · simp [List.getElem?_append, (hexDigits_of_hexadecimal? ha).1,
      (hexDigits_of_hexadecimal? hb).1, (hexDigits_of_hexadecimal? hc).1]
  · rw [toNat_variant, UInt16.toNat_ofNat']
    omega

/-- The digits of the versions from 1 to 5. -/
def versions : List Char := "12345".toList

/-- The digits whose upper bits are those of the variant. -/
def variants : List Char := "89abAB".toList

theorem mem_versions_iff {c : Char} {d : Nat} (h : hexDigit? c = some d) :
    c ∈ versions ↔ 1 ≤ d ∧ d ≤ 5 := by
  have table : hexDigits.all fun c =>
      (hexDigit? c).all fun d => c ∈ versions ↔ 1 ≤ d ∧ d ≤ 5 := by decide
  exact of_hexDigits table h

theorem mem_variants_iff {c : Char} {d : Nat} (h : hexDigit? c = some d) :
    c ∈ variants ↔ d / 4 = 2 := by
  have table : hexDigits.all fun c =>
      (hexDigit? c).all fun d => c ∈ variants ↔ d / 4 = 2 := by decide
  exact of_hexDigits table h

/-- How the identifiers of documents are written. The fifteenth character tells the version and the
twentieth the variant. -/
structure Proper (text : List Char) : Prop where
  hyphenated : Hyphenated text
  version : ∃ c ∈ text[14]?, c ∈ versions
  variant : ∃ c ∈ text[19]?, c ∈ variants

theorem Written.proper_iff {text : List Char} {identifier : Identifier}
    (h : Written text identifier) :
    Proper text ↔
      (1 ≤ identifier.version.toNat ∧ identifier.version.toNat ≤ 5) ∧
        identifier.variant.toNat = 2 := by
  obtain ⟨c, d, there, digit, version⟩ := h.version
  obtain ⟨c', d', there', digit', variant⟩ := h.variant
  rw [version, variant, ← mem_versions_iff digit, ← mem_variants_iff digit']
  constructor
  · rintro ⟨-, ⟨first, found, proper⟩, first', found', proper'⟩
    obtain rfl := Option.some.inj (there.symm.trans found)
    obtain rfl := Option.some.inj (there'.symm.trans found')
    exact ⟨proper, proper'⟩
  · rintro ⟨proper, proper'⟩
    exact ⟨exists_written.mp ⟨identifier, h⟩, ⟨c, there, proper⟩, c', there', proper'⟩

end Identifier

namespace CursorFormat

/-- **Identifiers are known by their spelling.** -/
theorem isIdentifier_iff {text : String} :
    isIdentifier text = true ↔ Identifier.Proper text.toList := by
  unfold isIdentifier
  rw [Bool.and_eq_true, decide_eq_true_iff, Option.any_eq_true]
  constructor
  · rintro ⟨-, identifier, read, bytes⟩
    refine (Identifier.ofChars?_eq_some.mp read).proper_iff.mpr ?_
    simpa [UInt8.le_iff_toNat_le, ← UInt8.toNat_inj] using bytes
  · intro proper
    obtain ⟨identifier, written⟩ := Identifier.exists_written.mpr proper.hyphenated
    refine ⟨proper.hyphenated.utf8ByteSize, identifier,
      Identifier.ofChars?_eq_some.mpr written, ?_⟩
    simpa [UInt8.le_iff_toNat_le, ← UInt8.toNat_inj] using written.proper_iff.mp proper

/-- An identifier is longer than a date. -/
theorem not_proper_of_shaped {text : List Char} (shaped : Period.Shaped text) :
    ¬ Identifier.Proper text := by
  intro proper
  have length := proper.hyphenated.length
  rcases shaped.length_cases with size | size | size <;> omega

theorem ofText_of_shaped {text : String} (shaped : Period.Shaped text.toList) :
    ofText text = .date :=
  if_pos (Period.isSome_ofChars?.mpr shaped)

theorem ofText_of_not_shaped {text : String} (shapeless : ¬ Period.Shaped text.toList) :
    ofText text = if isIdentifier text then .id else .unknown :=
  if_neg fun dated => shapeless (Period.isSome_ofChars?.mp dated)

end CursorFormat

namespace Query

/-- **The grammar of a cursor tells its format.** A cursor is taken for a date if it is four digits,
which a hyphen and two digits may follow, and another hyphen and two digits those; for an identifier
if it is five groups of hexadecimal digits with a version from 1 to 5 and the variant of documents;
and for nothing known otherwise. -/
theorem cursorFormat?_of_grammar (query : Query) (text : String)
    (cursor : query.before = some text) :
    (query.cursorFormat? = some .date ↔ Period.Shaped text.toList) ∧
    (query.cursorFormat? = some .id ↔ Identifier.Proper text.toList) ∧
    (query.cursorFormat? = some .unknown ↔
      ¬ Period.Shaped text.toList ∧ ¬ Identifier.Proper text.toList) := by
  have format : query.cursorFormat? = some (CursorFormat.ofText text) := by
    rw [cursorFormat?, cursor]
    rfl
  rw [format]
  by_cases shaped : Period.Shaped text.toList
  · have improper := CursorFormat.not_proper_of_shaped shaped
    rw [CursorFormat.ofText_of_shaped shaped]
    simp [shaped, improper]
  · rw [CursorFormat.ofText_of_not_shaped shaped]
    by_cases proper : Identifier.Proper text.toList
    · rw [if_pos (CursorFormat.isIdentifier_iff.mpr proper)]
      simp [shaped, proper]
    · rw [if_neg fun known => proper (CursorFormat.isIdentifier_iff.mp known)]
      simp [shaped, proper]

/-- A month, an identifier in capitals, and what is neither: an identifier without hyphens, one of a
later version, one of another variant, and texts that have the length of a date or of an identifier
only if bytes are counted. -/
theorem sampled_cursorFormat?_of_grammar :
    let asked (text : String) : Query := { Query.all 10 with before := some text }
    ((asked "2024-01").cursorFormat? = some .date ∧ Period.Shaped "2024-01".toList) ∧
    ((asked "3F2B8A4E-1C2D-4E5F-9A6B-7C8D9E0F1A2B").cursorFormat? = some .id ∧
      Identifier.Proper "3F2B8A4E-1C2D-4E5F-9A6B-7C8D9E0F1A2B".toList) ∧
    ∀ text ∈ ["3f2b8a4e1c2d4e5f9a6b7c8d9e0f1a2b", "3f2b8a4e-1c2d-6e5f-9a6b-7c8d9e0f1a2b",
        "3f2b8a4e-1c2d-4e5f-ca6b-7c8d9e0f1a2b", "é24", "é2b8a4e-1c2d-4e5f-9a6b-7c8d9e0f1a2b"],
      (asked text).cursorFormat? = some .unknown ∧
        ¬ Period.Shaped text.toList ∧ ¬ Identifier.Proper text.toList := by
  intro asked
  have grammar (text : String) := cursorFormat?_of_grammar (asked text) text rfl
  refine ⟨?_, ?_, ?_⟩
  · have date : (asked "2024-01").cursorFormat? = some .date := by decide +kernel
    exact ⟨date, (grammar _).1.mp date⟩
  · have id : (asked "3F2B8A4E-1C2D-4E5F-9A6B-7C8D9E0F1A2B").cursorFormat? = some .id := by
      decide +kernel
    exact ⟨id, (grammar _).2.1.mp id⟩
  · intro text hmem
    have unknown : (asked text).cursorFormat? = some .unknown := by
      revert text
      decide +kernel
    exact ⟨unknown, (grammar text).2.2.mp unknown⟩

end Query

end FacetSearch
