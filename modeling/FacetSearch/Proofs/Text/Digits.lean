import FacetSearch.Text.Digits
import Mathlib.Algebra.Group.Nat.Defs
import Mathlib.Data.List.Induction

/-!
# Numbers in digits

What is written with a fixed number of decimal digits is read as the same number, and digits that
are read are written again. Both go digit by digit from the last one. Of a number read from
hexadecimal digits, the first digit can be told: it is what is left when the others are divided away.
-/

namespace FacetSearch.Text

/-! ## Decimal digits -/

theorem decimal_concat (digits : List Char) (c : Char) :
    decimal (digits ++ [c]) = withDigit (decimal digits) c := by
  unfold decimal
  rw [List.foldl_append]
  rfl

theorem isDigit_ofNat {d : Nat} (h : d < 10) : (Char.ofNat ('0'.toNat + d)).isDigit = true := by
  revert d
  decide

theorem withDigit_ofNat (n : Nat) {d : Nat} (h : d < 10) :
    withDigit n (Char.ofNat ('0'.toNat + d)) = 10 * n + d := by
  have value : ∀ d < 10, (Char.ofNat ('0'.toNat + d)).toNat - '0'.toNat = d := by decide
  rw [withDigit, value d h]

theorem exists_ofNat_of_isDigit {c : Char} (h : c.isDigit = true) :
    ∃ d < 10, c = Char.ofNat ('0'.toNat + d) := by
  obtain ⟨low, high⟩ : '0'.toNat ≤ c.toNat ∧ c.toNat ≤ '9'.toNat := by
    simpa [Char.isDigit, UInt32.le_iff_toNat_le] using h
  refine ⟨c.toNat - '0'.toNat, ?_, ?_⟩
  · have nine : '9'.toNat = '0'.toNat + 9 := rfl
    omega
  · rw [Nat.add_sub_cancel' low, Char.ofNat_toNat]

theorem isDigit_of_mem_padded {count n : Nat} {c : Char} (h : c ∈ padded count n) :
    c.isDigit = true := by
  induction count generalizing n with
  | zero => cases h
  | succ count ih =>
      rcases List.mem_append.mp h with front | last
      · exact ih front
      · rw [List.mem_singleton.mp last]
        exact isDigit_ofNat (Nat.mod_lt n (by decide))

/-- **Digits are read as the number that they write.** -/
theorem decimal_padded (count n : Nat) : decimal (padded count n) = n % 10 ^ count := by
  induction count generalizing n with
  | zero => rw [Nat.pow_zero, Nat.mod_one]; rfl
  | succ count ih =>
      rw [padded, decimal_concat, withDigit_ofNat _ (Nat.mod_lt n (by decide)), ih, Nat.pow_succ,
        Nat.mul_comm (10 ^ count), Nat.mod_mul, Nat.add_comm]

/-- **A number is written with the digits that it was read from.** -/
theorem padded_decimal {digits : List Char} (h : ∀ c ∈ digits, c.isDigit = true) :
    padded digits.length (decimal digits) = digits := by
  induction digits using List.reverseRecOn with
  | nil => rfl
  | append_singleton digits c ih =>
      obtain ⟨d, small, rfl⟩ := exists_ofNat_of_isDigit (h c (by simp))
      rw [decimal_concat, withDigit_ofNat _ small, List.length_append, List.length_singleton,
        padded]
      have front : (10 * decimal digits + d) / 10 = decimal digits := by omega
      have last : (10 * decimal digits + d) % 10 = d := by omega
      rw [front, last, ih fun c hc => h c (List.mem_append_left _ hc)]

/-! ## Hexadecimal digits -/

/-- The hexadecimal digits, of either case. -/
def hexDigits : List Char := "0123456789abcdefABCDEF".toList

theorem isSome_hexDigit? {c : Char} : (hexDigit? c).isSome = true ↔ c ∈ hexDigits := by
  constructor
  · intro digit
    -- The three ranges end within ASCII, where the digits can be looked up one by one.
    have ascii : c.toNat < 128 := by
      by_contra beyond
      have above : ∀ last : Char, last.toNat < 128 → ¬ c ≤ last := by
        intro last small le
        have le : c.toNat ≤ last.toNat := le
        omega
      simp [hexDigit?, above '9' (by decide), above 'f' (by decide), above 'F' (by decide)] at digit
    have table : ∀ n < 128, (hexDigit? (Char.ofNat n)).isSome → Char.ofNat n ∈ hexDigits := by
      decide +kernel
    rw [← Char.ofNat_toNat c] at digit ⊢
    exact table _ ascii digit
  · intro digit
    have table : hexDigits.all fun c => (hexDigit? c).isSome := by decide
    exact List.all_eq_true.mp table c digit

/-- What the table of all digits shows holds of each digit that is read. -/
theorem of_hexDigits {p : Char → Nat → Prop} [∀ c d, Decidable (p c d)]
    (table : hexDigits.all fun c => (hexDigit? c).all fun d => p c d) {c : Char} {d : Nat}
    (h : hexDigit? c = some d) : p c d := by
  have digit := List.all_eq_true.mp table c (isSome_hexDigit?.mp (by rw [h]; rfl))
  rw [h] at digit
  exact of_decide_eq_true digit

theorem hexDigit?_lt {c : Char} {d : Nat} (h : hexDigit? c = some d) : d < 16 := by
  have table : hexDigits.all fun c => (hexDigit? c).all fun d => d < 16 := by decide
  exact of_hexDigits table h

/-- A text of characters of one byte has as many bytes as characters. -/
theorem utf8ByteSize_ofList {text : List Char} (h : ∀ c ∈ text, c.utf8Size = 1) :
    (String.ofList text).utf8ByteSize = text.length := by
  induction text with
  | nil => rfl
  | cons c rest ih =>
      obtain ⟨first, others⟩ := List.forall_mem_cons.mp h
      rw [String.ofList_cons, String.utf8ByteSize_append, String.utf8ByteSize_singleton, first,
        ih others, List.length_cons, Nat.add_comm]

/-- So many hexadecimal digits. -/
def HexDigits (count : Nat) (digits : List Char) : Prop :=
  digits.length = count ∧ ∀ c ∈ digits, c ∈ hexDigits

theorem HexDigits.utf8Size {count : Nat} {digits : List Char} (h : HexDigits count digits) :
    ∀ c ∈ digits, c.utf8Size = 1 := by
  intro c hmem
  have table : hexDigits.all fun c => c.utf8Size = 1 := by decide
  exact of_decide_eq_true (List.all_eq_true.mp table c (h.2 c hmem))

/-- Digits put behind a number leave it as what stands in front of them. -/
theorem div_of_foldlM {digits : List Char} {start n : Nat}
    (h : digits.foldlM (fun n digit => (hexDigit? digit).map (16 * n + ·)) start = some n) :
    n / 16 ^ digits.length = start := by
  -- The first digit goes into the start of the rest, which the rest leaves alone.
  induction digits generalizing start with
  | nil => simpa using h.symm
  | cons c rest ih =>
      obtain ⟨next, read, h⟩ := Option.bind_eq_some_iff.mp h
      obtain ⟨d, digit, rfl⟩ := Option.map_eq_some_iff.mp read
      have small := hexDigit?_lt digit
      rw [List.length_cons, Nat.pow_succ, ← Nat.div_div_eq_div_mul, ih h]
      omega

theorem isSome_foldlM {digits : List Char} {start : Nat} :
    (digits.foldlM (fun n digit => (hexDigit? digit).map (16 * n + ·)) start).isSome = true ↔
      ∀ c ∈ digits, c ∈ hexDigits := by
  induction digits generalizing start with
  | nil => simp
  | cons c rest ih =>
      rw [List.foldlM_cons, List.forall_mem_cons, ← isSome_hexDigit?]
      cases digit : hexDigit? c with
      | none => simp
      | some d => simp [ih]

theorem isSome_hexadecimal? {count : Nat} {digits : List Char} :
    (hexadecimal? count digits).isSome = true ↔ HexDigits count digits := by
  unfold hexadecimal? HexDigits
  split
  · rename_i sized
    rw [isSome_foldlM]
    simp [sized]
  · rename_i unsized
    simp [unsized]

/-- The first digit of a number. -/
theorem exists_first_of_hexadecimal? {count n : Nat} {digits : List Char}
    (h : hexadecimal? (count + 1) digits = some n) :
    ∃ c rest d, digits = c :: rest ∧ hexDigit? c = some d ∧ n / 16 ^ count = d := by
  obtain ⟨sized, folded⟩ := Option.ite_none_right_eq_some.mp h
  cases digits with
  | nil => cases sized
  | cons c rest =>
      obtain ⟨next, read, behind⟩ := Option.bind_eq_some_iff.mp folded
      obtain ⟨d, digit, rfl⟩ := Option.map_eq_some_iff.mp read
      obtain rfl : rest.length = count := Nat.succ.inj sized
      refine ⟨c, rest, d, rfl, digit, ?_⟩
      rw [div_of_foldlM behind, Nat.mul_zero, Nat.zero_add]

end FacetSearch.Text
