/-!
# Digits

ASCII digits as numbers, decimal or hexadecimal. Digits of other scripts are not digits here.
-/

namespace FacetSearch.Text

/-- The number whose digits are those of `n` and then this one. -/
def withDigit (n : Nat) (digit : Char) : Nat := 10 * n + (digit.toNat - '0'.toNat)

def decimal (digits : List Char) : Nat := digits.foldl withDigit 0

/-- The number written by `digits`, if there are `count` of them and all are decimal digits. -/
def decimal? (count : Nat) (digits : List Char) : Option Nat :=
  if digits.length = count ∧ digits.all Char.isDigit then some (decimal digits) else none

/-- The `count` lowest decimal digits of `n`, with leading zeros. -/
def padded (count n : Nat) : List Char :=
  match count with
  | 0 => []
  | count + 1 => padded count (n / 10) ++ [Char.ofNat ('0'.toNat + n % 10)]

def hexDigit? (c : Char) : Option Nat :=
  if '0' ≤ c ∧ c ≤ '9' then some (c.toNat - '0'.toNat)
  else if 'a' ≤ c ∧ c ≤ 'f' then some (c.toNat - 'a'.toNat + 10)
  else if 'A' ≤ c ∧ c ≤ 'F' then some (c.toNat - 'A'.toNat + 10)
  else none

/-- The number written by `digits`, if there are `count` of them and all are hexadecimal digits. -/
def hexadecimal? (count : Nat) (digits : List Char) : Option Nat :=
  if digits.length = count then
    digits.foldlM (fun n digit => (hexDigit? digit).map (16 * n + ·)) 0
  else none

theorem length_padded (count n : Nat) : (padded count n).length = count := by
  induction count generalizing n with
  | zero => rfl
  | succ count ih => simp [padded, ih]

end FacetSearch.Text
