import FacetSearch.Json.Double
import FacetSearch.Text.Digits

/-!
# JSON numbers

A number keeps what its text says: the sign, the digits before and behind the point, and the
exponent, because `1`, `1.0`, `-0` and `1e0` are read differently. Nothing is rounded when a number
is read; whether a double can hold it is a question of its own.
-/

namespace FacetSearch.Json

open Text

structure Number where
  negative : Bool
  whole : Nat
  /-- The digits behind the point, none if there is no point. -/
  fraction : List Char
  /-- The power of ten, if one is written. -/
  exponent : Option Int
deriving DecidableEq, Repr

namespace Number

def ofNat (n : Nat) : Number := ⟨false, n, [], none⟩

/-- The value of a whole number of 64 bits, written without sign, point and exponent. -/
def natural64? (n : Number) : Option UInt64 :=
  if ¬n.negative ∧ n.fraction = [] ∧ n.exponent = none ∧ n.whole < UInt64.size then
    some (UInt64.ofNat n.whole)
  else none

/-! ## Reading -/

/-- A whole part: digits, the first of which is no zero unless it is the only one. -/
def wholePart? (digits : List Char) : Option Nat :=
  if digits = [] ∨ (digits.head? = some '0' ∧ digits ≠ ['0']) then none
  else some (decimal digits)

def digits? (text : List Char) : Option Nat :=
  if text ≠ [] ∧ text.all Char.isDigit then some (decimal text) else none

/-- An exponent: a sign, which may be left out, and digits. -/
def exponent? : List Char → Option Int
  | '-' :: text => (digits? text).map fun n => -(n : Int)
  | '+' :: text => (digits? text).map fun n => (n : Int)
  | text => (digits? text).map fun n => (n : Int)

/-- The number that continues these parts: with nothing, or with an exponent. -/
def ofParts? (negative : Bool) (whole : Nat) (fraction rest : List Char) : Option Number :=
  match rest with
  | [] => some ⟨negative, whole, fraction, none⟩
  | e :: rest =>
    if e = 'e' ∨ e = 'E' then
      (exponent? rest).map fun exponent => ⟨negative, whole, fraction, some exponent⟩
    else none

def ofUnsigned? (negative : Bool) (text : List Char) : Option Number := do
  let whole ← wholePart? (text.takeWhile Char.isDigit)
  match text.dropWhile Char.isDigit with
  | '.' :: rest =>
    let fraction := rest.takeWhile Char.isDigit
    if fraction = [] then none
    else ofParts? negative whole fraction (rest.dropWhile Char.isDigit)
  | rest => ofParts? negative whole [] rest

/-- Reads a number: perhaps a minus sign, a whole part, perhaps a fraction, perhaps an exponent. -/
def ofChars? : List Char → Option Number
  | '-' :: text => ofUnsigned? true text
  | text => ofUnsigned? false text

/-! ## Size -/

/-- The number that `n` becomes when digits are put behind it, as many as it can take and stay below
64 bits, and how many are left. -/
def leading (n : Nat) : List Char → Nat × Nat
  | [] => (n, 0)
  | digit :: rest =>
    if withDigit n digit < UInt64.size then leading (withDigit n digit) rest
    else (n, rest.length + 1)

/-- The number without its sign, as `m * 10 ^ e` with an `m` of 64 bits. Digits before the point for
which `m` has no room count as zeros; digits behind it are dropped from the first that does not
fit. -/
def scaled (n : Number) : Nat × Int :=
  let (whole, zeros) := leading 0 (Nat.toDigits 10 n.whole)
  let (m, dropped) := leading whole n.fraction
  (m, zeros - (n.fraction.length - dropped : Nat) + n.exponent.getD 0)

/-- A double can hold the number: the product of `m` and `10 ^ e`, each rounded before they are
multiplied. Close to the limit this refuses numbers that, rounded once, would lie below it. What is
too small for a double becomes zero, and fits. -/
def fitsDouble (n : Number) : Bool :=
  let (m, e) := n.scaled
  m = 0 || e < 0 || (e ≤ 308 && Double.holdsProduct m (Nat.pow 10 e.toNat))

/-! ## Writing -/

def render (n : Number) : String :=
  let fraction := if n.fraction = [] then "" else "." ++ String.ofList n.fraction
  let exponent := match n.exponent with
    | none => ""
    | some e => "e" ++ toString e
  (if n.negative then "-" else "") ++ toString n.whole ++ fraction ++ exponent

end Number

end FacetSearch.Json
