import FacetSearch.Text.Digits

/-!
# Days

Days of the proleptic Gregorian calendar, from the year 0 on. The leap-year rule reaches back
through year 0, which is a leap year. A `Day` carries the proof that it exists, so a bound given by
the library is never a 30th of February.
-/

namespace FacetSearch

open Text

/-- Every fourth year is a leap year, except centuries that 400 does not divide. -/
def isLeapYear (year : Nat) : Bool :=
  year % 4 = 0 && (year % 100 ≠ 0 || year % 400 = 0)

/-- The number of days of a month from 1 to 12, and 0 for any other number. -/
def daysInMonth (year month : Nat) : Nat :=
  match month with
  | 1 | 3 | 5 | 7 | 8 | 10 | 12 => 31
  | 4 | 6 | 9 | 11 => 30
  | 2 => if isLeapYear year then 29 else 28
  | _ => 0

/-- A day that exists. That the month has such a day settles that there is such a month. -/
structure Day where
  year : Nat
  month : Nat
  day : Nat
  day_pos : 0 < day
  day_le : day ≤ daysInMonth year month
deriving DecidableEq, Repr

namespace Day

def of? (year month day : Nat) : Option Day :=
  if h : 0 < day ∧ day ≤ daysInMonth year month then
    some ⟨year, month, day, h.1, h.2⟩
  else
    none

/-- The day before, unless that is one before the year 0. -/
def pred? (d : Day) : Option Day :=
  if 1 < d.day then of? d.year d.month (d.day - 1)
  else if 1 < d.month then of? d.year (d.month - 1) (daysInMonth d.year (d.month - 1))
  else if 0 < d.year then of? (d.year - 1) 12 31
  else none

/-- `YYYY-MM-DD`, in the years that have four digits. -/
def render (d : Day) : String :=
  String.ofList (padded 4 d.year ++ '-' :: padded 2 d.month ++ '-' :: padded 2 d.day)

/-- Earlier days come first: by year, then month, then day of the month. -/
protected def le (a b : Day) : Prop :=
  a.year < b.year ∨ a.year = b.year ∧ (a.month < b.month ∨ a.month = b.month ∧ a.day ≤ b.day)

instance : LE Day := ⟨Day.le⟩

instance (a b : Day) : Decidable (a ≤ b) := inferInstanceAs (Decidable (_ ∨ _ ∧ (_ ∨ _ ∧ _)))

end Day

theorem daysInMonth_pos {year month : Nat} (h₁ : 1 ≤ month) (h₂ : month ≤ 12) :
    0 < daysInMonth year month := by
  have : month = 1 ∨ month = 2 ∨ month = 3 ∨ month = 4 ∨ month = 5 ∨ month = 6 ∨ month = 7 ∨
      month = 8 ∨ month = 9 ∨ month = 10 ∨ month = 11 ∨ month = 12 := by omega
  rcases this with rfl | rfl | rfl | rfl | rfl | rfl | rfl | rfl | rfl | rfl | rfl | rfl <;>
    simp [daysInMonth]
  split <;> omega

end FacetSearch
