import FacetSearch.Calendar.Day

/-!
# Periods

A date term names a year, a month or a day, by how much of `YYYY-MM-DD` it writes. The shape is
checked on the text alone, so `2024-13` and `2023-02-30` are periods; only those that the calendar
knows have bounds.
-/

namespace FacetSearch

open Text

inductive Period where
  | year (year : Nat)
  | month (year month : Nat)
  | day (year month day : Nat)
deriving DecidableEq, Repr

namespace Period

/-- Reads `YYYY`, `YYYY-MM` or `YYYY-MM-DD` in ASCII digits, and nothing else. -/
def ofChars? : List Char → Option Period
  | [a, b, c, d] => do
    some (.year (← decimal? 4 [a, b, c, d]))
  | [a, b, c, d, '-', e, f] => do
    some (.month (← decimal? 4 [a, b, c, d]) (← decimal? 2 [e, f]))
  | [a, b, c, d, '-', e, f, '-', g, h] => do
    some (.day (← decimal? 4 [a, b, c, d]) (← decimal? 2 [e, f]) (← decimal? 2 [g, h]))
  | _ => none

def parse? (text : String) : Option Period :=
  ofChars? text.toList

/-- The first day of the month that follows one. -/
def nextMonth? (year month : Nat) : Option Day :=
  if month = 12 then Day.of? (year + 1) 1 1 else Day.of? year (month + 1) 1

/-- The first and the last day of the period, if the calendar has it. A month ends on the day before
the next one begins. -/
def bounds? : Period → Option (Day × Day)
  | .year y => do
    some (← Day.of? y 1 1, ← Day.of? y 12 31)
  | .month y m => do
    some (← Day.of? y m 1, ← (← nextMonth? y m).pred?)
  | .day y m d => do
    let day ← Day.of? y m d
    some (day, day)

end Period

end FacetSearch
