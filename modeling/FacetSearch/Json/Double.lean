/-!
# The range of doubles

A double has 53 significant binary digits and stays below `2 ^ 1024`. All that matters here is
whether a number lies in that range, and this is worked out on naturals.
-/

namespace FacetSearch.Json.Double

/-- The distance of two neighbours among the numbers of 53 binary digits, at the size of `n`. -/
def unit (n : Nat) : Nat := Nat.pow 2 (n.log2 + 1 - 53)

/-- `n` rounded to 53 binary digits. Half way between two neighbours it becomes the one that is an
even number of units. -/
def nearest (n : Nat) : Nat :=
  let below := n / unit n
  let rest := n % unit n
  if unit n < 2 * rest ∨ (2 * rest = unit n ∧ below % 2 = 1) then (below + 1) * unit n
  else below * unit n

/-- Half way from the largest double to the next power of two. Whatever lies here or beyond rounds
to no double. -/
def limit : Nat := Nat.pow 2 1024 - Nat.pow 2 970

/-- The product of two doubles is a double. -/
def holdsProduct (m n : Nat) : Bool := nearest m * nearest n < limit

end FacetSearch.Json.Double
