import FacetSearch.Text.LowerCase

/-!
# Tags

Spellings of one tag meet in a normal form: `#My Tag` and `my_tag` are the same tag. Only the number
signs at the very front are decoration. One that a removed colon brings to the front stays.
-/

namespace FacetSearch.Tag

open Text

/-- A tag keeps at most this many characters. -/
def maxLength : Nat := 20

/-- A blank or a comma inside a tag is written as an underscore. -/
def joint (c : Char) : Char :=
  if c = ' ' ∨ c = ',' then '_' else c

/-- The normal form of a tag: without its leading number signs and all colons, blanks and commas
joined, in lower case, cut to `maxLength`. A tag of which nothing is left has none. -/
def normalize? (raw : List Char) : Option (List Char) :=
  let kept := (raw.dropWhile (· = '#')).filter (· ≠ ':')
  let tag := ((kept.map joint).flatMap lowerCase).take maxLength
  if tag = [] then none else some tag

theorem length_le_of_normalize? {raw tag : List Char} (h : normalize? raw = some tag) :
    tag.length ≤ maxLength := by
  obtain ⟨-, rfl⟩ : _ ∧ _ = tag := by simpa [normalize?] using h
  exact List.length_take_le ..

end FacetSearch.Tag
