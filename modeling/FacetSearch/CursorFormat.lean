import FacetSearch.Calendar.Period
import FacetSearch.Identifier

/-!
# Cursor formats

What the text of a cursor looks like, which decides how a store compares with it: a period is
compared with the time of creation, the identifier of a document with identifiers.
-/

namespace FacetSearch

inductive CursorFormat where
  | date
  | id
  | unknown
deriving DecidableEq, Repr

namespace CursorFormat

/-- Documents are identified by the versions from 1 to 5 of the variant whose bits are `10`. There
are other ways to write such an identifier, without hyphens or in braces, but none that takes as many
bytes. -/
def isIdentifier (text : String) : Bool :=
  text.utf8ByteSize = 36 &&
    (Identifier.ofChars? text.toList).any fun identifier =>
      1 ≤ identifier.version && identifier.version ≤ 5 && identifier.variant = 2

def ofText (text : String) : CursorFormat :=
  if (Period.parse? text).isSome then .date
  else if isIdentifier text then .id
  else .unknown

end CursorFormat

end FacetSearch
