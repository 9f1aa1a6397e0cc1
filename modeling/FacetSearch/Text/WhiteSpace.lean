/-!
# White space

The characters with the Unicode property `White_Space`. Zero-width spaces do not have it.
-/

namespace FacetSearch.Text

def whiteSpaceBlocks : List (Nat × Nat) :=
  [ (0x0009, 0x000D), (0x0020, 0x0020), (0x0085, 0x0085), (0x00A0, 0x00A0), (0x1680, 0x1680),
    (0x2000, 0x200A), (0x2028, 0x2029), (0x202F, 0x202F), (0x205F, 0x205F), (0x3000, 0x3000) ]

/-- White space separates the terms of a search line. -/
def isWhiteSpace (c : Char) : Bool :=
  whiteSpaceBlocks.any fun block => block.1 ≤ c.toNat && c.toNat ≤ block.2

end FacetSearch.Text
