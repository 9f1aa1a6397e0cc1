import FacetSearch.Text.Cut
import FacetSearch.Text.Digits

/-!
# Identifiers

The identifier of a document has sixteen bytes, numbered from zero, and is written in hexadecimal
digits: in groups of 8, 4, 4, 4 and 12, with hyphens between them. Two of the bytes tell how it was
made. The upper half of byte 6, which opens the third group, is the version, and the upper two bits
of byte 8, which opens the fourth, are the variant.
-/

namespace FacetSearch

open Text

structure Identifier where
  /-- Bytes 0 to 3. -/
  low : UInt32
  /-- Bytes 4 and 5. -/
  middle : UInt16
  /-- Bytes 6 and 7. -/
  high : UInt16
  /-- Bytes 8 and 9. -/
  clock : UInt16
  /-- Bytes 10 to 15. -/
  node : BitVec 48
deriving DecidableEq, Repr

namespace Identifier

/-- Reads the five groups of digits. -/
def ofChars? (text : List Char) : Option Identifier := do
  let (low, text) ← cutAt '-' text
  let (middle, text) ← cutAt '-' text
  let (high, text) ← cutAt '-' text
  let (clock, node) ← cutAt '-' text
  some
    { low := .ofNat (← hexadecimal? 8 low)
      middle := .ofNat (← hexadecimal? 4 middle)
      high := .ofNat (← hexadecimal? 4 high)
      clock := .ofNat (← hexadecimal? 4 clock)
      node := .ofNat 48 (← hexadecimal? 12 node) }

def version (identifier : Identifier) : UInt8 :=
  (identifier.high >>> 8).toUInt8 >>> 4

def variant (identifier : Identifier) : UInt8 :=
  (identifier.clock >>> 8).toUInt8 >>> 6

end Identifier

end FacetSearch
