import FacetSearch.Json.Number

/-!
# JSON lexemes

The words of a JSON text: punctuation, the three keywords, numbers and strings. White space between
them is dropped. Strings come out decoded. A surrogate that is not one of a pair is no character, so
of a string with one only the fact remains that it stood there.
-/

namespace FacetSearch.Json

open Text

inductive Lexeme where
  | openArray
  | closeArray
  | openObject
  | closeObject
  | comma
  | colon
  | null
  | bool (value : Bool)
  | number (value : Number)
  /-- A string, or `none` if it is no sequence of characters. -/
  | string (value : Option String)
deriving DecidableEq, Repr

/-! ## Strings -/

/-- What one step inside a string yields: a character, or a 16-bit unit that has to be a character
alone or half of one. -/
inductive Piece where
  | char (c : Char)
  | unit (u : Nat)
deriving DecidableEq, Repr

/-- The character that a backslash and this letter stand for. -/
def escaped? : Char → Option Char
  | '"' => some '"'
  | '\\' => some '\\'
  | '/' => some '/'
  | 'b' => some '\x08'
  | 'f' => some '\x0c'
  | 'n' => some '\n'
  | 'r' => some '\r'
  | 't' => some '\t'
  | _ => none

def unit? (a b c d : Char) : Option Nat := do
  some ((((← hexDigit? a) * 16 + (← hexDigit? b)) * 16 + (← hexDigit? c)) * 16 + (← hexDigit? d))

def stringBody : List Char → Option (List Piece × List Char)
  | [] => none
  | '"' :: rest => some ([], rest)
  | '\\' :: 'u' :: a :: b :: c :: d :: rest => do
    let u ← unit? a b c d
    let (pieces, after) ← stringBody rest
    some (.unit u :: pieces, after)
  | '\\' :: letter :: rest => do
    let c ← escaped? letter
    let (pieces, after) ← stringBody rest
    some (.char c :: pieces, after)
  | c :: rest =>
    if c.toNat < 0x20 ∨ c = '\\' then none
    else (stringBody rest).map fun parts => (.char c :: parts.1, parts.2)

def isHighSurrogate (u : Nat) : Bool := 0xD800 ≤ u && u < 0xDC00

def isLowSurrogate (u : Nat) : Bool := 0xDC00 ≤ u && u < 0xE000

/-- The characters of a string, pairs of surrogates joined, unless one of them is alone. -/
def characters? : List Piece → Option (List Char)
  | [] => some []
  | .char c :: rest => (characters? rest).map (c :: ·)
  | .unit high :: .unit low :: rest =>
    if isHighSurrogate high then
      if isLowSurrogate low then
        (characters? rest).map
          (Char.ofNat (0x10000 + (high - 0xD800) * 0x400 + (low - 0xDC00)) :: ·)
      else none
    else if isLowSurrogate high then none
    else (characters? (.unit low :: rest)).map (Char.ofNat high :: ·)
  | .unit u :: rest =>
    if isHighSurrogate u || isLowSurrogate u then none
    else (characters? rest).map (Char.ofNat u :: ·)

theorem length_lt_of_stringBody {text : List Char} {pieces : List Piece} {after : List Char}
    (h : stringBody text = some (pieces, after)) : after.length < text.length := by
  fun_induction stringBody text generalizing pieces after with
  | case1 => simp at h
  | case2 rest => simp_all
  | case3 a b c d rest ih =>
    simp only [Option.bind_eq_bind, Option.bind_eq_some_iff, Option.some.injEq, Prod.mk.injEq,
      Prod.exists] at h
    obtain ⟨_, _, _, _, hbody, _, rfl⟩ := h
    have := ih hbody
    simp only [List.length_cons]
    omega
  | case4 letter rest _ ih =>
    simp only [Option.bind_eq_bind, Option.bind_eq_some_iff, Option.some.injEq, Prod.mk.injEq,
      Prod.exists] at h
    obtain ⟨_, _, _, _, hbody, _, rfl⟩ := h
    have := ih hbody
    simp only [List.length_cons]
    omega
  | case5 => simp at h
  | case6 c rest _ _ _ _ ih =>
    obtain ⟨parts, hbody, hparts⟩ := Option.map_eq_some_iff.1 h
    have := @ih parts.1 parts.2 hbody
    simp_all
    omega

/-! ## All lexemes -/

def isBlank (c : Char) : Bool := c = ' ' || c = '\t' || c = '\n' || c = '\r'

def isNumberChar (c : Char) : Bool :=
  c.isDigit || c = '-' || c = '+' || c = '.' || c = 'e' || c = 'E'

def punctuation? : Char → Option Lexeme
  | '[' => some .openArray
  | ']' => some .closeArray
  | '\x7b' => some .openObject
  | '\x7d' => some .closeObject
  | ',' => some .comma
  | ':' => some .colon
  | _ => none

def keyword? (letters : List Char) : Option Lexeme :=
  if letters = ['n', 'u', 'l', 'l'] then some .null
  else if letters = ['t', 'r', 'u', 'e'] then some (.bool true)
  else if letters = ['f', 'a', 'l', 's', 'e'] then some (.bool false)
  else none

/-- The lexemes of a text, in order. A number or a keyword ends where the run of its characters
does, which is enough because two of them never stand side by side in a value. -/
def lexemes? : List Char → Option (List Lexeme)
  | [] => some []
  | c :: rest =>
    if isBlank c then lexemes? rest
    else if c = '"' then
      match h : stringBody rest with
      | none => none
      | some (pieces, after) => do
        have : after.length < rest.length := length_lt_of_stringBody h
        let tail ← lexemes? after
        some (.string ((characters? pieces).map String.ofList) :: tail)
    else if isNumberChar c && !c.isAlpha then do
      let number ← Number.ofChars? (c :: rest.takeWhile isNumberChar)
      have : (rest.dropWhile isNumberChar).length ≤ rest.length :=
        (List.dropWhile_sublist _).length_le
      let tail ← lexemes? (rest.dropWhile isNumberChar)
      some (.number number :: tail)
    else if c.isAlpha then do
      let keyword ← keyword? (c :: rest.takeWhile Char.isAlpha)
      have : (rest.dropWhile Char.isAlpha).length ≤ rest.length :=
        (List.dropWhile_sublist _).length_le
      let tail ← lexemes? (rest.dropWhile Char.isAlpha)
      some (keyword :: tail)
    else do
      let mark ← punctuation? c
      let tail ← lexemes? rest
      some (mark :: tail)
termination_by text => text.length

end FacetSearch.Json
