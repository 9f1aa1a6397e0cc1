import FacetSearch.Line
import Mathlib.Data.List.Basic

/-!
# Spellings of a search line

The same terms can be typed in many ways. A term is a row of segments, bare ones and quoted ones; a
backslash counts only between quotes, where it may stand in front of any character; and there may be
more white space than is needed. However a line is typed, it is split into its terms. The quote that
would end the line may be left out, and so may the character behind a last backslash.
-/

namespace FacetSearch.Line

open Text

/-- What may stand between quotes for a text. A quote and a backslash need a backslash in front, and
any other character may have one. -/
inductive Quoted : List Char → List Char → Prop
  | nil : Quoted [] []
  | plain {c : Char} {typed text : List Char} (unquote : c ≠ '"') (unescape : c ≠ '\\')
      (rest : Quoted typed text) : Quoted (c :: typed) (c :: text)
  | escaped {typed text : List Char} (c : Char) (rest : Quoted typed text) :
      Quoted ('\\' :: c :: typed) (c :: text)

/-- What may be typed without quotes. -/
def Plain (segment : List Char) : Prop := ∀ c ∈ segment, c ≠ '"' ∧ isWhiteSpace c = false

instance (segment : List Char) : Decidable (Plain segment) := List.decidableBAll _ segment

/-- What may be typed for a term: segments without quotes and segments between quotes, in any
order. -/
inductive Spells : List Char → List Char → Prop
  | nil : Spells [] []
  | bare {segment typed term : List Char} (plain : Plain segment) (rest : Spells typed term) :
      Spells (segment ++ typed) (segment ++ term)
  | quoted {inner segment typed term : List Char} (inside : Quoted inner segment)
      (rest : Spells typed term) : Spells ('"' :: inner ++ '"' :: typed) (segment ++ term)

def Blank (gap : List Char) : Prop := ∀ c ∈ gap, isWhiteSpace c

instance (gap : List Char) : Decidable (Blank gap) := List.decidableBAll _ gap

/-- A term in front would be ended here: by white space, or by the end of the line. -/
def Apart (line : List Char) : Prop := ∀ c ∈ line.head?, isWhiteSpace c

instance (line : List Char) : Decidable (Apart line) := Option.decidableForallMem line.head?

/-- What may be typed for a row of terms: each of them, none empty, with white space between two
and, if one likes, at both ends. -/
inductive SpellsRow : List Char → List (List Char) → Prop
  | blank {gap : List Char} (blank : Blank gap) : SpellsRow gap []
  | term {gap typed term line : List Char} {terms : List (List Char)} (blank : Blank gap)
      (spelled : Spells typed term) (nonempty : term ≠ []) (apart : Apart line)
      (rest : SpellsRow line terms) : SpellsRow (gap ++ typed ++ line) (term :: terms)

/-! ## Reading a term -/

/-- What has been collected at the end of a term is the term. -/
theorem finish_reverse {term : List Char} (h : term ≠ []) : finish term.reverse = [term] := by
  simp [finish, h]

theorem splitFrom_of_quoted {typed text : List Char} (h : Quoted typed text)
    (collected rest : List Char) :
    splitFrom .inside collected (typed ++ rest) =
      splitFrom .inside (text.reverse ++ collected) rest := by
  induction h generalizing collected with
  | nil => rfl
  | plain unquote unescape _ ih =>
      rw [List.cons_append, splitFrom]
      simp only [unquote, unescape, if_false]
      rw [ih, List.reverse_cons, List.append_assoc]
      rfl
  | escaped c _ ih =>
      rw [List.cons_append, List.cons_append, splitFrom, splitFrom]
      simp only [if_true]
      rw [ih, List.reverse_cons, List.append_assoc]
      rfl

theorem splitFrom_of_plain {segment : List Char} (plain : Plain segment)
    (collected rest : List Char) :
    splitFrom .outside collected (segment ++ rest) =
      splitFrom .outside (segment.reverse ++ collected) rest := by
  induction segment generalizing collected with
  | nil => rfl
  | cons c cs ih =>
      obtain ⟨unquote, black⟩ := plain c List.mem_cons_self
      rw [List.cons_append, splitFrom]
      simp only [unquote, black, if_false, Bool.false_eq_true]
      rw [ih fun d hd => plain d (List.mem_cons_of_mem _ hd), List.reverse_cons, List.append_assoc]
      rfl

/-- **A term is read as it is spelled**, whatever has been collected before. -/
theorem splitFrom_of_spells {typed term : List Char} (h : Spells typed term)
    (collected rest : List Char) :
    splitFrom .outside collected (typed ++ rest) =
      splitFrom .outside (term.reverse ++ collected) rest := by
  induction h generalizing collected with
  | nil => rfl
  | bare plain _ ih =>
      rw [List.append_assoc, splitFrom_of_plain plain, ih, List.reverse_append, List.append_assoc]
  | @quoted inner segment typed term inside _ ih =>
      have opened : splitFrom .outside collected ('"' :: inner ++ '"' :: typed ++ rest) =
          splitFrom .inside collected (inner ++ '"' :: (typed ++ rest)) := by
        simp [splitFrom]
      have closed : splitFrom .inside (segment.reverse ++ collected) ('"' :: (typed ++ rest)) =
          splitFrom .outside (segment.reverse ++ collected) (typed ++ rest) := by
        simp [splitFrom]
      rw [opened, splitFrom_of_quoted inside, closed, ih, List.reverse_append, List.append_assoc]

/-! ## Reading a row -/

theorem unquote_of_white {c : Char} (white : isWhiteSpace c) : c ≠ '"' := by
  rintro rfl
  exact absurd white (by decide)

theorem splitFrom_of_blank {gap : List Char} (blank : Blank gap) (rest : List Char) :
    splitFrom .outside [] (gap ++ rest) = splitFrom .outside [] rest := by
  induction gap with
  | nil => rfl
  | cons c cs ih =>
      have white := blank c List.mem_cons_self
      have unquote := unquote_of_white white
      rw [List.cons_append, splitFrom]
      simp only [unquote, white, if_true, if_false]
      exact ih fun d hd => blank d (List.mem_cons_of_mem _ hd)

/-- White space ends the term read so far, and what follows is a line of its own. -/
theorem splitFrom_of_apart {line : List Char} (apart : Apart line) (collected : List Char) :
    splitFrom .outside collected line = finish collected ++ splitFrom .outside [] line := by
  cases line with
  | nil => exact (List.append_nil _).symm
  | cons c rest =>
      have white : isWhiteSpace c := apart c rfl
      have unquote := unquote_of_white white
      rw [splitFrom, splitFrom]
      simp only [unquote, white, if_true, if_false]
      rfl

/-- **A row is read as it is spelled.** -/
theorem splitFrom_of_spellsRow {line : List Char} {terms : List (List Char)}
    (h : SpellsRow line terms) : splitFrom .outside [] line = terms := by
  induction h with
  | blank blank =>
      have read := splitFrom_of_blank blank []
      rwa [List.append_nil] at read
  | term blank spelled nonempty apart _ ih =>
      rw [List.append_assoc, splitFrom_of_blank blank, splitFrom_of_spells spelled,
        List.append_nil, splitFrom_of_apart apart, finish_reverse nonempty, ih]
      rfl

/-! ## Leaving the last quote out -/

/-- How the next character is read after this one. -/
def Quoting.next (quoting : Quoting) (c : Char) : Quoting :=
  match quoting with
  | .escaped => .inside
  | .inside => if c = '\\' then .escaped else if c = '"' then .outside else .inside
  | .outside => if c = '"' then .inside else .outside

/-- How the next character is read after this text. -/
def Quoting.behind (quoting : Quoting) (text : List Char) : Quoting :=
  text.foldl next quoting

namespace Quoting

theorem behind_append (quoting : Quoting) (front back : List Char) :
    quoting.behind (front ++ back) = (quoting.behind front).behind back :=
  List.foldl_append

/-- Only inside quotes does a quote lead outside. -/
theorem behind_concat_quote {quoting : Quoting} {text : List Char} :
    quoting.behind (text ++ ['"']) = .outside ↔ quoting.behind text = .inside := by
  rw [behind_append]
  cases quoting.behind text <;> simp [behind, next]

theorem behind_of_quoted {typed text : List Char} (h : Quoted typed text) :
    Quoting.inside.behind typed = .inside := by
  induction h with
  | nil => rfl
  | plain unquote unescape _ ih => simpa [behind, next, unquote, unescape] using ih
  | escaped c _ ih => simpa [behind, next] using ih

theorem behind_of_unquoted {text : List Char} (unquoted : ∀ c ∈ text, c ≠ '"') :
    Quoting.outside.behind text = .outside := by
  induction text with
  | nil => rfl
  | cons c rest ih =>
      have unquote := unquoted c List.mem_cons_self
      have kept := ih fun d hd => unquoted d (List.mem_cons_of_mem _ hd)
      simpa [behind, next, unquote] using kept

theorem behind_of_spells {typed term : List Char} (h : Spells typed term) :
    Quoting.outside.behind typed = .outside := by
  induction h with
  | nil => rfl
  | bare plain _ ih => rw [behind_append, behind_of_unquoted fun c hc => (plain c hc).1, ih]
  | @quoted inner segment typed term inside _ ih =>
      have opened : Quoting.outside.behind ('"' :: inner) = Quoting.inside.behind inner := rfl
      have closed : Quoting.inside.behind ('"' :: typed) = Quoting.outside.behind typed := rfl
      rw [behind_append, opened, behind_of_quoted inside, closed, ih]

/-- At the end of a row all quotes are closed. -/
theorem behind_of_spellsRow {line : List Char} {terms : List (List Char)}
    (h : SpellsRow line terms) : Quoting.outside.behind line = .outside := by
  induction h with
  | blank blank => exact behind_of_unquoted fun c hc => unquote_of_white (blank c hc)
  | term blank spelled _ _ _ ih =>
      have unquoted := behind_of_unquoted fun c hc => unquote_of_white (blank c hc)
      rw [behind_append, behind_append, unquoted, behind_of_spells spelled, ih]

end Quoting

/-- A character may end a term, and changes what has been collected; what follows has no part in
it. -/
theorem exists_splitFrom_cons (quoting : Quoting) (collected : List Char) (c : Char) :
    ∃ ended kept, ∀ rest, splitFrom quoting collected (c :: rest) =
      ended ++ splitFrom (quoting.next c) kept rest := by
  cases quoting with
  | escaped => exact ⟨[], c :: collected, fun _ => rfl⟩
  | inside =>
      by_cases escape : c = '\\'
      · exact ⟨[], collected, fun _ => by simp [splitFrom, Quoting.next, escape]⟩
      · by_cases closes : c = '"'
        · exact ⟨[], collected, fun _ => by simp [splitFrom, Quoting.next, closes]⟩
        · exact ⟨[], c :: collected, fun _ => by simp [splitFrom, Quoting.next, escape, closes]⟩
  | outside =>
      by_cases opens : c = '"'
      · exact ⟨[], collected, fun _ => by simp [splitFrom, Quoting.next, opens]⟩
      · cases white : isWhiteSpace c with
        | true =>
            exact ⟨finish collected, [], fun _ => by simp [splitFrom, Quoting.next, opens, white]⟩
        | false =>
            exact ⟨[], c :: collected, fun _ => by simp [splitFrom, Quoting.next, opens, white]⟩

/-- Inside quotes the end of the line does not need the quote, nor does it mind a backslash. -/
theorem splitFrom_concat {quoting : Quoting} {text : List Char}
    (inside : quoting.behind text = .inside) (collected : List Char) :
    splitFrom quoting collected (text ++ ['"']) = splitFrom quoting collected text ∧
      splitFrom quoting collected (text ++ ['\\']) = splitFrom quoting collected text := by
  induction text generalizing quoting collected with
  | nil =>
      obtain rfl : quoting = .inside := inside
      exact ⟨rfl, rfl⟩
  | cons c rest ih =>
      obtain ⟨ended, kept, step⟩ := exists_splitFrom_cons quoting collected c
      have inside : (quoting.next c).behind rest = .inside := inside
      obtain ⟨quoted, dangling⟩ := ih inside kept
      rw [List.cons_append, List.cons_append, step, step, step, quoted, dangling]
      exact ⟨rfl, rfl⟩

theorem splitFrom_of_open {line : List Char} {terms : List (List Char)}
    (h : SpellsRow (line ++ ['"']) terms) :
    splitFrom .outside [] line = terms ∧ splitFrom .outside [] (line ++ ['\\']) = terms := by
  have inside := Quoting.behind_concat_quote.mp (Quoting.behind_of_spellsRow h)
  obtain ⟨quoted, dangling⟩ := splitFrom_concat inside []
  rw [dangling, ← quoted]
  exact ⟨splitFrom_of_spellsRow h, splitFrom_of_spellsRow h⟩

/-! ## Lines -/

/-- **However it is spelled, a line is split into its terms.** If it ends with a quote, that is the
end of a quoted segment. The quote may be left out there, and there may be a backslash in its
place. -/
theorem split_of_spellsRow {line : String} {terms : List String}
    (h : SpellsRow line.toList (terms.map String.toList)) :
    split line = terms ∧
    ∀ front, line = front ++ "\"" → split front = terms ∧ split (front ++ "\\") = terms := by
  have back : (terms.map String.toList).map String.ofList = terms := by
    rw [List.map_map]
    simp [Function.comp_def]
  refine ⟨?_, ?_⟩
  · unfold split
    rw [splitFrom_of_spellsRow h, back]
  · rintro front rfl
    rw [String.toList_append] at h
    obtain ⟨open_end, dangling⟩ := splitFrom_of_open h
    unfold split
    rw [String.toList_append]
    exact ⟨(congrArg _ open_end).trans back, (congrArg _ dangling).trans back⟩

/-- The line `⇥ a\b"c d"""e "\"\\ \x"`, with a tabulator in front and a no-break space between its
two terms. -/
def motley : String := "\t a\\b\"c d\"\"\"e\u00a0\"\\\"\\\\ \\x\""

theorem split_of_spellsRow_motley :
    SpellsRow motley.toList (["a\\bc de", "\"\\ x"].map String.toList) ∧
    split motley = ["a\\bc de", "\"\\ x"] ∧
    split "\t a\\b\"c d\"\"\"e\u00a0\"\\\"\\\\ \\x" = ["a\\bc de", "\"\\ x"] ∧
    split "\t a\\b\"c d\"\"\"e\u00a0\"\\\"\\\\ \\x\\" = ["a\\bc de", "\"\\ x"] := by
  have words : Spells (['a', '\\', 'b'] ++ "\"c d\"\"\"e".toList) "a\\bc de".toList := by
    have spaced : Quoted ['c', ' ', 'd'] ['c', ' ', 'd'] :=
      .plain (by decide) (by decide) (.plain (by decide) (by decide)
        (.plain (by decide) (by decide) .nil))
    have last : Spells (['e'] ++ []) (['e'] ++ []) := .bare (by decide) .nil
    exact .bare (by decide) (.quoted spaced (.quoted .nil last))
  have escapes : Spells "\"\\\"\\\\ \\x\"".toList "\"\\ x".toList := by
    have inside : Quoted ['\\', '"', '\\', '\\', ' ', '\\', 'x'] ['"', '\\', ' ', 'x'] :=
      .escaped '"' (.escaped '\\' (.plain (by decide) (by decide) (.escaped 'x' .nil)))
    exact .quoted inside .nil
  have spelled : SpellsRow motley.toList (["a\\bc de", "\"\\ x"].map String.toList) := by
    have second : SpellsRow (['\u00a0'] ++ "\"\\\"\\\\ \\x\"".toList ++ []) ["\"\\ x".toList] :=
      .term (by decide) escapes (by decide) (by decide) (.blank (by decide))
    have line : motley.toList = ['\t', ' '] ++ (['a', '\\', 'b'] ++ "\"c d\"\"\"e".toList) ++
        (['\u00a0'] ++ "\"\\\"\\\\ \\x\"".toList ++ []) := by
      decide +kernel
    rw [line]
    exact .term (by decide) words (by decide) (by decide) second
  obtain ⟨closed, last⟩ := split_of_spellsRow spelled
  obtain ⟨left_open, dangling⟩ := last "\t a\\b\"c d\"\"\"e\u00a0\"\\\"\\\\ \\x" (by decide +kernel)
  exact ⟨spelled, closed, left_open, dangling⟩

end FacetSearch.Line
