import FacetSearch.Calendar.Period
import FacetSearch.HeadingFocus
import FacetSearch.NodeMatch

/-!
# Values that can be typed

Dates, node matches and heading focuses are data of their own, and not all of them can be typed: a
match with two attributes shows only one, and a focus may be of a depth that its text does not have.
For each of the three there is a predicate for those that can be. Reading makes no others, and gives
back each of them from what is written.
-/

namespace FacetSearch

open Text

/-! ## Dates -/

namespace Period

/-- So many ASCII digits. -/
def Digits (count : Nat) (text : List Char) : Prop :=
  text.length = count ∧ ∀ c ∈ text, c.isDigit

/-- `YYYY`, `YYYY-MM` and `YYYY-MM-DD`. -/
inductive Shaped : List Char → Prop
  | year {y : List Char} (hy : Digits 4 y) : Shaped y
  | month {y m : List Char} (hy : Digits 4 y) (hm : Digits 2 m) : Shaped (y ++ '-' :: m)
  | day {y m d : List Char} (hy : Digits 4 y) (hm : Digits 2 m) (hd : Digits 2 d) :
      Shaped (y ++ '-' :: m ++ '-' :: d)

theorem Shaped.length_cases {text : List Char} (h : Shaped text) :
    text.length = 4 ∨ text.length = 7 ∨ text.length = 10 := by
  cases h with
  | year hy => exact Or.inl hy.1
  | month hy hm => simp [hy.1, hm.1]
  | day hy hm hd => simp [hy.1, hm.1, hd.1]

theorem decimal?_eq_some {count n : Nat} {text : List Char} :
    decimal? count text = some n ↔ Digits count text ∧ decimal text = n := by
  unfold decimal? Digits
  rw [Option.ite_none_right_eq_some, List.all_eq_true, Option.some_inj]

theorem decimal?_of_digits {count : Nat} {text : List Char} (h : Digits count text) :
    decimal? count text = some (decimal text) :=
  decimal?_eq_some.mpr ⟨h, rfl⟩

theorem Digits.eq_two {text : List Char} (h : Digits 2 text) : ∃ a b, text = [a, b] := by
  match text, h.1 with
  | [a, b], _ => exact ⟨a, b, rfl⟩

theorem Digits.eq_four {text : List Char} (h : Digits 4 text) : ∃ a b c d, text = [a, b, c, d] := by
  match text, h.1 with
  | [a, b, c, d], _ => exact ⟨a, b, c, d, rfl⟩

/-- The period that the digits of a text write. -/
inductive Written : List Char → Period → Prop
  | year {y : List Char} (hy : Digits 4 y) : Written y (.year (decimal y))
  | month {y m : List Char} (hy : Digits 4 y) (hm : Digits 2 m) :
      Written (y ++ '-' :: m) (.month (decimal y) (decimal m))
  | day {y m d : List Char} (hy : Digits 4 y) (hm : Digits 2 m) (hd : Digits 2 d) :
      Written (y ++ '-' :: m ++ '-' :: d) (.day (decimal y) (decimal m) (decimal d))

/-- **The periods that are read** are those that are written so. -/
theorem ofChars?_eq_some {text : List Char} {period : Period} :
    ofChars? text = some period ↔ Written text period := by
  constructor
  · intro read
    unfold ofChars? at read
    split at read
    · obtain ⟨y, year, read⟩ := Option.bind_eq_some_iff.mp read
      obtain ⟨hy, rfl⟩ := decimal?_eq_some.mp year
      obtain rfl := Option.some.inj read
      exact .year hy
    · obtain ⟨y, year, read⟩ := Option.bind_eq_some_iff.mp read
      obtain ⟨m, month, read⟩ := Option.bind_eq_some_iff.mp read
      obtain ⟨hy, rfl⟩ := decimal?_eq_some.mp year
      obtain ⟨hm, rfl⟩ := decimal?_eq_some.mp month
      obtain rfl := Option.some.inj read
      exact .month hy hm
    · obtain ⟨y, year, read⟩ := Option.bind_eq_some_iff.mp read
      obtain ⟨m, month, read⟩ := Option.bind_eq_some_iff.mp read
      obtain ⟨d, day, read⟩ := Option.bind_eq_some_iff.mp read
      obtain ⟨hy, rfl⟩ := decimal?_eq_some.mp year
      obtain ⟨hm, rfl⟩ := decimal?_eq_some.mp month
      obtain ⟨hd, rfl⟩ := decimal?_eq_some.mp day
      obtain rfl := Option.some.inj read
      exact .day hy hm hd
    · cases read
  · intro written
    cases written with
    | year hy =>
        obtain ⟨a, b, c, d, rfl⟩ := hy.eq_four
        simp [ofChars?, decimal?_of_digits hy]
    | month hy hm =>
        obtain ⟨a, b, c, d, rfl⟩ := hy.eq_four
        obtain ⟨e, f, rfl⟩ := hm.eq_two
        simp [ofChars?, decimal?_of_digits hy, decimal?_of_digits hm]
    | day hy hm hd =>
        obtain ⟨a, b, c, d, rfl⟩ := hy.eq_four
        obtain ⟨e, f, rfl⟩ := hm.eq_two
        obtain ⟨g, h, rfl⟩ := hd.eq_two
        simp [ofChars?, decimal?_of_digits hy, decimal?_of_digits hm, decimal?_of_digits hd]

theorem exists_written {text : List Char} : (∃ period, Written text period) ↔ Shaped text := by
  constructor
  · rintro ⟨period, written⟩
    cases written with
    | year hy => exact .year hy
    | month hy hm => exact .month hy hm
    | day hy hm hd => exact .day hy hm hd
  · intro shaped
    cases shaped with
    | year hy => exact ⟨_, .year hy⟩
    | month hy hm => exact ⟨_, .month hy hm⟩
    | day hy hm hd => exact ⟨_, .day hy hm hd⟩

/-- A date is read exactly if it has one of the three shapes. -/
theorem isSome_ofChars? {text : List Char} : (ofChars? text).isSome ↔ Shaped text := by
  rw [Option.isSome_iff_exists, ← exists_written]
  exact exists_congr fun _ => ofChars?_eq_some

end Period

/-! ## Node matches -/

namespace NodeMatch

/-- The match on nodes of type `word` with one attribute. -/
def withAttribute (word name value : String) : NodeMatch :=
  ⟨word, some (Attributes.empty.insert name value), none⟩

/-- The two ways to type a node match. The value of an attribute does not hold `="`. -/
inductive Typed : List Char → NodeMatch → Prop
  | known {word : List Char} (isword : isWord word) (known : String.ofList word ∈ nodeTypes) :
      Typed word ⟨String.ofList word, none, none⟩
  | attributed {word name value : List Char} (isword : isWord word) (named : name ≠ [])
      (valued : value ≠ []) (last : ¬ ['=', '"'] <:+: value) :
      Typed (word ++ '[' :: (name ++ '=' :: '"' :: value ++ ['"', ']']))
        (withAttribute (String.ofList word) (String.ofList name) (String.ofList value))

theorem bracket_not_mem_of_isWord {text : List Char} (h : isWord text) : '[' ∉ text := by
  intro bracket
  have letters : text ≠ [] ∧ ∀ c ∈ text, isWordChar c := by simpa [isWord] using h
  exact absurd (letters.2 '[' bracket) (by decide)

theorem typed_of_ofAttribute? {word rest : List Char} {node : NodeMatch}
    (h : ofAttribute? word rest = some node) : Typed (word ++ '[' :: rest) node := by
  unfold ofAttribute? at h
  obtain ⟨body, ending, h⟩ := Option.bind_eq_some_iff.mp h
  obtain ⟨⟨name, value⟩, cut, h⟩ := Option.bind_eq_some_iff.mp h
  obtain ⟨⟨isword, named, valued⟩, same⟩ := Option.ite_none_right_eq_some.mp h
  obtain rfl := Option.some.inj same
  rw [eq_append_of_dropEnd? ending, eq_append_of_cutAtLast cut]
  exact .attributed isword named valued (not_infix_of_cutAtLast cut)

/-- **The node matches that are read** are those typed in one of the two ways. -/
theorem ofChars?_eq_some {text : List Char} {node : NodeMatch} :
    ofChars? text = some node ↔ Typed text node := by
  constructor
  · intro read
    unfold ofChars? at read
    split at read
    · rename_i word rest cut
      rw [(eq_append_of_cutAt cut).1]
      exact typed_of_ofAttribute? read
    · obtain ⟨⟨isword, known⟩, same⟩ := Option.ite_none_right_eq_some.mp read
      obtain rfl := Option.some.inj same
      exact .known isword known
  · intro typed
    cases typed with
    | known isword known =>
        rw [ofChars?, cutAt_eq_none.mpr (bracket_not_mem_of_isWord isword)]
        exact if_pos ⟨isword, known⟩
    | @attributed word name value isword named valued last =>
        have cut : cutAtLast '=' '"' (name ++ '=' :: '"' :: value) = some (name, value) :=
          cutAtLast_append name (by decide) last
        rw [ofChars?, cutAt_append _ (bracket_not_mem_of_isWord isword)]
        show ofAttribute? _ _ = _
        rw [ofAttribute?, dropEnd?_append]
        show (cutAtLast _ _ _ >>= _) = _
        rw [cut]
        exact if_pos ⟨isword, named, valued⟩

/-- A known node type alone, or a word with one attribute, whose value does not hold `="`. -/
def WellFormed (node : NodeMatch) : Prop :=
  node.text = none ∧ isWord node.nodeType.toList ∧
    match node.attributes with
    | none => node.nodeType ∈ nodeTypes
    | some attributes =>
      ∃ name value, attributes.entries = [(name, value)] ∧ name ≠ "" ∧ value ≠ "" ∧
        ¬ ['=', '"'] <:+: value.toList

/-- Only well-formed matches are typed. -/
theorem Typed.wellFormed {text : List Char} {node : NodeMatch} (h : Typed text node) :
    node.WellFormed := by
  cases h with
  | @known word isword known =>
      exact ⟨rfl, by rwa [String.toList_ofList], known⟩
  | @attributed word name value isword named valued last =>
      refine ⟨rfl, by rwa [withAttribute, String.toList_ofList], String.ofList name,
        String.ofList value, rfl, ?_, ?_, ?_⟩
      · simpa using named
      · simpa using valued
      · rwa [String.toList_ofList]

theorem eq_insert_of_entries {attributes : Attributes} {name value : String}
    (one : attributes.entries = [(name, value)]) :
    attributes = Attributes.empty.insert name value := by
  obtain ⟨entries, sorted⟩ := attributes
  obtain rfl : entries = [(name, value)] := one
  rfl

theorem render_withAttribute (word name value : String) :
    (withAttribute word name value).render.toList =
      word.toList ++ '[' :: (name.toList ++ '=' :: '"' :: value.toList ++ ['"', ']']) := by
  simp [render, withAttribute, Attributes.insert, Attributes.empty, insertEntry]

/-- **A well-formed match is typed as it is written.** -/
theorem WellFormed.typed {node : NodeMatch} (h : node.WellFormed) :
    Typed node.render.toList node := by
  obtain ⟨word, attributes, text⟩ := node
  obtain ⟨rfl, isword, rest⟩ := h
  cases attributes with
  | none =>
      have typed := Typed.known isword (by rwa [String.ofList_toList])
      rwa [String.ofList_toList] at typed
  | some attributes =>
      obtain ⟨name, value, one, named, valued, last⟩ := rest
      obtain rfl := eq_insert_of_entries one
      have named' : name.toList ≠ [] := by simpa using named
      have valued' : value.toList ≠ [] := by simpa using valued
      have typed := Typed.attributed isword named' valued' last
      rw [← render_withAttribute] at typed
      simp only [String.ofList_toList] at typed
      exact typed

end NodeMatch

/-! ## Heading focuses -/

namespace HeadingFocus

/-- The text of a heading: number signs, a blank, and the rest. -/
def signed (n : Nat) (rest : List Char) : List Char :=
  List.replicate n '#' ++ ' ' :: rest

/-- A heading whose text begins with number signs and a blank, as many as its depth says; more than
six count as one. -/
def WellFormed (focus : HeadingFocus) : Prop :=
  focus.nodeType = headingType ∧
    ∃ n rest, 0 < n ∧ focus.content.toList = signed n rest ∧
      focus.depth = (HeadingDepth.ofLevel? n).getD .h1

theorem takeWhile_signed (n : Nat) (rest : List Char) :
    (signed n rest).takeWhile (· = '#') = List.replicate n '#' := by
  unfold signed
  rw [List.takeWhile_append_of_pos (by simp)]
  simp

theorem ofChars_signed {n : Nat} (pos : 0 < n) (rest : List Char) :
    ofChars (signed n rest) =
      ⟨headingType, String.ofList (signed n rest), (HeadingDepth.ofLevel? n).getD .h1⟩ := by
  have some_sign : List.replicate n '#' ≠ [] := by simp [Nat.ne_of_gt pos]
  simp only [ofChars]
  rw [takeWhile_signed, if_pos ⟨some_sign, by simp [signed]⟩, List.length_replicate]

/-- What a text looks like that is taken for a heading. -/
theorem exists_signed {text : List Char} (signs : text.takeWhile (· = '#') ≠ [])
    (blank : (text.drop (text.takeWhile (· = '#')).length).head? = some ' ') :
    ∃ n rest, 0 < n ∧ text = signed n rest := by
  have parts := List.takeWhile_append_dropWhile (p := (· = '#')) (l := text)
  have run := takeWhile_eq_replicate '#' text
  generalize text.takeWhile (· = '#') = front at *
  generalize text.dropWhile (· = '#') = back at *
  subst parts
  rw [List.drop_left] at blank
  cases back with
  | nil => cases blank
  | cons c rest =>
      obtain rfl : c = ' ' := Option.some.inj blank
      refine ⟨front.length, rest, List.length_pos_iff.mpr signs, ?_⟩
      rw [signed, ← run]

/-- Reading makes well-formed focuses only. -/
theorem wellFormed_ofChars (text : List Char) : (ofChars text).WellFormed := by
  by_cases heading : ∃ n rest, 0 < n ∧ text = signed n rest
  · obtain ⟨n, rest, pos, rfl⟩ := heading
    rw [ofChars_signed pos]
    exact ⟨rfl, n, rest, pos, String.toList_ofList, rfl⟩
  · simp only [ofChars]
    split
    · rename_i signs
      exact absurd (exists_signed signs.1 signs.2) heading
    · exact ⟨rfl, 1, text, Nat.one_pos, by simp [signed], rfl⟩

/-- **Well-formed focuses are read back.** -/
theorem ofChars_content {focus : HeadingFocus} (h : focus.WellFormed) :
    ofChars focus.content.toList = focus := by
  obtain ⟨nodeType, content, depth⟩ := focus
  obtain ⟨rfl, n, rest, pos, signs, rfl⟩ := h
  simp only at signs ⊢
  rw [signs, ofChars_signed pos, ← signs, String.ofList_toList]

end HeadingFocus

end FacetSearch
