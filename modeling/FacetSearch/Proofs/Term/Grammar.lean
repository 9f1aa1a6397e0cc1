import FacetSearch.Proofs.Term.RoundTrip

/-!
# What may be typed for a term

A text without a colon is looked for as it stands. Any other text is cut at its first colon. Before
it stands the label of a facet, in capitals or not, and a minus sign in front of it if a value of a
field is excluded; behind it stands a value of that facet. The texts of these shapes are read, and
no others.

Nothing of them is lost. What is written of the term is the text again, with its label in lower
case. Only a tag is written in its normal form, and only a heading that was typed without number
signs gets one.
-/

namespace FacetSearch

open Text

/-! ## Values -/

/-- A tag can be made of every text that has more than colons behind its number signs. -/
theorem Tag.exists_normalize? {raw : List Char} :
    (∃ tag, normalize? raw = some tag) ↔ ∃ c ∈ raw.dropWhile (· = '#'), c ≠ ':' := by
  have lowered : ∀ kept : List Char,
      ((kept.map joint).flatMap lowerCase).take maxLength = [] ↔ kept = [] := by
    intro kept
    cases kept with
    | nil => simp
    | cons c rest => simp [maxLength, lowerCase_ne_nil]
  simp only [normalize?, Option.ite_none_left_eq_some, lowered, exists_and_left]
  rw [List.filter_eq_nil_iff]
  simp

namespace NodeMatch

/-- A known node type, or a word with one attribute, whose value does not hold `="`. -/
inductive Shaped : List Char → Prop
  | known {text : List Char} (known : String.ofList text ∈ nodeTypes) : Shaped text
  | attributed {word name value : List Char} (isword : isWord word) (named : name ≠ [])
      (valued : value ≠ []) (last : ¬ ['=', '"'] <:+: value) :
      Shaped (word ++ '[' :: (name ++ '=' :: '"' :: value ++ ['"', ']']))

theorem isWord_of_mem_nodeTypes : ∀ word ∈ nodeTypes, isWord word.toList := by
  decide +kernel

theorem exists_typed {text : List Char} : (∃ node, Typed text node) ↔ Shaped text := by
  constructor
  · rintro ⟨node, typed⟩
    cases typed with
    | known isword known => exact .known known
    | attributed isword named valued last => exact .attributed isword named valued last
  · intro shaped
    cases shaped with
    | known known =>
        have isword := isWord_of_mem_nodeTypes _ known
        rw [String.toList_ofList] at isword
        exact ⟨_, .known isword known⟩
    | attributed isword named valued last => exact ⟨_, .attributed isword named valued last⟩

/-- A node match is written as it was typed. -/
theorem Typed.render {text : List Char} {node : NodeMatch} (h : Typed text node) :
    node.render.toList = text := by
  cases h with
  | known isword known => exact String.toList_ofList
  | attributed isword named valued last =>
      rw [render_withAttribute]
      simp only [String.toList_ofList]

end NodeMatch

namespace HeadingFocus

/-- The text begins with number signs, one or more, and right behind them stands a blank. -/
def isSigned (text : List Char) : Bool :=
  text.head? = some '#' && (text.dropWhile (· = '#')).head? = some ' '

/-- A heading is written as it was typed, with a number sign in front if it had none. -/
theorem toList_content_ofChars (text : List Char) :
    (ofChars text).content.toList = if isSigned text then text else '#' :: ' ' :: text := by
  have front : text.takeWhile (· = '#') ≠ [] ↔ text.head? = some '#' := by
    cases text with
    | nil => simp
    | cons c rest => by_cases sign : c = '#' <;> simp [sign]
  have behind : text.drop (text.takeWhile (· = '#')).length = text.dropWhile (· = '#') := by
    have parts := List.takeWhile_append_dropWhile (p := (· = '#')) (l := text)
    calc text.drop (text.takeWhile (· = '#')).length
        = (text.takeWhile (· = '#') ++ text.dropWhile (· = '#')).drop
            (text.takeWhile (· = '#')).length := by rw [parts]
      _ = text.dropWhile (· = '#') := List.drop_left
  simp only [ofChars, isSigned, front, behind, Bool.and_eq_true, decide_eq_true_eq]
  split
  · exact String.toList_ofList
  · simp

end HeadingFocus

namespace Facet

/-- The texts that can be typed as a value of a facet. -/
def Takes (value : List Char) : Facet → Prop
  | .field .tag => ∃ c ∈ value.dropWhile (· = '#'), c ≠ ':'
  | .slot .date => Period.Shaped value
  | .slot .node => NodeMatch.Shaped value
  | _ => value ≠ []

/-- What is written of a value that was typed. -/
def written (value : List Char) : Facet → List Char
  | .field .tag => (Tag.normalize? value).getD []
  | .slot .heading => if HeadingFocus.isSigned value then value else '#' :: ' ' :: value
  | _ => value

/-- The label of a facet, in capitals or not. -/
def Named (name : List Char) (facet : Facet) : Prop :=
  name.map Char.toLower = facet.label.toList

theorem ofLabel?_eq_some {name : List Char} {facet : Facet} :
    ofLabel? name = some facet ↔ Named name facet := by
  constructor
  · intro read
    have label := List.find?_some read
    exact (of_decide_eq_true label).symm
  · intro named
    have lower : facet.label.toList.map Char.toLower = facet.label.toList := by
      rcases facet with field | slot
      · cases field <;> decide
      · cases slot <;> decide
    have read := ofLabel?_label facet
    unfold ofLabel? at read ⊢
    rwa [named, ← lower]

/-- A name of a facet has letters only, so it holds neither a colon nor a minus sign. -/
theorem Named.not_mem {name : List Char} {facet : Facet} (named : Named name facet) :
    ':' ∉ name ∧ '-' ∉ name := by
  have letters : ':' ∉ facet.label.toList ∧ '-' ∉ facet.label.toList := by
    rcases facet with field | slot
    · cases field <;> decide
    · cases slot <;> decide
  rw [← named] at letters
  exact ⟨fun colon => letters.1 (List.mem_map.mpr ⟨':', colon, rfl⟩),
    fun minus => letters.2 (List.mem_map.mpr ⟨'-', minus, rfl⟩)⟩

end Facet

namespace Term

open Facet (Named Takes written)

theorem exists_ofValue? {facet : Facet} {value : List Char} :
    (∃ term, ofValue? facet value = some term) ↔ facet.Takes value := by
  simp only [ofValue?_eq_some]
  rcases facet with field | slot
  · cases field with
    | journal => simp [Meant, Takes]
    | tag =>
        rw [Takes, ← Tag.exists_normalize?]
        constructor
        · rintro ⟨_, tag, normal, -⟩
          exact ⟨tag, normal⟩
        · rintro ⟨tag, normal⟩
          exact ⟨_, tag, normal, rfl⟩
    | title => simp [Meant, Takes]
    | text => simp [Meant, Takes]
  · cases slot with
    | before => simp [Meant, Takes]
    | date => simp [Meant, Takes]
    | node =>
        rw [Takes, ← NodeMatch.exists_typed]
        constructor
        · rintro ⟨_, pattern, typed, -⟩
          exact ⟨pattern, typed⟩
        · rintro ⟨pattern, typed⟩
          exact ⟨_, pattern, typed, rfl⟩
    | heading => simp [Meant, Takes]

/-- What is written of a value that was read. -/
theorem toList_valueText_of_ofValue? {facet : Facet} {value : List Char} {term : Term}
    (h : ofValue? facet value = some term) : term.valueText.toList = facet.written value := by
  rw [ofValue?_eq_some] at h
  unfold Meant at h
  split at h
  · obtain ⟨tag, normal, rfl⟩ := h
    rw [valueText, String.toList_ofList, written, normal]
    rfl
  · rename_i field other
    obtain ⟨-, rfl⟩ := h
    cases field with
    | tag => exact absurd rfl other
    | journal => exact String.toList_ofList
    | title => exact String.toList_ofList
    | text => exact String.toList_ofList
  · obtain ⟨-, rfl⟩ := h
    exact String.toList_ofList
  · obtain ⟨-, rfl⟩ := h
    exact String.toList_ofList
  · obtain ⟨pattern, typed, rfl⟩ := h
    exact typed.render
  · obtain ⟨-, rfl⟩ := h
    exact HeadingFocus.toList_content_ofChars value

theorem toList_render_of_ofValue? {facet : Facet} {value : List Char} {term : Term}
    (h : ofValue? facet value = some term) :
    term.render.toList = facet.label.toList ++ ':' :: facet.written value := by
  obtain ⟨same, plain⟩ := ofValue?_facet h
  have unsigned : term.isExcluded = false := by
    rw [← plain]
    cases term <;> rfl
  rw [toList_render, labelText, unsigned, same, toList_valueText_of_ofValue? h]
  rfl

/-- A value of a field can be excluded, and is written behind a minus sign then. -/
theorem exists_exclude? {field : Field} {value : List Char} {read : Term}
    (h : ofValue? (.field field) value = some read) :
    ∃ term, read.exclude? = some term ∧ term.render.toList =
      '-' :: (Facet.field field).label.toList ++ ':' :: (Facet.field field).written value := by
  have same := (ofValue?_facet h).1
  have text := toList_valueText_of_ofValue? h
  cases read with
  | matching named name sign =>
      obtain rfl : named = field := Facet.field.inj same
      refine ⟨matching named name true, rfl, ?_⟩
      rw [toList_render, ← text]
      rfl
  | cursor id => cases same
  | date text => cases same
  | node pattern => cases same
  | heading focus => cases same

/-! ## Labels -/

theorem ofLabel?_eq_some {label : List Char} {excluded : Bool} {facet : Facet} :
    ofLabel? label = some (excluded, facet) ↔
      if excluded then ∃ name, label = '-' :: name ∧ Named name facet else Named label facet := by
  by_cases signed : ∃ name, label = '-' :: name
  · obtain ⟨name, rfl⟩ := signed
    have unnamed : ¬ Named ('-' :: name) facet := fun named => named.not_mem.2 List.mem_cons_self
    simp only [ofLabel?, Option.map_eq_some_iff, Facet.ofLabel?_eq_some]
    cases excluded <;> simp [unnamed]
  · rw [not_exists] at signed
    rw [ofLabel?.eq_2 _ signed, Option.map_eq_some_iff]
    cases excluded <;> simp [signed, Facet.ofLabel?_eq_some]

/-! ## Terms -/

/-- The texts that can be typed for a term, each with what is written of the term. -/
inductive Spelled : List Char → List Char → Prop
  | bare {text : List Char} (nonempty : text ≠ []) (uncut : ':' ∉ text) :
      Spelled text ("text:".toList ++ text)
  | wanted {facet : Facet} {name value : List Char} (named : Named name facet)
      (taken : facet.Takes value) :
      Spelled (name ++ ':' :: value) (facet.label.toList ++ ':' :: facet.written value)
  | excluded {field : Field} {name value : List Char} (named : Named name (.field field))
      (taken : (Facet.field field).Takes value) :
      Spelled ('-' :: name ++ ':' :: value)
        ('-' :: (Facet.field field).label.toList ++ ':' :: (Facet.field field).written value)

/-- What is read is spelled. -/
theorem spelled_of_ofChars? {raw : List Char} {term : Term} (h : ofChars? raw = some term) :
    Spelled raw term.render.toList := by
  unfold ofChars? at h
  split at h
  · rename_i cut
    rw [toList_render_of_ofValue? h]
    exact .bare (exists_ofValue?.mp ⟨term, h⟩) (cutAt_eq_none.mp cut)
  · rename_i label value cut
    obtain ⟨⟨excluded, facet⟩, hlabel, h⟩ := Option.bind_eq_some_iff.mp h
    obtain ⟨read, hread, signed⟩ := Option.bind_eq_some_iff.mp h
    have taken := exists_ofValue?.mp ⟨read, hread⟩
    rw [(eq_append_of_cutAt cut).1]
    rw [ofLabel?_eq_some] at hlabel
    cases excluded with
    | false =>
        obtain rfl := Option.some.inj signed
        rw [toList_render_of_ofValue? hread]
        exact .wanted hlabel taken
    | true =>
        obtain ⟨name, rfl, named⟩ := hlabel
        cases facet with
        | field field =>
            obtain ⟨other, signed', written⟩ := exists_exclude? hread
            obtain rfl : other = term := Option.some.inj (signed'.symm.trans signed)
            rw [written]
            exact .excluded named taken
        | slot slot =>
            -- Nothing can be excluded there.
            have same := (ofValue?_facet hread).1
            cases read with
            | matching field value excluded => cases same
            | cursor id => cases signed
            | date text => cases signed
            | node pattern => cases signed
            | heading focus => cases signed

/-- What is spelled is read. -/
theorem Spelled.exists_ofChars? {raw written : List Char} (h : Spelled raw written) :
    ∃ term, ofChars? raw = some term ∧ term.render.toList = written := by
  cases h with
  | bare nonempty uncut =>
      have taken : (Facet.field .text).Takes raw := nonempty
      obtain ⟨term, read⟩ := exists_ofValue?.mpr taken
      refine ⟨term, ?_, toList_render_of_ofValue? read⟩
      rw [ofChars?, cutAt_eq_none.mpr uncut]
      exact read
  | @wanted facet name value named taken =>
      obtain ⟨term, read⟩ := exists_ofValue?.mpr taken
      have label : ofLabel? name = some (false, facet) := ofLabel?_eq_some.mpr named
      refine ⟨term, ?_, toList_render_of_ofValue? read⟩
      rw [ofChars?, cutAt_append _ named.not_mem.1]
      show (ofLabel? _ >>= _) = _
      rw [label]
      show (ofValue? _ _ >>= _) = _
      rw [read]
      rfl
  | @excluded field name value named taken =>
      obtain ⟨read, hread⟩ := exists_ofValue?.mpr taken
      obtain ⟨term, signed, written⟩ := exists_exclude? hread
      have label : ofLabel? ('-' :: name) = some (true, .field field) :=
        ofLabel?_eq_some.mpr ⟨name, rfl, named⟩
      have uncut : ':' ∉ '-' :: name := by simpa using named.not_mem.1
      refine ⟨term, ?_, written⟩
      rw [ofChars?, cutAt_append _ uncut]
      show (ofLabel? _ >>= _) = _
      rw [label]
      show (ofValue? _ _ >>= _) = _
      rw [hread]
      exact signed

/-- **The texts that are read** are those that are spelled as terms, and what is written of the term
is what is spelled: the text itself, with its label in lower case, a tag in its normal form, and a
number sign in front of a heading that had none. -/
theorem exists_parse?_iff_spelled (raw written : String) :
    (∃ term, parse? raw = some term ∧ term.render = written) ↔
      Spelled raw.toList written.toList := by
  constructor
  · rintro ⟨term, read, rfl⟩
    exact spelled_of_ofChars? read
  · intro spelled
    obtain ⟨term, read, written⟩ := spelled.exists_ofChars?
    exact ⟨term, read, String.toList_inj.mp written⟩

end Term

end FacetSearch
