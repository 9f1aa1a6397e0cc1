import FacetSearch.Term
import FacetSearch.Proofs.Tag.Normal
import FacetSearch.Proofs.Term.Value

/-!
# Terms that are read back

Not every term can be typed. A term of a field needs a value, a tag has to be in normal form, and the
dates, node matches and heading focuses have shapes of their own. The terms that satisfy this are
exactly those that are read back from what is written of them.

Whatever is read is such a term, with one exception: a tag in front of which a removed colon has
brought a number sign.
-/

namespace FacetSearch

open Text

theorem Facet.ofLabel?_label (facet : Facet) : ofLabel? facet.label.toList = some facet := by
  rcases facet with field | slot
  · cases field <;> decide
  · cases slot <;> decide

namespace Term

/-! ## The two sides of the colon -/

section Colon

variable (term : Term)

/-- What is written before the colon. -/
def labelText : List Char :=
  (if term.isExcluded then ['-'] else []) ++ term.facet.label.toList

theorem toList_render :
    term.render.toList = term.labelText ++ ':' :: term.valueText.toList := by
  unfold render labelText
  split <;> simp

theorem colon_not_mem_labelText : ':' ∉ term.labelText := by
  have label : ':' ∉ term.facet.label.toList := by
    rcases term.facet with field | slot
    · cases field <;> decide
    · cases slot <;> decide
  unfold labelText
  split <;> simpa using label

theorem cutAt_render :
    cutAt ':' term.render.toList = some (term.labelText, term.valueText.toList) := by
  rw [toList_render, cutAt_append _ term.colon_not_mem_labelText]

theorem ofLabel?_labelText : ofLabel? term.labelText = some (term.isExcluded, term.facet) := by
  have label := Facet.ofLabel?_label term.facet
  unfold labelText
  cases term.isExcluded with
  | true => simp [ofLabel?, label]
  | false =>
      -- No label begins with a minus sign.
      have unsigned : ∀ name, term.facet.label.toList ≠ '-' :: name := by
        intro name
        rcases term.facet with field | slot
        · cases field <;> simp [Facet.label]
        · cases slot <;> simp [Facet.label]
      simp only [Bool.false_eq_true, if_false, List.nil_append]
      rw [ofLabel?.eq_2 _ unsigned, label]
      rfl

theorem parse?_render :
    parse? term.render = (ofValue? term.facet term.valueText.toList).bind fun read =>
      if term.isExcluded then read.exclude? else some read := by
  rw [parse?, ofChars?, cutAt_render]
  show (ofLabel? _ >>= _) = _
  rw [ofLabel?_labelText]
  rfl

/-- What is written of a term says whether it excludes, which facet it is of, and the text of its
value. -/
theorem parts_of_render_eq {a b : Term} (same : a.render = b.render) :
    a.isExcluded = b.isExcluded ∧ a.facet = b.facet ∧ a.valueText = b.valueText := by
  obtain ⟨label, value⟩ : a.labelText = b.labelText ∧ a.valueText.toList = b.valueText.toList := by
    have cut := a.cutAt_render
    rw [same, b.cutAt_render] at cut
    injection cut with cut
    injection cut with label value
    exact ⟨label.symm, value.symm⟩
  have read := a.ofLabel?_labelText
  rw [label, b.ofLabel?_labelText] at read
  injection read with read
  injection read with excluded facet
  exact ⟨excluded.symm, facet.symm, String.toList_inj.mp value⟩

end Colon

/-! ## Values read -/

/-- The term without its minus sign. -/
def plain : Term → Term
  | matching field value _ => matching field value false
  | term => term

theorem valueText_plain {term : Term} : term.plain.valueText = term.valueText := by
  cases term <;> rfl

/-- What a typed value means for a facet. -/
def Meant (value : List Char) (term : Term) : Facet → Prop
  | .field .tag =>
    ∃ tag, Tag.normalize? value = some tag ∧ term = matching .tag (String.ofList tag) false
  | .field field => value ≠ [] ∧ term = matching field (String.ofList value) false
  | .slot .before => value ≠ [] ∧ term = cursor (String.ofList value)
  | .slot .date => Period.Shaped value ∧ term = date (String.ofList value)
  | .slot .node => ∃ pattern, NodeMatch.Typed value pattern ∧ term = node pattern
  | .slot .heading => value ≠ [] ∧ term = heading (HeadingFocus.ofChars value)

-- Tags, dates and node matches are read from no empty text anyway, so it need not be asked for.

theorem ofValue?_tag (value : List Char) :
    ofValue? (.field .tag) value =
      (Tag.normalize? value).map fun tag => matching .tag (String.ofList tag) false := by
  cases value <;> rfl

theorem ofValue?_date (value : List Char) :
    ofValue? (.slot .date) value =
      (Period.ofChars? value).map fun _ => date (String.ofList value) := by
  cases value <;> rfl

theorem ofValue?_node (value : List Char) :
    ofValue? (.slot .node) value = (NodeMatch.ofChars? value).map node := by
  cases value <;> rfl

theorem ofValue?_eq_some {facet : Facet} {value : List Char} {term : Term} :
    ofValue? facet value = some term ↔ Meant value term facet := by
  rcases facet with field | slot
  · cases field with
    | journal => simp [ofValue?, Meant, eq_comm]
    | tag =>
        rw [ofValue?_tag, Option.map_eq_some_iff]
        simp [Meant, eq_comm (a := term)]
    | title => simp [ofValue?, Meant, eq_comm]
    | text => simp [ofValue?, Meant, eq_comm]
  · cases slot with
    | before => simp [ofValue?, Meant, eq_comm]
    | date =>
        rw [ofValue?_date, Option.map_eq_some_iff, Meant, ← Period.isSome_ofChars?,
          Option.isSome_iff_exists]
        simp [eq_comm (a := term)]
    | node =>
        rw [ofValue?_node, Option.map_eq_some_iff]
        simp [Meant, NodeMatch.ofChars?_eq_some, eq_comm (a := term)]
    | heading => simp [ofValue?, Meant, eq_comm]

/-- A value that is read belongs to the facet it was read for, and excludes nothing. -/
theorem ofValue?_facet {facet : Facet} {value : List Char} {term : Term}
    (h : ofValue? facet value = some term) : term.facet = facet ∧ term.plain = term := by
  rw [ofValue?_eq_some] at h
  unfold Meant at h
  split at h
  · obtain ⟨_, -, rfl⟩ := h
    exact ⟨rfl, rfl⟩
  · obtain ⟨-, rfl⟩ := h
    exact ⟨rfl, rfl⟩
  · obtain ⟨-, rfl⟩ := h
    exact ⟨rfl, rfl⟩
  · obtain ⟨-, rfl⟩ := h
    exact ⟨rfl, rfl⟩
  · obtain ⟨_, -, rfl⟩ := h
    exact ⟨rfl, rfl⟩
  · obtain ⟨-, rfl⟩ := h
    exact ⟨rfl, rfl⟩

/-- Reading a minus sign changes neither the facet nor what the sign stands in front of. -/
theorem plain_of_signed {excluded : Bool} {read term : Term}
    (h : (if excluded then read.exclude? else some read) = some term) :
    term.facet = read.facet ∧ term.plain = read.plain := by
  cases excluded with
  | false =>
      obtain rfl := Option.some.inj h
      exact ⟨rfl, rfl⟩
  | true =>
      cases read with
      | matching field value excluded =>
          obtain rfl := Option.some.inj h
          exact ⟨rfl, rfl⟩
      | cursor id => cases h
      | date text => cases h
      | node pattern => cases h
      | heading focus => cases h

theorem signed_plain (term : Term) :
    (if term.isExcluded then term.plain.exclude? else some term.plain) = some term := by
  cases term with
  | matching field value excluded => cases excluded <;> rfl
  | cursor id => rfl
  | date text => rfl
  | node pattern => rfl
  | heading focus => rfl

/-- The minus sign apart, a term is read as a value of its facet. -/
theorem exists_ofValue?_of_parse? {raw : String} {term : Term} (h : parse? raw = some term) :
    ∃ value, ofValue? term.facet value = some term.plain := by
  unfold parse? ofChars? at h
  split at h
  · obtain ⟨same, plain⟩ := ofValue?_facet h
    exact ⟨raw.toList, by rw [same, plain, h]⟩
  · rename_i label value _
    obtain ⟨⟨excluded, facet⟩, -, h⟩ := Option.bind_eq_some_iff.mp h
    obtain ⟨read, hread, signed⟩ := Option.bind_eq_some_iff.mp h
    obtain ⟨same, plain⟩ := plain_of_signed signed
    obtain ⟨same', plain'⟩ := ofValue?_facet hread
    exact ⟨value, by rw [same, same', plain, plain', hread]⟩

/-- What is read of a written term is, the minus sign apart, a value of its facet. -/
theorem ofValue?_of_parse?_render {term read : Term} (h : parse? term.render = some read) :
    ofValue? term.facet term.valueText.toList = some read.plain := by
  rw [parse?_render] at h
  obtain ⟨value, hvalue, signed⟩ := Option.bind_eq_some_iff.mp h
  rw [(plain_of_signed signed).2, (ofValue?_facet hvalue).2, hvalue]

theorem parse?_render_of_ofValue? {term : Term}
    (h : ofValue? term.facet term.valueText.toList = some term.plain) :
    parse? term.render = some term := by
  rw [parse?_render, h]
  exact signed_plain term

/-! ## Well-formed terms -/

/-- The terms that can be typed. -/
def WellFormed : Term → Prop
  | matching .tag value _ => Tag.Normal value.toList
  | matching _ value _ => value ≠ ""
  | cursor id => id ≠ ""
  | date text => Period.Shaped text.toList
  | node pattern => pattern.WellFormed
  | heading focus => focus.WellFormed

theorem wellFormed_plain {term : Term} : term.plain.WellFormed ↔ term.WellFormed := by
  cases term with
  | matching field value excluded => cases field <;> rfl
  | cursor id => rfl
  | date text => rfl
  | node pattern => rfl
  | heading focus => rfl

/-- A value that says itself what it means belongs to a well-formed term. -/
theorem meant_iff_wellFormed (term : Term) :
    Meant term.valueText.toList term.plain term.facet ↔ term.WellFormed := by
  cases term with
  | matching field value excluded =>
      cases field with
      | journal => simp [facet, valueText, plain, Meant, WellFormed]
      | title => simp [facet, valueText, plain, Meant, WellFormed]
      | text => simp [facet, valueText, plain, Meant, WellFormed]
      | tag =>
          rw [WellFormed, ← Tag.normalize?_eq_self_iff]
          constructor
          · rintro ⟨tag, normal, same⟩
            injection same with _ same _
            obtain rfl : tag = value.toList := by rw [same, String.toList_ofList]
            exact normal
          · intro normal
            exact ⟨value.toList, normal, by rw [String.ofList_toList]; rfl⟩
  | cursor id => simp [facet, valueText, plain, Meant, WellFormed]
  | date text => simp [facet, valueText, plain, Meant, WellFormed]
  | node pattern =>
      constructor
      · rintro ⟨_, typed, same⟩
        injection same with same
        exact same ▸ typed.wellFormed
      · intro wellFormed
        exact ⟨pattern, wellFormed.typed, rfl⟩
  | heading focus =>
      constructor
      · rintro ⟨-, same⟩
        injection same with same
        exact same ▸ HeadingFocus.wellFormed_ofChars _
      · intro wellFormed
        have back := HeadingFocus.ofChars_content wellFormed
        obtain ⟨-, n, rest, -, signs, -⟩ := wellFormed
        refine ⟨?_, congrArg heading back.symm⟩
        show focus.content.toList ≠ []
        rw [signs]
        simp [HeadingFocus.signed]

theorem WellFormed.parse?_render {term : Term} (h : term.WellFormed) :
    parse? term.render = some term :=
  parse?_render_of_ofValue? (ofValue?_eq_some.mpr ((meant_iff_wellFormed term).mpr h))

theorem wellFormed_of_parse?_render {term : Term} (h : parse? term.render = some term) :
    term.WellFormed :=
  (meant_iff_wellFormed term).mp (ofValue?_eq_some.mp (ofValue?_of_parse?_render h))

/-- **The terms that are read back** from what is written of them are the well-formed ones. -/
theorem parse?_render_eq_some_iff (term : Term) :
    parse? term.render = some term ↔ term.WellFormed :=
  ⟨wellFormed_of_parse?_render, WellFormed.parse?_render⟩

/-! ## Terms that have been read -/

/-- A tag whose value begins with a number sign. -/
def Marked (term : Term) : Prop :=
  term.facet = .field .tag ∧ term.valueText.toList.head? = some '#'

theorem marked_plain {term : Term} : term.plain.Marked ↔ term.Marked := by
  cases term <;> rfl

theorem marked_congr {a b : Term} (same : a.render = b.render) : a.Marked ↔ b.Marked := by
  obtain ⟨-, facet, value⟩ := parts_of_render_eq same
  rw [Marked, Marked, facet, value]

/-- Of the values that are read, all but the marked tags are well-formed. -/
theorem wellFormed_of_ofValue? {facet : Facet} {value : List Char} {term : Term}
    (h : ofValue? facet value = some term) : term.WellFormed ↔ ¬ term.Marked := by
  rw [ofValue?_eq_some] at h
  unfold Meant at h
  split at h
  · obtain ⟨tag, normal, rfl⟩ := h
    simp only [WellFormed, Marked, facet, valueText, String.toList_ofList, true_and]
    exact Tag.normal_of_normalize? normal
  · rename_i field other
    obtain ⟨some_value, rfl⟩ := h
    cases field with
    | tag => exact absurd rfl other
    | journal => simp [WellFormed, Marked, facet, some_value]
    | title => simp [WellFormed, Marked, facet, some_value]
    | text => simp [WellFormed, Marked, facet, some_value]
  · obtain ⟨some_value, rfl⟩ := h
    simp [WellFormed, Marked, facet, some_value]
  · obtain ⟨shaped, rfl⟩ := h
    simp [WellFormed, Marked, facet, shaped]
  · obtain ⟨pattern, typed, rfl⟩ := h
    simp [WellFormed, Marked, facet, typed.wellFormed]
  · obtain ⟨-, rfl⟩ := h
    simp [WellFormed, Marked, facet, HeadingFocus.wellFormed_ofChars]

/-- **Of the terms that are read**, all but the marked tags are read back. -/
theorem wellFormed_of_parse? {raw : String} {term : Term} (h : parse? raw = some term) :
    term.WellFormed ↔ ¬ term.Marked := by
  obtain ⟨value, read⟩ := exists_ofValue?_of_parse? h
  rw [← wellFormed_plain, ← marked_plain]
  exact wellFormed_of_ofValue? read

/-- A marked tag is made of the parts that are written of it. -/
theorem Marked.eq_matching {term : Term} (h : term.Marked) :
    term = matching .tag term.valueText term.isExcluded := by
  cases term with
  | matching field value excluded =>
      obtain rfl : field = .tag := Facet.field.inj h.1
      rfl
  | cursor id => cases h.1
  | date text => cases h.1
  | node pattern => cases h.1
  | heading focus => cases h.1

/-- **Terms that have been read are told apart by what is written of them.** All but the marked tags
are read back from it, and a marked tag holds no more than what is written. -/
theorem eq_of_render_eq {raw raw' : String} {a b : Term} (ha : parse? raw = some a)
    (hb : parse? raw' = some b) (same : a.render = b.render) : a = b := by
  by_cases marked : a.Marked
  · obtain ⟨excluded, -, value⟩ := parts_of_render_eq same
    rw [marked.eq_matching, ((marked_congr same).mp marked).eq_matching, excluded, value]
  · have unmarked : ¬ b.Marked := fun other => marked ((marked_congr same).mpr other)
    have back := ((wellFormed_of_parse? ha).mpr marked).parse?_render
    rw [same, ((wellFormed_of_parse? hb).mpr unmarked).parse?_render] at back
    exact (Option.some.inj back).symm

/-- What a term that has been read is read as once more is no marked tag. -/
theorem not_marked_of_parse?_render {raw : String} {once twice : Term}
    (first : parse? raw = some once) (second : parse? once.render = some twice) :
    ¬ twice.Marked := by
  obtain ⟨value, first⟩ := exists_ofValue?_of_parse? first
  have second := ofValue?_of_parse?_render second
  rw [← marked_plain]
  intro marked
  obtain ⟨tagged, sign⟩ := marked
  rw [(ofValue?_facet second).1] at tagged
  rw [tagged, ofValue?_eq_some] at first second
  obtain ⟨tag, normalized, first⟩ := first
  obtain ⟨again, normalized_again, second⟩ := second
  rw [← valueText_plain, first, valueText, String.toList_ofList] at normalized_again
  rw [second, valueText, String.toList_ofList] at sign
  exact (Tag.normal_of_normalize?_twice normalized normalized_again).unmarked sign

end Term

end FacetSearch
