import FacetSearch.Proofs.Query.Lists
import FacetSearch.Proofs.Selection.Edit

/-!
# What a selection shows and what it asks for

The terms of a selection are read in two ways: value by value, to be shown, and as a whole, to make
a query. The two go by different rules. The one takes the first term of a slot, the other the last;
the one shows every journal that is named, the other passes over those that the directory does not
know. In a selection that edits have led to they agree all the same, because no slot is filled twice
there and no journal is unknown. Otherwise a journal might be shown that is not searched for; and a
query that names no journal at all searches in every one.
-/

namespace FacetSearch

theorem Terms.slotValue?_date_eq_none {terms : List Term} :
    slotValue? .date terms = none ↔ ∀ text, .date text ∉ terms := by
  unfold slotValue?
  constructor
  · intro empty text there
    cases found : terms.find? (·.facet = .slot .date) with
    | none => exact List.find?_eq_none.mp found _ there (decide_eq_true rfl)
    | some term =>
        have fills : term.facet = .slot .date := by simpa using List.find?_some found
        obtain ⟨text, rfl⟩ : ∃ text, term = .date text := by cases term <;> simp_all [Term.facet]
        rw [found] at empty
        cases empty
  · intro absent
    have none_there : terms.find? (·.facet = .slot .date) = none := by
      rw [List.find?_eq_none]
      intro term hterm
      cases term with
      | date text => exact absurd hterm (absent text)
      | matching field value excluded => simp [Term.facet]
      | cursor id => simp [Term.facet]
      | node pattern => simp [Term.facet]
      | heading focus => simp [Term.facet]
    rw [none_there]
    rfl

namespace Query

/-! ## Lists under a directory that admits the terms -/

section Admitted

variable {directory : Directory} {limit : UInt64} {terms : List Term} {field : Field}
  {excluded : Bool}

theorem mem_values {value : String} :
    value ∈ (ofTerms directory limit terms).values field excluded ↔
      ∃ name, .matching field name excluded ∈ terms ∧
        directory.resolve? field name = some value := by
  simp only [values_eq_resolved, List.mem_filterMap, Terms.mem_named]

theorem isSome_resolve? (admitted : Selection.known directory terms = terms) {name : String}
    (there : .matching field name excluded ∈ terms) : (directory.resolve? field name).isSome := by
  cases field with
  | journal => exact List.filter_eq_self.mp admitted _ there
  | tag => rfl
  | title => rfl
  | text => rfl

/-- **No value is lost**: each value named is resolved, and the list holds what they are resolved
to. -/
theorem map_some_values (admitted : Selection.known directory terms = terms) :
    ((ofTerms directory limit terms).values field excluded).map some =
      (Terms.named field excluded terms).map (directory.resolve? field) := by
  rw [values_eq_resolved, List.map_filterMap, ← List.filterMap_eq_map]
  refine List.filterMap_congr fun name named => ?_
  obtain ⟨value, resolved⟩ :=
    Option.isSome_iff_exists.mp (isSome_resolve? admitted (Terms.mem_named.mp named))
  simp [resolved]

theorem values_eq_nil (admitted : Selection.known directory terms = terms) :
    (ofTerms directory limit terms).values field excluded = [] ↔
      ∀ name, .matching field name excluded ∉ terms := by
  rw [← List.map_eq_nil_iff (f := some), map_some_values admitted, List.map_eq_nil_iff,
    List.eq_nil_iff_forall_not_mem]
  simp only [Terms.mem_named]

end Admitted

/-! ## Queries without a filter -/

theorem isUnfiltered_iff {query : Query} :
    query.isUnfiltered ↔ (∀ field excluded, query.values field excluded = []) ∧
      query.date = none := by
  simp only [isUnfiltered, Bool.and_eq_true, List.isEmpty_iff, Option.isNone_iff_eq_none]
  constructor
  · rintro ⟨⟨⟨⟨⟨⟨⟨⟨_, _⟩, _⟩, _⟩, _⟩, _⟩, _⟩, _⟩, date⟩
    refine ⟨?_, date⟩
    intro field excluded
    cases field <;> cases excluded <;> assumption
  · rintro ⟨empty, date⟩
    exact ⟨⟨⟨⟨⟨⟨⟨⟨empty .journal false, empty .tag false⟩, empty .title false⟩, empty .text false⟩,
      empty .journal true⟩, empty .tag true⟩, empty .title true⟩, empty .text true⟩, date⟩

/-- Cursors, node matches and heading focuses filter nothing, and all other terms do. -/
theorem isUnfiltered_ofTerms {directory : Directory} {terms : List Term}
    (distinct : Terms.Distinct terms) (admitted : Selection.known directory terms = terms)
    (limit : UInt64) :
    (ofTerms directory limit terms).isUnfiltered ↔ ∀ term ∈ terms,
      term.facet = .slot .before ∨ term.facet = .slot .node ∨ term.facet = .slot .heading := by
  have date : (ofTerms directory limit terms).date = Terms.slotValue? .date terms :=
    slotText?_of_distinct distinct .date
  rw [isUnfiltered_iff, date, Terms.slotValue?_date_eq_none]
  constructor
  · rintro ⟨empty, undated⟩ term hterm
    cases term with
    | matching field name excluded =>
        exact absurd hterm ((values_eq_nil admitted).mp (empty field excluded) name)
    | cursor id => exact Or.inl rfl
    | date text => exact absurd hterm (undated text)
    | node pattern => exact Or.inr (Or.inl rfl)
    | heading focus => exact Or.inr (Or.inr rfl)
  · intro idle
    refine ⟨fun field excluded => (values_eq_nil admitted).mpr fun name there => ?_, ?_⟩
    · simpa [Term.facet] using idle _ there
    · intro text there
      simpa [Term.facet] using idle _ there

end Query

/-! ## Selections -/

namespace Selection

/-- **A selection asks for what it shows.** Take a selection that edits under one directory have led
to. The journals wanted are those shown, each of them resolved and none lost; the tags, titles and
texts, the cursor and the date are those shown. The excluded lists hold the values of the excluded
terms, in order, and no list of wanted values holds any but those of terms that exclude nothing. So
a query searches every journal only if the selection wants none, and it filters nothing only if all
its terms are cursors, node matches and heading focuses. -/
theorem asks_for_what_it_shows {directory : Directory} {terms : List Term}
    (reached : Reached (Under directory) terms) (limit : UInt64) :
    let query := Query.ofTerms directory limit terms
    (query.journals.map some = (Terms.included .journal terms).map directory.idOf? ∧
      query.tags = Terms.included .tag terms ∧ query.titles = Terms.included .title terms ∧
      query.texts = Terms.included .text terms) ∧
    (query.before = Terms.cursor? terms ∧ query.date = Terms.slotValue? .date terms) ∧
    (query.excludeJournals.map some =
        (Terms.named .journal true terms).map directory.idOf? ∧
      query.excludeTags = Terms.named .tag true terms ∧
      query.excludeTitles = Terms.named .title true terms ∧
      query.excludeTexts = Terms.named .text true terms) ∧
    (∀ field value, value ∈ query.values field false →
      ∃ name, .matching field name false ∈ terms ∧ directory.resolve? field name = some value) ∧
    (query.journals = [] ↔ ∀ name, .matching .journal name false ∉ terms) ∧
    (query.isUnfiltered ↔ ∀ term ∈ terms,
      term.facet = .slot .before ∨ term.facet = .slot .node ∨ term.facet = .slot .heading) := by
  intro query
  have admitted := reached.known_eq
  have slots : ∀ slot, query.slotText? slot = Terms.slotValue? slot terms :=
    Query.slotText?_of_distinct reached.distinct
  have wanted : ∀ field, field ≠ .journal →
      query.values field false = Terms.included field terms := by
    intro field typed
    rw [Query.values_eq_named typed, Terms.named_wanted]
  have unwanted : ∀ field, field ≠ .journal →
      query.values field true = Terms.named field true terms :=
    fun field typed => Query.values_eq_named typed true
  have journals : ∀ excluded, (query.values .journal excluded).map some =
      (Terms.named .journal excluded terms).map directory.idOf? :=
    fun excluded => Query.map_some_values admitted
  have shown := journals false
  rw [Terms.named_wanted] at shown
  have everywhere : query.values .journal false = [] ↔
      ∀ name, .matching .journal name false ∉ terms :=
    Query.values_eq_nil admitted
  refine ⟨⟨shown, wanted .tag (by decide), wanted .title (by decide), wanted .text (by decide)⟩,
    ⟨slots .before, slots .date⟩, ⟨journals true, unwanted .tag (by decide),
      unwanted .title (by decide), unwanted .text (by decide)⟩,
    fun field value => Query.mem_values.mp, everywhere,
    Query.isUnfiltered_ofTerms reached.distinct admitted limit⟩

/-- Two journals are known. -/
def twoJournals : Directory := .ofList [("work", "j"), ("home", "k")]

/-- A selection of terms that were at hand, some of them for one slot and one for an unknown
journal, to which others were put and from which a title was taken out. -/
def handed : List Term :=
  (Edit.remove "title:x").apply twoJournals
    ((Edit.merge (.matching .tag "#A" true)).apply twoJournals
      ((Edit.set [.date "2024", .matching .journal "gone" false, .matching .journal "home" true,
        .matching .title "x" false, .date "later", .matching .journal "work" false,
        .cursor ""]).apply twoJournals []))

/-- A selection of which only a cursor is left. -/
def openToAll : List Term :=
  (Edit.clear (.field .text)).apply twoJournals
    ((Edit.replace ["word", "before:x"]).apply twoJournals [])

theorem handed_asks_for_what_it_shows :
    let query := Query.ofTerms twoJournals 10 handed
    let wide := Query.ofTerms twoJournals 10 openToAll
    Reached (Under twoJournals) handed ∧ Reached (Under twoJournals) openToAll ∧
    (query.journals.map some = [some "j"] ∧ query.excludeJournals.map some = [some "k"] ∧
      query.excludeTags = ["#A"] ∧ query.titles = [] ∧ query.before = some "" ∧
      query.date = some "later" ∧ ¬ query.isUnfiltered) ∧
    wide.journals = [] ∧ wide.isUnfiltered := by
  intro query wide
  have reached : Reached (Under twoJournals) handed := .edit (.edit (.edit .empty rfl) rfl) rfl
  have reached' : Reached (Under twoJournals) openToAll := .edit (.edit .empty rfl) rfl
  obtain ⟨⟨wanted, -, titles, -⟩, ⟨cursor, date⟩, ⟨unwanted, unwanted_tags, -⟩, -, -, filters⟩ :=
    asks_for_what_it_shows reached 10
  obtain ⟨-, -, -, -, everywhere, idle⟩ := asks_for_what_it_shows reached' 10
  refine ⟨reached, reached', ⟨wanted, unwanted, unwanted_tags, titles, cursor, date, ?_⟩,
    everywhere.mpr ?_, idle.mpr ?_⟩
  · rw [filters]
    decide +kernel
  · have left : openToAll = [.cursor "x"] := by decide +kernel
    simp [left]
  · decide +kernel

end Selection

end FacetSearch
