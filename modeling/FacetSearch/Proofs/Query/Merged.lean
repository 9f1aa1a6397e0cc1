import FacetSearch.Proofs.Query.Page
import FacetSearch.Proofs.Selection.Lasting

/-!
# What merging leaves of a query

Putting terms into a collection drops those that are there already, and it drops and moves the terms
of slots. A query made from the terms as they come would have listed a value twice, and would have
taken the last cursor and the last date anyway. So merging costs a query nothing but repetitions.
They are told by the name and the sign of a value, as typed: two names of one journal stay two.
-/

namespace FacetSearch

/-! ## The values of fields -/

/-- Only the first occurrence of a value counts. -/
theorem eraseDups_concat (values : List String) (value : String) :
    (values ++ [value]).eraseDups =
      if value ∈ values then values.eraseDups else values.eraseDups ++ [value] := by
  have alone : [value].eraseDups = [value] := by
    rw [List.eraseDups_cons]
    rfl
  rw [List.eraseDups_append]
  by_cases there : value ∈ values <;> simp [List.removeAll, there, alone]

namespace Terms

section Fields

variable {field : Field} {excluded : Bool} {terms : List Term} {added : Term}

theorem named_snoc (terms : List Term) (term : Term) :
    named field excluded (terms ++ [term]) =
      named field excluded terms ++ (term.named? field excluded).toList := by
  unfold named
  rw [List.filterMap_append]
  cases put : term.named? field excluded <;> simp [put]

/-- Emptying a slot drops no value of a field. -/
theorem named_filter_staysBeside (added : Term) (terms : List Term) :
    named field excluded (terms.filter (staysBeside added)) = named field excluded terms := by
  unfold named
  rw [List.filterMap_filter]
  refine List.filterMap_congr fun term _ => ?_
  cases stays : staysBeside added term with
  | true => rfl
  | false =>
      cases value : term.named? field excluded with
      | none => rfl
      | some text =>
          obtain rfl := Term.named?_eq_some.mp value
          have beside : staysBeside added (.matching field text excluded) = true :=
            staysBeside_of_field rfl
          rw [stays] at beside
          cases beside

/-- A term put brings its value, unless it is there. -/
theorem Distinct.named_merge (h : Distinct terms) :
    named field excluded (Terms.merge terms added) =
      if added ∈ terms then named field excluded terms
      else named field excluded terms ++ (added.named? field excluded).toList := by
  rw [h.merge_eq]
  split
  · rfl
  · rw [named_snoc, named_filter_staysBeside]

/-- **Merging keeps the first occurrence of each value**, in the order of the terms as they came. -/
theorem named_mergeAll (terms : List Term) :
    named field excluded (mergeAll terms) = (named field excluded terms).eraseDups := by
  induction terms using List.reverseRecOn with
  | nil => rfl
  | append_singleton terms added ih =>
      rw [mergeAll_snoc, (distinct_mergeAll terms).named_merge, ih, named_snoc]
      cases value : added.named? field excluded with
      | none => simp
      | some text =>
          -- The term is in the collection exactly when its value has been named before.
          obtain rfl := Term.named?_eq_some.mp value
          have known : .matching field text excluded ∈ mergeAll terms ↔
              text ∈ named field excluded terms := by
            rw [← mem_named, ih, List.mem_eraseDups]
          rw [Option.toList_some, eraseDups_concat]
          simp only [known]

end Fields

/-! ## The texts of slots -/

section Slots

variable {terms : List Term} {slot : Slot} {added : Term}

/-- A slot holds the value that was put there last. -/
theorem Distinct.slotValue?_merge_self (h : Distinct terms) (fills : added.facet = .slot slot) :
    slotValue? slot (Terms.merge terms added) = added.value? := by
  have found : (Terms.merge terms added).find? (·.facet = .slot slot) = some added := by
    rw [(h.merge added).find?_slot fills, h.mem_merge_iff]
    exact Or.inl rfl
  unfold slotValue?
  rw [found]
  rfl

/-- **Merging leaves in a slot** the text of its last term. -/
theorem slotValue?_mergeAll (slot : Slot) (terms : List Term) :
    slotValue? slot (mergeAll terms) = slotValue? slot terms.reverse := by
  induction terms using List.reverseRecOn with
  | nil => rfl
  | append_singleton terms added ih =>
      rw [mergeAll_snoc, List.reverse_concat, slotValue?_cons, ← ih]
      split
      · rename_i fills
        exact (distinct_mergeAll terms).slotValue?_merge_self fills
      · rename_i other
        exact slotValue?_merge (distinct_mergeAll terms) other

end Slots

end Terms

/-! ## Terms that ask for nothing -/

/-- A term has a say in a query, unless it names a journal unknown to the directory, or is a node
match or a heading focus. -/
def Directory.asks (directory : Directory) (term : Term) : Bool :=
  directory.admits term && term.facet ≠ .slot .node && term.facet ≠ .slot .heading

namespace Query

section Idle

variable {directory : Directory} {query : Query}

theorem narrow_of_not_asks {term : Term} (idle : directory.asks term = false) :
    narrow directory query term = query := by
  cases admitted : directory.admits term with
  | false => exact narrow_of_not_admits admitted
  | true =>
      cases term with
      | matching field value excluded => simp [Directory.asks, admitted, Term.facet] at idle
      | cursor id => simp [Directory.asks, admitted, Term.facet] at idle
      | date text => simp [Directory.asks, admitted, Term.facet] at idle
      | node pattern => rfl
      | heading focus => rfl

theorem ofTerms_filter_asks (limit : UInt64) (terms : List Term) :
    ofTerms directory limit (terms.filter directory.asks) = ofTerms directory limit terms :=
  ofTerms_filter (fun _ idle _ => narrow_of_not_asks idle) limit terms

end Idle

/-! ## Merged terms -/

/-- **Merging costs a query nothing but repetitions.** Cursor, date and limit stay the same. Each
list of tags, titles and texts keeps the first occurrence of each value. Of the journals, the first
occurrence of each name is kept, and resolved then. Nor does it matter which terms that ask for
nothing stand among the terms, and where: lists that agree on the others make one query. -/
theorem ofTerms_mergeAll (directory : Directory) (limit : UInt64) (terms : List Term) :
    let asked := ofTerms directory limit terms
    let merged := ofTerms directory limit (Terms.mergeAll terms)
    (merged.before = asked.before ∧ merged.date = asked.date ∧ merged.limit = asked.limit) ∧
    (merged.tags = asked.tags.eraseDups ∧ merged.titles = asked.titles.eraseDups ∧
      merged.texts = asked.texts.eraseDups ∧ merged.excludeTags = asked.excludeTags.eraseDups ∧
      merged.excludeTitles = asked.excludeTitles.eraseDups ∧
      merged.excludeTexts = asked.excludeTexts.eraseDups) ∧
    (merged.journals = (Terms.named .journal false terms).eraseDups.filterMap directory.idOf? ∧
      merged.excludeJournals =
        (Terms.named .journal true terms).eraseDups.filterMap directory.idOf?) ∧
    ∀ other, other.filter directory.asks = terms.filter directory.asks →
      ofTerms directory limit other = asked := by
  intro asked merged
  have slots : ∀ slot, merged.slotText? slot = asked.slotText? slot := by
    intro slot
    rw [slotText?_of_distinct (Terms.distinct_mergeAll terms), slotText?_ofTerms,
      Terms.slotValue?_mergeAll]
  have lists : ∀ field, field ≠ .journal → ∀ excluded,
      merged.values field excluded = (asked.values field excluded).eraseDups := by
    intro field typed excluded
    rw [values_eq_named typed, values_eq_named typed, Terms.named_mergeAll]
  have journals : ∀ excluded, merged.values .journal excluded =
      (Terms.named .journal excluded terms).eraseDups.filterMap directory.idOf? := by
    intro excluded
    rw [values_eq_resolved, Terms.named_mergeAll]
    rfl
  have tags := lists .tag (by decide)
  have titles := lists .title (by decide)
  have texts := lists .text (by decide)
  refine ⟨⟨slots .before, slots .date, ?_⟩, ⟨tags false, titles false, texts false, tags true,
    titles true, texts true⟩, ⟨journals false, journals true⟩, ?_⟩
  · rw [limit_ofTerms, limit_ofTerms]
  · intro other agree
    rw [← ofTerms_filter_asks, agree, ofTerms_filter_asks]

/-- Two names of one journal. -/
def twoNames : Directory := .ofList [("work", "j"), ("office", "j")]

/-- Terms as they come: with repetitions, with slots filled twice, and with terms that ask for
nothing. -/
def asTheyCome : List Term :=
  [.matching .journal "work" false, .date "2024", .matching .tag "a" false, .cursor "d",
    .matching .journal "gone" false, .matching .journal "office" false, .matching .tag "a" true,
    .matching .journal "work" false, .heading ⟨"heading", "# h", .h1⟩, .matching .tag "b" false,
    .matching .tag "a" false, .cursor "e", .date "2024", .cursor "d"]

/-- The same terms without the unknown journal, and with the heading in another place. -/
def withoutGone : List Term :=
  .heading ⟨"heading", "# h", .h1⟩ :: asTheyCome.filter twoNames.asks

theorem ofTerms_mergeAll_asTheyCome :
    let merged := ofTerms twoNames 10 (Terms.mergeAll asTheyCome)
    withoutGone.filter twoNames.asks = asTheyCome.filter twoNames.asks ∧
    (merged.before = some "d" ∧ merged.date = some "2024" ∧ merged.limit = 10) ∧
    (merged.tags = ["a", "b"] ∧ merged.excludeTags = ["a"]) ∧ merged.journals = ["j", "j"] ∧
    (ofTerms twoNames 10 asTheyCome).journals = ["j", "j", "j"] ∧
    ofTerms twoNames 10 withoutGone = ofTerms twoNames 10 asTheyCome := by
  have agree : withoutGone.filter twoNames.asks = asTheyCome.filter twoNames.asks := by
    decide +kernel
  obtain ⟨⟨before, date, limit⟩, ⟨tags, -, -, excludeTags, -⟩, ⟨journals, -⟩, idle⟩ :=
    ofTerms_mergeAll twoNames 10 asTheyCome
  refine ⟨agree, ⟨before, date, limit⟩, ⟨tags, excludeTags⟩, journals, ?_, idle withoutGone agree⟩
  decide +kernel

end Query

end FacetSearch
