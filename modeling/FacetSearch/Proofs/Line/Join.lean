import FacetSearch.Proofs.Line.Spelling
import FacetSearch.Proofs.Selection.Distinct
import FacetSearch.Proofs.Term.RoundTrip

/-!
# A selection on one line

Any row of texts can be typed on one search line: between quotes a text may hold white space, quotes
and backslashes. Only the empty text gets lost. A written term is never empty, so every collection
of distinct terms that can be typed one by one can be typed at once.
-/

namespace FacetSearch

namespace Line

/-- An escaped text stands between quotes for the text. -/
theorem quoted_flatMap_escape (text : List Char) : Quoted (text.flatMap escape) text := by
  induction text with
  | nil => exact .nil
  | cons c rest ih =>
      rw [List.flatMap_cons, escape]
      split
      · exact .escaped c ih
      · rename_i plain
        rw [not_or] at plain
        exact .plain plain.1 plain.2 ih

theorem spells_quote (term : List Char) : Spells (quote term) term := by
  have spelled := Spells.quoted (quoted_flatMap_escape term) .nil
  rwa [List.append_nil] at spelled

theorem SpellsRow.append_left {gap line : List Char} {terms : List (List Char)}
    (h : SpellsRow line terms) (front : Blank gap) : SpellsRow (gap ++ line) terms := by
  cases h with
  | blank blank => exact .blank (List.forall_mem_append.mpr ⟨front, blank⟩)
  | term blank spelled nonempty apart rest =>
      rw [List.append_assoc, ← List.append_assoc gap, ← List.append_assoc]
      exact .term (List.forall_mem_append.mpr ⟨front, blank⟩) spelled nonempty apart rest

/-- The induction is on the terms: the blank behind a quoted term sets the next one apart. -/
theorem spellsRow_intercalate_quote {terms : List (List Char)} (h : ∀ term ∈ terms, term ≠ []) :
    SpellsRow (List.intercalate [' '] (terms.map quote)) terms := by
  induction terms with
  | nil => exact .blank (by decide)
  | cons term rest ih =>
      have first := h term List.mem_cons_self
      have row := ih fun other hother => h other (List.mem_cons_of_mem _ hother)
      cases rest with
      | nil =>
          have alone : List.intercalate [' '] ([term].map quote) = [] ++ quote term ++ [] := by
            simp [List.intercalate]
          rw [alone]
          exact .term (by decide) (spells_quote term) first (by decide) row
      | cons next rest =>
          have line : List.intercalate [' '] ((term :: next :: rest).map quote) =
              [] ++ quote term ++
                ([' '] ++ List.intercalate [' '] ((next :: rest).map quote)) := by
            simp [List.intercalate]
          have apart : Apart ([' '] ++ List.intercalate [' '] ((next :: rest).map quote)) := by
            rintro c ⟨⟩
            decide
          rw [line]
          exact .term (by decide) (spells_quote term) first apart (row.append_left (by decide))

/-- **A joined line is split into its terms.** -/
theorem split_join {terms : List String} (h : ∀ term ∈ terms, term ≠ "") :
    split (join terms) = terms := by
  have some_char : ∀ term ∈ terms.map String.toList, term ≠ [] := by
    simpa using h
  have quoted : (terms.map fun term => quote term.toList) =
      (terms.map String.toList).map quote := by
    rw [List.map_map]
    rfl
  unfold split join
  rw [String.toList_ofList, quoted, splitFrom_of_spellsRow (spellsRow_intercalate_quote some_char),
    List.map_map]
  simp [Function.comp_def]

end Line

namespace Term

theorem render_ne_empty (term : Term) : term.render ≠ "" := by
  intro empty
  have written := term.toList_render
  simp [empty] at written

/-- Terms that are read back one by one are read back in a row. -/
theorem parseAll_render {terms : List Term} (h : ∀ term ∈ terms, parse? term.render = some term) :
    parseAll (Terms.render terms) = terms := by
  unfold parseAll Terms.render
  rw [List.filterMap_map]
  exact (List.filterMap_congr h).trans List.filterMap_some

end Term

namespace Terms

/-- **Every collection can be typed on one line**, as long as each of its terms can be typed. -/
theorem ofLine_join_render {terms : List Term} (distinct : Distinct terms)
    (typed : ∀ term ∈ terms, Term.parse? term.render = some term) :
    ofLine (Line.join (render terms)) = terms := by
  have written : ∀ text ∈ render terms, text ≠ "" := by
    intro text htext
    obtain ⟨term, -, rfl⟩ := List.mem_map.mp htext
    exact term.render_ne_empty
  unfold ofLine
  rw [Line.split_join written, Term.parseAll_render typed, distinct.mergeAll]

/-- Terms with quotes, a backslash, colons, blanks and a comma in their values. -/
def punctuated : List Term :=
  [.matching .title "say \"a\\b\"" false, .matching .journal "work: notes, 2024" true,
    .cursor "10:30"]

theorem ofLine_join_render_punctuated :
    Distinct punctuated ∧ (∀ term ∈ punctuated, Term.parse? term.render = some term) ∧
      ofLine "\"title:say \\\"a\\\\b\\\"\" \"-in:work: notes, 2024\" \"before:10:30\"" =
        punctuated := by
  have distinct : Distinct punctuated := by
    unfold Distinct Term.Beside
    decide +kernel
  have typed : ∀ term ∈ punctuated, Term.parse? term.render = some term := by decide +kernel
  have line : Line.join (render punctuated) =
      "\"title:say \\\"a\\\\b\\\"\" \"-in:work: notes, 2024\" \"before:10:30\"" := by
    decide +kernel
  refine ⟨distinct, typed, ?_⟩
  rw [← line]
  exact ofLine_join_render distinct typed

end Terms

end FacetSearch
