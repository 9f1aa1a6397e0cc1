import FacetSearch.Proofs.Query.Lists
import FacetSearch.Proofs.Selection.Restore

/-!
# Selections in another order

Typed texts put in place of a selection are skipped if they mean the terms that are there already, in
whatever order. The two selections are compared by what is written of them. That is enough, because
terms that have been read are told apart by their texts. And it is no loss to skip, because the order
of distinct terms does not matter to a query, except for the order of its lists.
-/

namespace FacetSearch.Selection

open Terms (Distinct)

variable {directory : Directory} {terms other : List Term}

/-- A term that has been read is among others if its text is among theirs. -/
theorem mem_of_render_mem {term : Term} {raw : String} (parsed : Term.parse? raw = some term)
    (read : ∀ term ∈ other, ∃ raw, Term.parse? raw = some term)
    (written : term.render ∈ Terms.render other) : term ∈ other := by
  obtain ⟨same, hsame, render⟩ := List.mem_map.mp written
  obtain ⟨raw', parsed'⟩ := read same hsame
  rwa [Term.eq_of_render_eq parsed parsed' render.symm]

/-- **Distinct terms that have been read** are the same terms if they have the same texts. -/
theorem perm_of_perm_render (h : Distinct terms) (h' : Distinct other)
    (read : ∀ term ∈ terms, ∃ raw, Term.parse? raw = some term)
    (read' : ∀ term ∈ other, ∃ raw, Term.parse? raw = some term)
    (perm : (Terms.render terms).Perm (Terms.render other)) : terms.Perm other := by
  rw [List.perm_ext_iff_of_nodup h.nodup h'.nodup]
  intro term
  constructor
  · intro hterm
    obtain ⟨raw, parsed⟩ := read term hterm
    exact mem_of_render_mem parsed read' (perm.mem_iff.mp (List.mem_map_of_mem hterm))
  · intro hterm
    obtain ⟨raw, parsed⟩ := read' term hterm
    exact mem_of_render_mem parsed read (perm.mem_iff.mpr (List.mem_map_of_mem hterm))

/-- **Only another order is skipped.** Texts put in place of a selection that typed texts have made
are skipped exactly when the terms that they mean are those of the selection, in whatever order. Then
the selection stays as it is, and a query for the terms in the other order would ask the same: its
lists hold the same values, in another order perhaps. -/
theorem replace?_skips_other_order (reached : Reached (TypedUnder directory) terms)
    (raws : List String) :
    let next := ofTerms directory (Term.parseAll raws)
    (replace? directory raws terms = none ↔ next.Perm terms) ∧
    (replace? directory raws terms = none →
      (Edit.replace raws).apply directory terms = terms ∧
      ∀ limit, Query.Reordered (Query.ofTerms directory limit next)
        (Query.ofTerms directory limit terms)) := by
  intro next
  have distinct : Distinct next := distinct_ofTerms _
  have read : ∀ term ∈ next, ∃ raw, Term.parse? raw = some term := by
    intro term hterm
    obtain ⟨raw, -, parsed⟩ := exists_mem_of_mem_ofTerms hterm
    exact ⟨raw, parsed⟩
  have same_terms : replace? directory raws terms = none ↔ next.Perm terms := by
    rw [replace?_eq_none]
    constructor
    · intro perm
      exact perm_of_perm_render distinct reached.distinct read reached.exists_parse? perm.symm
    · intro perm
      exact (perm.map Term.render).symm
  refine ⟨same_terms, ?_⟩
  intro skipped
  constructor
  · show (replace? directory raws terms).getD terms = terms
    rw [skipped]
    rfl
  · exact Query.reordered_of_perm distinct (same_terms.mp skipped) directory

/-- A selection with a term in every slot and an excluded tag, from which a journal was taken out. -/
def gathered : List Term :=
  (Edit.remove "in:work").apply oneJournal
    ((Edit.replace ["in:work", "-tag:#A b", "date:2024", "focus:a b", "title:10:30",
      "filter:code[lang=\"sql\"]", "before:x"]).apply oneJournal [])

/-- The same terms in another order and other spellings, with texts that mean nothing here. -/
def shuffled : List String :=
  ["BEFORE:y", "title:10:30", "filter:code[lang=\"sql\"]", "in:gone", "Title:10:30", "before:x",
    "focus:# a b", "-before:x", "-tag:a_b", "date:2024"]

/-- Texts that mean the same terms but for one minus sign. -/
def unsigned : List String :=
  ["before:x", "title:10:30", "filter:code[lang=\"sql\"]", "focus:# a b", "tag:a_b", "date:2024"]

theorem gathered_skips_other_order :
    Reached (TypedUnder oneJournal) gathered ∧
    (replace? oneJournal shuffled gathered = none ∧
      (Edit.replace shuffled).apply oneJournal gathered = gathered ∧
      ofTerms oneJournal (Term.parseAll shuffled) ≠ gathered ∧
      Query.Reordered (Query.ofTerms oneJournal 10 (ofTerms oneJournal (Term.parseAll shuffled)))
        (Query.ofTerms oneJournal 10 gathered)) ∧
    replace? oneJournal unsigned gathered ≠ none := by
  have reached : Reached (TypedUnder oneJournal) gathered :=
    .edit (.edit .empty ⟨rfl, trivial⟩) ⟨rfl, trivial⟩
  have perm : (ofTerms oneJournal (Term.parseAll shuffled)).isPerm gathered = true := by
    decide +kernel
  have other : (ofTerms oneJournal (Term.parseAll unsigned)).isPerm gathered = false := by
    decide +kernel
  obtain ⟨skips, keeps⟩ := replace?_skips_other_order reached shuffled
  have skipped := skips.mpr (List.isPerm_iff.mp perm)
  obtain ⟨kept, asks⟩ := keeps skipped
  refine ⟨reached, ⟨skipped, kept, by decide +kernel, asks 10⟩, ?_⟩
  intro none
  have same := (replace?_skips_other_order reached unsigned).1.mp none
  rw [List.isPerm_iff.mpr same] at other
  cases other

end FacetSearch.Selection
