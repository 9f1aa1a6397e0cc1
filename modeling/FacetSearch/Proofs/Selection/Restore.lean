import FacetSearch.Proofs.Line.Join
import FacetSearch.Proofs.Selection.Edit

/-!
# Selections kept as typed texts

A selection is kept as the typed forms of its terms and restored from them. To put the texts one by
one, dropping unknown journals each time, comes to the same as to put them all and drop the unknown
journals once. What is restored is the selection that was kept, in the same order, unless a tag in it
begins with a number sign: such a tag is written with its sign and read without it.
-/

namespace FacetSearch.Selection

open Terms (Distinct)

variable {directory : Directory} {terms : List Term}

/-! ## Unknown journals -/

theorem admits_of_isSlot (directory : Directory) {term : Term} (h : term.facet.isSlot) :
    directory.admits term := by
  cases term with
  | matching field value excluded => cases h
  | cursor id => rfl
  | date text => rfl
  | node pattern => rfl
  | heading focus => rfl

/-- Unknown journals may be dropped before a term is put or only afterwards. -/
theorem known_merge_known (h : Distinct terms) (term : Term) :
    known directory (Terms.merge (known directory terms) term) =
      known directory (Terms.merge terms term) := by
  have distinct : Distinct (known directory terms) := h.filter _
  rw [h.merge_eq, distinct.merge_eq]
  by_cases there : term ∈ terms
  · rw [if_pos there]
    split
    · exact Edit.known_known terms
    · -- The term names an unknown journal, so it fills no slot, and is dropped when it is put.
      rename_i dropped
      have unknown : directory.admits term = false := by
        simpa [known, there] using dropped
      have stays : ∀ other, Terms.staysBeside term other := by
        intro other
        cases slot : term.facet.isSlot with
        | true => exact absurd (admits_of_isSlot directory slot) (by simp [unknown])
        | false => simp [Terms.staysBeside, slot]
      simp [known, unknown, stays]
  · have absent : term ∉ known directory terms := fun present =>
      there (List.mem_of_mem_filter present)
    rw [if_neg there, if_neg absent]
    simp only [known, List.filter_append, List.filter_filter]
    congr 2
    funext other
    cases directory.admits other <;> simp

/-- **Restoring** puts all the texts and then drops the unknown journals. -/
theorem restore_eq_ofTerms (directory : Directory) (raws : List String) :
    restore directory raws = ofTerms directory (Term.parseAll raws) := by
  suffices step : ∀ terms, Distinct terms →
      raws.foldl (fun kept raw => (add? directory raw kept).getD kept) (known directory terms) =
        known directory ((Term.parseAll raws).foldl Terms.merge terms) from
    step [] Terms.distinct_nil
  induction raws with
  | nil => exact fun terms h => rfl
  | cons raw rest ih =>
      intro terms h
      rw [List.foldl_cons]
      cases parsed : Term.parse? raw with
      | none =>
          have ignored : Term.parseAll (raw :: rest) = Term.parseAll rest := by
            simp [Term.parseAll, parsed]
          have unchanged : add? directory raw (known directory terms) = none := by
            simp [add?, parsed]
          rw [ignored, unchanged]
          exact ih terms h
      | some term =>
          have taken : Term.parseAll (raw :: rest) = term :: Term.parseAll rest := by
            simp [Term.parseAll, parsed]
          have put : (add? directory raw (known directory terms)).getD (known directory terms) =
              known directory (Terms.merge terms term) := by
            rw [← known_merge_known h]
            simp [add?, parsed, merge?]
          rw [taken, put]
          exact ih _ (h.merge term)

/-- Putting the terms of a selection one after the other makes the same selection. -/
theorem ofTerms_eq_self (distinct : Distinct terms) (admitted : known directory terms = terms) :
    ofTerms directory terms = terms := by
  rw [ofTerms, distinct.mergeAll, admitted]

/-! ## Keeping a selection -/

theorem exists_mem_of_mem_ofTerms {raws : List String} {term : Term}
    (h : term ∈ ofTerms directory (Term.parseAll raws)) :
    ∃ raw ∈ raws, Term.parse? raw = some term :=
  List.mem_filterMap.mp (Terms.mem_of_mem_mergeAll (List.mem_of_mem_filter h))

/-- What is restored of terms that have been read holds no tag that begins with a number sign. -/
theorem not_marked_of_mem_ofTerms_render (directory : Directory)
    (read : ∀ term ∈ terms, ∃ raw, Term.parse? raw = some term) :
    ∀ term ∈ ofTerms directory (Term.parseAll (Terms.render terms)), ¬ term.Marked := by
  intro term hterm
  obtain ⟨text, htext, parsed⟩ := exists_mem_of_mem_ofTerms hterm
  obtain ⟨once, honce, rfl⟩ := List.mem_map.mp htext
  obtain ⟨raw, first⟩ := read once honce
  exact Term.not_marked_of_parse?_render first parsed

/-- Texts count as no change when they are those of the present terms, in any order. -/
theorem replace?_eq_none {raws : List String} :
    replace? directory raws terms = none ↔
      (Terms.render terms).Perm (Terms.render (ofTerms directory (Term.parseAll raws))) := by
  simp [replace?, List.isPerm_iff]

/-- **A selection made by typed texts can be kept as typed texts**, and restoring it, or putting the
texts in its place, changes nothing, exactly when no tag in it begins with a number sign. -/
theorem restore_render_iff (reached : Reached (TypedUnder directory) terms) :
    (restore directory (Terms.render terms) = terms ↔ ∀ term ∈ terms, ¬ term.Marked) ∧
      (replace? directory (Terms.render terms) terms = none ↔ ∀ term ∈ terms, ¬ term.Marked) := by
  have read := reached.exists_parse?
  have under : Reached (Under directory) terms := reached.mono fun _ _ allowed => allowed.1
  have unmarked := not_marked_of_mem_ofTerms_render directory read
  have back : (∀ term ∈ terms, ¬ term.Marked) →
      ofTerms directory (Term.parseAll (Terms.render terms)) = terms := by
    intro plain
    have typed : ∀ term ∈ terms, Term.parse? term.render = some term := by
      intro term hterm
      obtain ⟨raw, parsed⟩ := read term hterm
      exact ((Term.wellFormed_of_parse? parsed).mpr (plain term hterm)).parse?_render
    rw [Term.parseAll_render typed, ofTerms_eq_self reached.distinct under.known_eq]
  rw [restore_eq_ofTerms, replace?_eq_none]
  constructor
  · constructor
    · intro same
      rwa [same] at unmarked
    · exact back
  · constructor
    · intro perm term hterm marked
      have written := perm.mem_iff.mp (List.mem_map_of_mem hterm)
      obtain ⟨other, hother, same⟩ := List.mem_map.mp written
      exact unmarked other hother ((Term.marked_congr same).mpr marked)
    · intro plain
      rw [back plain]

/-- One journal is known. -/
def oneJournal : Directory := .ofList [("work", "j")]

/-- A selection of a journal, a tag and an excluded title, from which a cursor is removed. -/
def planned : List Term :=
  (Edit.remove "before:x").apply oneJournal
    ((Edit.replace ["in:work", "tag:#My Tag", "before:10:30", "-title:a b"]).apply oneJournal [])

/-- A selection of one tag, in front of which a removed colon has brought a number sign. -/
def marked : List Term := (Edit.add "tag::#a").apply oneJournal []

theorem planned_restore_render :
    (restore oneJournal (Terms.render planned) = planned ∧
      replace? oneJournal (Terms.render planned) planned = none) ∧
    restore oneJournal (Terms.render marked) ≠ marked := by
  have planned_reached : Reached (TypedUnder oneJournal) planned :=
    .edit (.edit .empty ⟨rfl, trivial⟩) ⟨rfl, trivial⟩
  have marked_reached : Reached (TypedUnder oneJournal) marked := .edit .empty ⟨rfl, trivial⟩
  have unmarked : ∀ term ∈ planned, ¬ term.Marked := by
    unfold Term.Marked
    decide +kernel
  have some_marked : ¬ ∀ term ∈ marked, ¬ term.Marked := by
    unfold Term.Marked
    decide +kernel
  obtain ⟨restored, unchanged⟩ := restore_render_iff planned_reached
  refine ⟨⟨restored.mpr unmarked, unchanged.mpr unmarked⟩, ?_⟩
  intro same
  exact some_marked ((restore_render_iff marked_reached).1.mp same)

end FacetSearch.Selection
