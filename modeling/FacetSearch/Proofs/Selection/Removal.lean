import FacetSearch.Proofs.Selection.Edit

/-!
# Taking terms out

What a selection shows can be taken out as it is shown: the typed form of a term takes out that term
and no other. And a term just put can be taken out by the text that put it. That leads back to the
selection before, except that a slot is left empty, whatever it held.
-/

namespace FacetSearch

namespace Terms

variable {terms : List Term} {term : Term}

/-- To take out a term that is there takes out no other: a slot holds no second one. -/
theorem Distinct.remove_of_mem (h : Distinct terms) (present : term ∈ terms) :
    remove term.facet term terms = terms.filter (· ≠ term) := by
  cases hfacet : term.facet with
  | field field => rfl
  | slot slot =>
      refine List.filter_congr fun other hother => decide_eq_decide.mpr (not_congr ?_)
      constructor
      · intro fills
        exact h.eq_of_slot hother present fills hfacet
      · rintro rfl
        exact hfacet

/-- To put a term and take it out comes to the same as to take it out. -/
theorem Distinct.remove_merge (h : Distinct terms) :
    remove term.facet term (Terms.merge terms term) = remove term.facet term terms := by
  rw [h.merge_eq]
  split
  · rfl
  · cases hfacet : term.facet with
    | field field =>
        have all_stay : terms.filter (staysBeside term) = terms := by
          simp [staysBeside, hfacet, Facet.isSlot]
        simp [remove, all_stay]
    | slot slot =>
        simp only [remove, staysBeside, hfacet, Facet.isSlot, List.filter_append,
          List.filter_filter]
        simp [hfacet]

/-- What is left when a term is taken out of those that a directory admits is what it admits of
those that are left. -/
theorem remove_known (directory : Directory) (terms : List Term) :
    remove term.facet term (Selection.known directory terms) =
      Selection.known directory (remove term.facet term terms) := by
  unfold remove Selection.known
  split
  · exact List.filter_comm _ _ _
  · exact List.filter_comm _ _ _

theorem known_remove {directory : Directory} (admitted : Selection.known directory terms = terms) :
    Selection.known directory (remove term.facet term terms) = remove term.facet term terms := by
  unfold remove
  split
  · exact Selection.Edit.known_filter admitted _
  · exact Selection.Edit.known_filter admitted _

end Terms

namespace Selection

variable {directory : Directory} {terms : List Term} {term : Term} {raw : String}

/-- The text that means a term takes the term out, where the directory admits all terms. -/
theorem remove?_eq (parsed : Term.parse? raw = some term)
    (admitted : known directory terms = terms) :
    remove? directory raw terms = changed? terms (Terms.remove term.facet term terms) := by
  unfold remove? Terms.removeTyped
  rw [parsed]
  show changed? terms (known directory (Terms.remove term.facet term terms)) = _
  rw [Terms.known_remove admitted]

/-- To add by a text and remove by the same text takes out what the text means. -/
theorem apply_remove_add (distinct : Terms.Distinct terms)
    (admitted : known directory terms = terms) (parsed : Term.parse? raw = some term) :
    (Edit.remove raw).apply directory ((Edit.add raw).apply directory terms) =
      Terms.remove term.facet term terms := by
  have added : (Edit.add raw).apply directory terms =
      known directory (Terms.merge terms term) := by
    simp [Edit.apply, add?, parsed, merge?]
  rw [added]
  show (remove? directory raw _).getD _ = _
  rw [remove?_eq parsed (Edit.known_known _), getD_changed?, Terms.remove_known,
    distinct.remove_merge, Terms.known_remove admitted]

/-- **Removal undoes addition.** In a selection that edits under one directory have led to, a term
that is read from its typed form is taken out by it, and the others stay in their order. To add a
value of a field that is not there and to remove it by the same text leads back to the selection,
even if the directory does not know the journal named. A slot that is filled and emptied so is left
empty, whatever it held. -/
theorem removal_undoes_addition (reached : Reached (Under directory) terms) :
    (∀ term ∈ terms, Term.parse? term.render = some term →
      remove? directory term.render terms = some (terms.filter (· ≠ term))) ∧
    ∀ raw term, Term.parse? raw = some term →
      let left := (Edit.remove raw).apply directory ((Edit.add raw).apply directory terms)
      (term.facet.isSlot = false → term ∉ terms → left = terms) ∧
        (term.facet.isSlot = true → left = terms.filter (·.facet ≠ term.facet)) := by
  have distinct := reached.distinct
  have admitted := reached.known_eq
  constructor
  · intro term present typed
    have changes : terms.filter (· ≠ term) ≠ terms := by
      intro same
      have stays := List.filter_eq_self.mp same term present
      exact of_decide_eq_true stays rfl
    rw [remove?_eq typed admitted, distinct.remove_of_mem present, changed?, if_neg changes]
  · intro raw term parsed left
    have taken : left = Terms.remove term.facet term terms :=
      apply_remove_add distinct admitted parsed
    rw [taken]
    constructor
    · intro field absent
      cases hfacet : term.facet with
      | slot slot => rw [hfacet] at field; cases field
      | field _ =>
          refine List.filter_eq_self.mpr fun other hother => decide_eq_true ?_
          rintro rfl
          exact absent hother
    · intro slot
      cases hfacet : term.facet with
      | slot _ => rfl
      | field _ => rw [hfacet] at slot; cases slot

/-- A selection of a journal, a date, a tag, and a title that was at hand and cannot be typed. -/
def filed : List Term :=
  (Edit.merge (.matching .title "" true)).apply (.ofList [("work", "j")])
    ((Edit.replace ["in:work", "date:2024", "-tag:#A B"]).apply (.ofList [("work", "j")]) [])

theorem filed_removal_undoes_addition :
    let directory : Directory := .ofList [("work", "j")]
    let addedAndRemoved (raw : String) :=
      (Edit.remove raw).apply directory ((Edit.add raw).apply directory filed)
    Reached (Under directory) filed ∧
    filed = [.matching .journal "work" false, .date "2024", .matching .tag "a_b" true,
      .matching .title "" true] ∧
    remove? directory "date:2024" filed = some [.matching .journal "work" false,
      .matching .tag "a_b" true, .matching .title "" true] ∧
    addedAndRemoved "TAG:##A B" = filed ∧ addedAndRemoved "in:gone" = filed ∧
    addedAndRemoved "date:2025-02" = [.matching .journal "work" false, .matching .tag "a_b" true,
      .matching .title "" true] := by
  intro directory addedAndRemoved
  have reached : Reached (Under directory) filed := .edit (.edit .empty rfl) rfl
  have shown : filed = [.matching .journal "work" false, .date "2024", .matching .tag "a_b" true,
      .matching .title "" true] := by
    decide +kernel
  obtain ⟨removes, undoes⟩ := removal_undoes_addition reached
  have typed : (Term.date "2024").render = "date:2024" := by decide +kernel
  refine ⟨reached, shown, ?_, ?_, ?_, ?_⟩
  · rw [← typed, removes (.date "2024") (by decide +kernel) (by decide +kernel), shown]
    decide +kernel
  · exact (undoes "TAG:##A B" (.matching .tag "a_b" false) (by decide +kernel)).1 rfl
      (by decide +kernel)
  · exact (undoes "in:gone" (.matching .journal "gone" false) (by decide +kernel)).1 rfl
      (by decide +kernel)
  · rw [show addedAndRemoved "date:2025-02" = filed.filter (·.facet ≠ .slot .date) from
      (undoes "date:2025-02" (.date "2025-02") (by decide +kernel)).2 rfl, shown]
    decide +kernel

end Selection

end FacetSearch
