import FacetSearch.Proofs.Selection.Edit

/-!
# The order of a selection

However a selection is edited, and whatever the directory knows at each moment, no term stands in it
twice and no slot is filled twice; and under a directory that stays as it is, every journal named is
known. An edit that does not replace the whole selection leaves the terms that stay in their order.
It puts one new term at most, and puts it last.
-/

namespace FacetSearch.Selection

open Terms (Distinct)

/-- The terms after an edit are those of the old that stay, in their order, and then one new term at
most. -/
def KeepsOrder (terms after : List Term) : Prop :=
  ∃ stay new, after = stay ++ new ∧ stay.Sublist terms ∧ new.length ≤ 1 ∧ ∀ term ∈ new, term ∉ terms

section Order

variable {directory : Directory} {terms after : List Term}

theorem keepsOrder_of_sublist (h : after.Sublist terms) : KeepsOrder terms after :=
  ⟨after, [], (List.append_nil after).symm, h, Nat.zero_le 1, fun _ none => absurd none List.not_mem_nil⟩

/-- To drop unknown journals does not change the order. -/
theorem KeepsOrder.known (h : KeepsOrder terms after) (directory : Directory) :
    KeepsOrder terms (known directory after) := by
  obtain ⟨stay, new, rfl, order, one, fresh⟩ := h
  refine ⟨Selection.known directory stay, Selection.known directory new, List.filter_append _ _,
    List.filter_sublist.trans order, ?_, ?_⟩
  · exact Nat.le_trans List.filter_sublist.length_le one
  · intro term hterm
    exact fresh term (List.mem_of_mem_filter hterm)

theorem keepsOrder_merge (h : Distinct terms) (term : Term) :
    KeepsOrder terms (Terms.merge terms term) := by
  rw [h.merge_eq]
  split
  · exact keepsOrder_of_sublist (List.Sublist.refl terms)
  · rename_i absent
    refine ⟨_, [term], rfl, List.filter_sublist, Nat.le_refl 1, ?_⟩
    intro other hother
    obtain rfl := List.mem_singleton.mp hother
    exact absent

theorem removeTyped_sublist (raw : String) (terms : List Term) :
    (Terms.removeTyped raw terms).Sublist terms := by
  unfold Terms.removeTyped Terms.remove
  split
  · split
    · exact List.filter_sublist
    · exact List.filter_sublist
  · exact List.Sublist.refl terms

end Order

namespace Edit

/-- The edit changes single terms and does not replace the whole selection. -/
def InPlace : Edit → Prop
  | add _ => True
  | remove _ => True
  | merge _ => True
  | clear _ => True
  | replace _ => False
  | set _ => False

theorem keepsOrder_apply (directory : Directory) {terms : List Term} (h : Distinct terms)
    {edit : Edit} (inPlace : edit.InPlace) : KeepsOrder terms (edit.apply directory terms) := by
  cases edit with
  | add raw =>
      show KeepsOrder terms ((add? directory raw terms).getD terms)
      unfold add?
      cases parsed : Term.parse? raw with
      | none => exact keepsOrder_of_sublist (List.Sublist.refl terms)
      | some term =>
          show KeepsOrder terms ((merge? directory term terms).getD terms)
          rw [merge?, getD_changed?]
          exact (keepsOrder_merge h term).known directory
  | remove raw =>
      show KeepsOrder terms ((remove? directory raw terms).getD terms)
      rw [remove?, getD_changed?]
      exact keepsOrder_of_sublist (List.filter_sublist.trans (removeTyped_sublist raw terms))
  | merge term =>
      show KeepsOrder terms ((merge? directory term terms).getD terms)
      rw [merge?, getD_changed?]
      exact (keepsOrder_merge h term).known directory
  | clear facet =>
      show KeepsOrder terms ((clear? facet terms).getD terms)
      rw [clear?, getD_changed?]
      exact keepsOrder_of_sublist List.filter_sublist
  | replace raws => exact absurd inPlace id
  | set added => exact absurd inPlace id

/-- The selection after these edits, each made under the directory of its moment. -/
def applyAll (edits : List (Directory × Edit)) (terms : List Term) : List Term :=
  edits.foldl (fun terms edit => edit.2.apply edit.1 terms) terms

end Edit

theorem Reached.applyAll {may : Directory → Edit → Prop} {terms : List Term}
    (reached : Reached may terms) {edits : List (Directory × Edit)}
    (allowed : ∀ edit ∈ edits, may edit.1 edit.2) : Reached may (Edit.applyAll edits terms) := by
  induction edits generalizing terms with
  | nil => exact reached
  | cons first rest ih =>
      exact ih (reached.edit (allowed first List.mem_cons_self))
        (fun edit hedit => allowed edit (List.mem_cons_of_mem _ hedit))

/-- **Selections stay in order.** Restore a selection from any texts, from none if it is to be empty,
and edit it, each time under whatever directory there is by then. No term stands in it twice, and no
slot is filled twice. If the directory is the same throughout, every journal that is wanted or
excluded is known to it. And any edit that does not replace the whole selection keeps the terms that
stay in their order, and puts one new term at most, at the end. -/
theorem edits_keep_order (directory : Directory) (kept : List String)
    (edits : List (Directory × Edit)) :
    let terms := Edit.applyAll edits (restore directory kept)
    Distinct terms ∧
    ((∀ edit ∈ edits, edit.1 = directory) →
      ∀ name excluded, .matching .journal name excluded ∈ terms →
        (directory.idOf? name).isSome) ∧
    ∀ present edit, Edit.InPlace edit → KeepsOrder terms (edit.apply present terms) := by
  intro terms
  have restored : Reached (fun _ _ => True) (restore directory kept) :=
    reached_restore (fun _ => trivial) kept
  have distinct : Distinct terms := (restored.applyAll fun _ _ => trivial).distinct
  refine ⟨distinct, ?_, fun present edit inPlace => Edit.keepsOrder_apply present distinct inPlace⟩
  intro same name excluded hterm
  have under : Reached (Under directory) terms :=
    (reached_restore (fun _ => rfl) kept).applyAll same
  exact List.filter_eq_self.mp under.known_eq _ hterm

/-- Edits under one directory: terms are set, some of them twice over, then a cursor is put and a tag
taken out. -/
def tidied (directory : Directory) : List (Directory × Edit) :=
  [(directory, .set [.date "2024", .matching .journal "work" true, .matching .tag "a" false,
      .matching .tag "a" false, .matching .journal "home" false, .date "2025"]),
    (directory, .merge (.cursor "d")), (directory, .remove "tag:a")]

/-- The order holds too when the directory has just forgotten its journal. -/
theorem tidied_keeps_order :
    let directory : Directory := .ofList [("work", "j")]
    let terms := Edit.applyAll (tidied directory) (restore directory ["in:work", "in:home", "word"])
    (∀ edit ∈ tidied directory, edit.1 = directory) ∧ Edit.InPlace (.add "date:2026") ∧
      terms = [.matching .journal "work" true, .date "2025", .cursor "d"] ∧
      Distinct terms ∧ (directory.idOf? "work").isSome ∧
      KeepsOrder terms ((Edit.add "date:2026").apply (.ofList []) terms) := by
  intro directory terms
  have same : ∀ edit ∈ tidied directory, edit.1 = directory := by simp [tidied]
  obtain ⟨distinct, known, order⟩ :=
    edits_keep_order directory ["in:work", "in:home", "word"] (tidied directory)
  have left : terms = [.matching .journal "work" true, .date "2025", .cursor "d"] := by
    decide +kernel
  refine ⟨same, trivial, left, distinct, ?_, order (.ofList []) (.add "date:2026") trivial⟩
  have named : .matching .journal "work" true ∈ terms := left ▸ List.mem_cons_self
  exact known same "work" true named

end FacetSearch.Selection
