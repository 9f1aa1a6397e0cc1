import FacetSearch.Proofs.Selection.Distinct

/-!
# Selections that edits lead to

A selection begins empty and is changed by edits, each under the directory of that moment. Three
things hold of what they lead to. The terms are distinct. Under a directory that stays as it is, every
term is admitted by it. And no term is there that an edit has not brought, so after edits by typed
texts alone every term is one that a typed text means.
-/

namespace FacetSearch

namespace Terms

/-! ## Where terms come from -/

theorem mem_merge {terms : List Term} {added term : Term} (h : term ∈ merge terms added) :
    term ∈ terms ∨ term = added := by
  unfold merge at h
  split at h
  · split at h
    · exact Or.inl h
    · simpa using h
  · split at h
    · exact Or.inl h
    · rcases List.mem_append.mp h with old | new
      · exact Or.inl (List.mem_of_mem_eraseP old)
      · exact Or.inr (List.mem_singleton.mp new)

theorem mem_foldl_merge {added terms : List Term} {term : Term}
    (h : term ∈ added.foldl merge terms) : term ∈ terms ∨ term ∈ added := by
  induction added generalizing terms with
  | nil => exact Or.inl h
  | cons first rest ih =>
      rcases ih h with merged | later
      · rcases mem_merge merged with old | rfl
        · exact Or.inl old
        · exact Or.inr List.mem_cons_self
      · exact Or.inr (List.mem_cons_of_mem _ later)

theorem mem_of_mem_mergeAll {added : List Term} {term : Term} (h : term ∈ mergeAll added) :
    term ∈ added :=
  (mem_foldl_merge h).resolve_left List.not_mem_nil

theorem mem_of_mem_removeTyped {raw : String} {terms : List Term} {term : Term}
    (h : term ∈ removeTyped raw terms) : term ∈ terms := by
  unfold removeTyped remove at h
  split at h
  · split at h
    · exact List.mem_of_mem_filter h
    · exact List.mem_of_mem_filter h
  · exact h

end Terms

namespace Selection

/-- A change to a selection, by typed texts or by terms that are at hand. -/
inductive Edit where
  | add (raw : String)
  | remove (raw : String)
  | replace (raws : List String)
  | clear (facet : Facet)
  | merge (term : Term)
  | set (terms : List Term)
deriving DecidableEq, Repr

namespace Edit

/-- The selection after an edit, whether or not it counts as changed. -/
def apply (directory : Directory) (terms : List Term) : Edit → List Term
  | add raw => (add? directory raw terms).getD terms
  | remove raw => (remove? directory raw terms).getD terms
  | replace raws => (replace? directory raws terms).getD terms
  | clear facet => (clear? facet terms).getD terms
  | merge term => (merge? directory term terms).getD terms
  | set added => ofTerms directory added

/-- No terms are handed in but those that typed texts mean. -/
def Typed : Edit → Prop
  | merge _ => False
  | set _ => False
  | _ => True

/-- The terms that an edit may put. -/
def Brings (term : Term) : Edit → Prop
  | add raw => Term.parse? raw = some term
  | replace raws => ∃ raw ∈ raws, Term.parse? raw = some term
  | merge added => term = added
  | set added => term ∈ added
  | remove _ => False
  | clear _ => False

/-- All that an edit can do to a selection. -/
inductive Edited (directory : Directory) (terms : List Term) : Edit → List Term → Prop
  | kept {edit : Edit} : Edited directory terms edit terms
  | put {edit : Edit} {term : Term} (brings : edit.Brings term) :
      Edited directory terms edit (known directory (Terms.merge terms term))
  | removed (raw : String) :
      Edited directory terms (remove raw) (known directory (Terms.removeTyped raw terms))
  | cleared (facet : Facet) :
      Edited directory terms (clear facet) (terms.filter (·.facet ≠ facet))
  | replaced {edit : Edit} {added : List Term} (brings : ∀ term ∈ added, edit.Brings term) :
      Edited directory terms edit (ofTerms directory added)

theorem brings_of_mem_parseAll {raws : List String} {term : Term}
    (h : term ∈ Term.parseAll raws) : (replace raws).Brings term := by
  obtain ⟨raw, hraw, parsed⟩ := List.mem_filterMap.mp h
  exact ⟨raw, hraw, parsed⟩

theorem edited_apply (directory : Directory) (terms : List Term) (edit : Edit) :
    Edited directory terms edit (edit.apply directory terms) := by
  cases edit with
  | add raw =>
      cases parsed : Term.parse? raw with
      | none =>
          have ignored : (add raw).apply directory terms = terms := by simp [apply, add?, parsed]
          rw [ignored]
          exact .kept
      | some term =>
          have merged : (add raw).apply directory terms =
              known directory (Terms.merge terms term) := by
            simp [apply, add?, parsed, merge?]
          rw [merged]
          exact .put parsed
  | remove raw =>
      have removed : (remove raw).apply directory terms =
          known directory (Terms.removeTyped raw terms) := getD_changed? _ _
      rw [removed]
      exact .removed raw
  | replace raws =>
      simp only [apply, replace?]
      split
      · exact .kept
      · exact .replaced fun term => brings_of_mem_parseAll
  | clear facet =>
      have cleared : (clear facet).apply directory terms = terms.filter (·.facet ≠ facet) :=
        getD_changed? _ _
      rw [cleared]
      exact .cleared facet
  | merge term =>
      have merged : (merge term).apply directory terms =
          known directory (Terms.merge terms term) := getD_changed? _ _
      rw [merged]
      exact .put rfl
  | set added => exact .replaced fun term hterm => hterm

section Preserved

variable {directory : Directory} {terms after : List Term} {edit : Edit}

theorem Edited.distinct (edited : Edited directory terms edit after) (h : Terms.Distinct terms) :
    Terms.Distinct after := by
  cases edited with
  | kept => exact h
  | put brings => exact (h.merge _).filter _
  | removed raw => exact (h.removeTyped raw).filter _
  | cleared facet => exact h.filter _
  | replaced brings => exact distinct_ofTerms _

theorem known_known (terms : List Term) :
    known directory (known directory terms) = known directory terms := by
  simp [known]

/-- Where every term is admitted, so is every one that is left when others are taken out. -/
theorem known_filter (h : known directory terms = terms) (p : Term → Bool) :
    known directory (terms.filter p) = terms.filter p := by
  refine List.filter_eq_self.mpr fun term hterm => ?_
  exact List.filter_eq_self.mp h term (List.mem_of_mem_filter hterm)

/-- No edit lets a term in that the directory does not admit. -/
theorem Edited.known_eq (edited : Edited directory terms edit after)
    (h : known directory terms = terms) : known directory after = after := by
  cases edited with
  | kept => exact h
  | put brings => exact known_known _
  | removed raw => exact known_known _
  | cleared facet => exact known_filter h _
  | replaced brings => exact known_known _

/-- After an edit there are old terms, and terms that the edit has brought. -/
theorem Edited.mem (edited : Edited directory terms edit after) {term : Term} (h : term ∈ after) :
    term ∈ terms ∨ edit.Brings term := by
  cases edited with
  | kept => exact Or.inl h
  | put brings =>
      rcases Terms.mem_merge (List.mem_of_mem_filter h) with old | rfl
      · exact Or.inl old
      · exact Or.inr brings
  | removed raw => exact Or.inl (Terms.mem_of_mem_removeTyped (List.mem_of_mem_filter h))
  | cleared facet => exact Or.inl (List.mem_of_mem_filter h)
  | replaced brings =>
      exact Or.inr (brings term (Terms.mem_of_mem_mergeAll (List.mem_of_mem_filter h)))

theorem Typed.exists_parse? (typed : edit.Typed) {term : Term} (h : edit.Brings term) :
    ∃ raw, Term.parse? raw = some term := by
  cases edit with
  | add raw => exact ⟨raw, h⟩
  | remove raw => exact absurd h id
  | replace raws =>
      obtain ⟨raw, -, parsed⟩ := h
      exact ⟨raw, parsed⟩
  | clear facet => exact absurd h id
  | merge added => exact absurd typed id
  | set added => exact absurd typed id

end Preserved

end Edit

/-! ## Reached selections -/

/-- The selections that such edits, each under such a directory, lead to from the empty one. -/
inductive Reached (may : Directory → Edit → Prop) : List Term → Prop
  | empty : Reached may []
  | edit {directory : Directory} {edit : Edit} {terms : List Term} (reached : Reached may terms)
      (allowed : may directory edit) : Reached may (edit.apply directory terms)

/-- Edits under one directory. -/
def Under (directory : Directory) : Directory → Edit → Prop :=
  fun present _ => present = directory

/-- Edits by typed texts, under one directory. -/
def TypedUnder (directory : Directory) : Directory → Edit → Prop :=
  fun present edit => present = directory ∧ edit.Typed

section Reached

variable {may : Directory → Edit → Prop} {directory : Directory} {terms : List Term}

theorem Reached.mono {wider : Directory → Edit → Prop} (reached : Reached may terms)
    (h : ∀ directory edit, may directory edit → wider directory edit) : Reached wider terms := by
  induction reached with
  | empty => exact .empty
  | edit _ allowed ih => exact .edit ih (h _ _ allowed)

/-- To restore a selection is to add its typed texts to the empty one. -/
theorem reached_restore (adds : ∀ raw, may directory (.add raw)) (raws : List String) :
    Reached may (restore directory raws) := by
  unfold restore
  suffices step : ∀ terms, Reached may terms →
      Reached may (raws.foldl (fun terms raw => (add? directory raw terms).getD terms) terms) from
    step [] .empty
  induction raws with
  | nil => exact fun terms h => h
  | cons raw rest ih => exact fun terms h => ih _ (h.edit (adds raw))

/-- **Whatever is edited, the terms stay distinct.** -/
theorem Reached.distinct (reached : Reached may terms) : Terms.Distinct terms := by
  induction reached with
  | empty => exact Terms.distinct_nil
  | @edit directory edit _ _ _ ih => exact (Edit.edited_apply directory _ edit).distinct ih

/-- **Under a directory that stays as it is, it admits every term.** -/
theorem Reached.known_eq (reached : Reached (Under directory) terms) :
    known directory terms = terms := by
  induction reached with
  | empty => rfl
  | @edit _ edit _ _ allowed ih =>
      obtain rfl := allowed
      exact (Edit.edited_apply _ _ edit).known_eq ih

/-- **After edits by typed texts every term is what a typed text means.** -/
theorem Reached.exists_parse? (reached : Reached (TypedUnder directory) terms) :
    ∀ term ∈ terms, ∃ raw, Term.parse? raw = some term := by
  induction reached with
  | empty => exact fun term hterm => absurd hterm List.not_mem_nil
  | @edit present edit _ _ allowed ih =>
      intro term hterm
      rcases (Edit.edited_apply present _ edit).mem hterm with old | brought
      · exact ih term old
      · exact allowed.2.exists_parse? brought

end Reached

end Selection

end FacetSearch
