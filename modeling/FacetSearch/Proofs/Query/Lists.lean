import FacetSearch.Query
import FacetSearch.Proofs.Selection.Slots
import Mathlib.Data.List.Induction

/-!
# What a query asks for

A query has eight lists, one of wanted and one of excluded values for each field, and the texts of
two slots. Each of them is a matter of the terms of that field or slot alone: a list holds what
these terms put there, in their order, and the text of a slot is that of its last term. So of
distinct terms the order does not matter, except for the order of the lists.
-/

namespace FacetSearch

/-! ## Values as they are typed -/

/-- The value that a term names of a field, wanted or excluded, as it is typed. -/
def Term.named? (field : Field) (excluded : Bool) : Term → Option String
  | .matching named value sign => if named = field ∧ sign = excluded then some value else none
  | _ => none

theorem Term.named?_eq_some {field : Field} {excluded : Bool} {term : Term} {value : String} :
    term.named? field excluded = some value ↔ term = .matching field value excluded := by
  cases term with
  | matching named other sign =>
      simp only [Term.named?, Option.ite_none_right_eq_some, Option.some.injEq,
        Term.matching.injEq]
      exact ⟨fun h => ⟨h.1.1, h.2, h.1.2⟩, fun h => ⟨⟨h.1, h.2.2⟩, h.2.1⟩⟩
  | cursor id => simp [Term.named?]
  | date text => simp [Term.named?]
  | node pattern => simp [Term.named?]
  | heading focus => simp [Term.named?]

namespace Terms

/-- The values that terms name of a field, those wanted or those excluded, as they are typed. -/
def named (field : Field) (excluded : Bool) (terms : List Term) : List String :=
  terms.filterMap (Term.named? field excluded)

section Named

variable {field : Field} {excluded : Bool} {terms : List Term}

theorem mem_named {value : String} :
    value ∈ named field excluded terms ↔ .matching field value excluded ∈ terms := by
  simp [named, Term.named?_eq_some]

/-- The values wanted are the values of the terms that exclude nothing. -/
theorem named_wanted (field : Field) (terms : List Term) :
    named field false terms = included field terms := by
  unfold named included
  rw [List.filterMap_filter]
  refine List.filterMap_congr fun term _ => ?_
  cases term with
  | matching other value excluded =>
      cases excluded <;> simp [Term.named?, Term.facet, Term.isExcluded, Term.value?]
  | cursor id => simp [Term.named?, Term.facet]
  | date text => simp [Term.named?, Term.facet]
  | node pattern => simp [Term.named?, Term.facet]
  | heading focus => simp [Term.named?, Term.facet]

end Named

end Terms

/-! ## Values as they are asked for -/

/-- A value as a query has it: the identifier of a journal, and any other value as it is. -/
def Directory.resolve? (directory : Directory) : Field → String → Option String
  | .journal, name => directory.idOf? name
  | _, value => some value

/-- What a term puts among the wanted or the excluded values of a field. -/
def Directory.valueOf? (directory : Directory) (field : Field) (excluded : Bool) :
    Term → Option String
  | .matching named value sign =>
    if named = field ∧ sign = excluded then directory.resolve? named value else none
  | _ => none

theorem Directory.valueOf?_matching (directory : Directory) (field : Field) (excluded : Bool)
    (named : Field) (value : String) (sign : Bool) :
    directory.valueOf? field excluded (.matching named value sign) =
      if named = field ∧ sign = excluded then directory.resolve? named value else none := rfl

theorem Directory.valueOf?_eq_bind (directory : Directory) (field : Field) (excluded : Bool)
    (term : Term) : directory.valueOf? field excluded term =
      (term.named? field excluded).bind (directory.resolve? field) := by
  cases term with
  | matching named value sign =>
      simp only [valueOf?, Term.named?]
      split
      · rename_i same
        rw [same.1]
        rfl
      · rfl
  | cursor id => rfl
  | date text => rfl
  | node pattern => rfl
  | heading focus => rfl

namespace Query

/-- The values of a field, those wanted or those excluded. -/
def values (query : Query) : Field → Bool → List String
  | .journal, false => query.journals
  | .journal, true => query.excludeJournals
  | .tag, false => query.tags
  | .tag, true => query.excludeTags
  | .title, false => query.titles
  | .title, true => query.excludeTitles
  | .text, false => query.texts
  | .text, true => query.excludeTexts

/-- The text of a slot. Node matches and heading focuses have no place in a query. -/
def slotText? (query : Query) : Slot → Option String
  | .before => query.before
  | .date => query.date
  | .node => none
  | .heading => none

section Narrow

variable {directory : Directory} {query : Query} {term : Term} {field : Field} {excluded : Bool}
  {slot : Slot}

/-! ## What one term asks for -/

theorem values_add (named : Field) (value : String) (sign : Bool) :
    (query.add named value sign).values field excluded =
      query.values field excluded ++
        if named = field ∧ sign = excluded then [value] else [] := by
  cases named <;> cases sign <;> cases field <;> cases excluded <;> simp [add, values]

theorem slotText?_add (named : Field) (value : String) (sign : Bool) :
    (query.add named value sign).slotText? slot = query.slotText? slot := by
  cases named <;> cases sign <;> cases slot <;> rfl

theorem limit_add (named : Field) (value : String) (sign : Bool) :
    (query.add named value sign).limit = query.limit := by
  cases named <;> cases sign <;> rfl

theorem narrow_matching (named : Field) (value : String) (sign : Bool) :
    narrow directory query (.matching named value sign) =
      match directory.resolve? named value with
      | some resolved => query.add named resolved sign
      | none => query := by
  cases named <;> rfl

/-- A term puts one value into one list at most. -/
theorem values_narrow :
    (narrow directory query term).values field excluded =
      query.values field excluded ++ (directory.valueOf? field excluded term).toList := by
  cases term with
  | matching named value sign =>
      rw [narrow_matching, directory.valueOf?_matching]
      cases directory.resolve? named value with
      | none =>
          rw [ite_self]
          exact (List.append_nil _).symm
      | some resolved =>
          show (query.add named resolved sign).values field excluded = _
          rw [values_add]
          split <;> rfl
  | cursor id => cases field <;> cases excluded <;> exact (List.append_nil _).symm
  | date text => cases field <;> cases excluded <;> exact (List.append_nil _).symm
  | node pattern => exact (List.append_nil _).symm
  | heading focus => exact (List.append_nil _).symm

/-- A term of a slot puts its text there, whatever stood there before. -/
theorem slotText?_narrow :
    (narrow directory query term).slotText? slot =
      if term.facet = .slot slot then term.value? else query.slotText? slot := by
  cases term with
  | matching named value sign =>
      rw [narrow_matching, if_neg (by simp [Term.facet])]
      cases directory.resolve? named value with
      | none => rfl
      | some id => exact slotText?_add named id sign
  | cursor id => cases slot <;> rfl
  | date text => cases slot <;> rfl
  | node pattern => cases slot <;> rfl
  | heading focus => cases slot <;> rfl

theorem limit_narrow : (narrow directory query term).limit = query.limit := by
  cases term with
  | matching named value sign =>
      rw [narrow_matching]
      cases directory.resolve? named value with
      | none => rfl
      | some resolved => exact limit_add named resolved sign
  | cursor id => rfl
  | date text => rfl
  | node pattern => rfl
  | heading focus => rfl

end Narrow

/-! ## What all terms ask for -/

section Fold

variable {directory : Directory} {limit : UInt64} {terms : List Term}

theorem ofTerms_snoc (terms : List Term) (term : Term) :
    ofTerms directory limit (terms ++ [term]) =
      narrow directory (ofTerms directory limit terms) term := by
  unfold ofTerms
  rw [List.foldl_append]
  rfl

/-- **A list of a query** holds what the terms put there, in their order. -/
theorem values_ofTerms (field : Field) (excluded : Bool) :
    (ofTerms directory limit terms).values field excluded =
      terms.filterMap (directory.valueOf? field excluded) := by
  induction terms using List.reverseRecOn with
  | nil => cases field <;> cases excluded <;> rfl
  | append_singleton terms term ih =>
      rw [ofTerms_snoc, values_narrow, ih, List.filterMap_append]
      cases put : directory.valueOf? field excluded term <;> simp [put]

/-- **The text of a slot** is that of its last term. -/
theorem slotText?_ofTerms (slot : Slot) :
    (ofTerms directory limit terms).slotText? slot = Terms.slotValue? slot terms.reverse := by
  induction terms using List.reverseRecOn with
  | nil => cases slot <;> rfl
  | append_singleton terms term ih =>
      rw [ofTerms_snoc, slotText?_narrow, ih, List.reverse_concat, Terms.slotValue?_cons]

theorem slotText?_of_distinct (h : Terms.Distinct terms) (slot : Slot) :
    (ofTerms directory limit terms).slotText? slot = Terms.slotValue? slot terms := by
  rw [slotText?_ofTerms]
  exact (h.slotValue?_perm (List.reverse_perm terms).symm slot).symm

/-- Terms have no say in how many documents are asked for. -/
theorem limit_ofTerms (limit : UInt64) (terms : List Term) :
    (ofTerms directory limit terms).limit = limit := by
  induction terms using List.reverseRecOn with
  | nil => rfl
  | append_singleton terms term ih => rw [ofTerms_snoc, limit_narrow, ih]

/-- A list of a query holds the values named, with the journals resolved. -/
theorem values_eq_resolved (field : Field) (excluded : Bool) :
    (ofTerms directory limit terms).values field excluded =
      (Terms.named field excluded terms).filterMap (directory.resolve? field) := by
  rw [values_ofTerms, Terms.named, List.filterMap_filterMap]
  exact List.filterMap_congr fun term _ => directory.valueOf?_eq_bind field excluded term

/-- Only journals are resolved; all other values are asked for as they are typed. -/
theorem values_eq_named {field : Field} (typed : field ≠ .journal) (excluded : Bool) :
    (ofTerms directory limit terms).values field excluded =
      Terms.named field excluded terms := by
  rw [values_eq_resolved]
  cases field with
  | journal => exact absurd rfl typed
  | tag => exact List.filterMap_some
  | title => exact List.filterMap_some
  | text => exact List.filterMap_some

end Fold

/-! ## Terms in another order -/

/-- Two queries that ask the same, but list the values in different orders. -/
structure Reordered (a b : Query) : Prop where
  before : a.before = b.before
  date : a.date = b.date
  limit : a.limit = b.limit
  values : ∀ field excluded, (a.values field excluded).Perm (b.values field excluded)

/-- **Distinct terms in another order** ask the same. -/
theorem reordered_of_perm {terms other : List Term} (h : Terms.Distinct terms)
    (perm : terms.Perm other) (directory : Directory) (limit : UInt64) :
    Reordered (ofTerms directory limit terms) (ofTerms directory limit other) := by
  have slots : ∀ slot, (ofTerms directory limit terms).slotText? slot =
      (ofTerms directory limit other).slotText? slot := by
    intro slot
    rw [slotText?_of_distinct h, slotText?_of_distinct (h.perm perm), h.slotValue?_perm perm]
  refine ⟨slots .before, slots .date, ?_, ?_⟩
  · rw [limit_ofTerms, limit_ofTerms]
  · intro field excluded
    rw [values_ofTerms, values_ofTerms]
    exact perm.filterMap _

end Query

end FacetSearch
