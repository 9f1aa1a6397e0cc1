import FacetSearch.Paging
import FacetSearch.Proofs.Query.Lists

/-!
# The page that a query asks for

A collection of terms says what to look for, and its cursor says which page of it to show. The two
are independent: putting another cursor, or taking the cursor out, changes nothing of the query but
where its page starts.
-/

namespace FacetSearch

/-- The terms but for the cursor, in their order. -/
def Terms.withoutCursor (terms : List Term) : List Term :=
  terms.filter (·.facet ≠ .slot .before)

namespace Query

/-- The same question, about the page that starts here. -/
def startingAt (start : PageStart) (query : Query) : Query := { query with before := start }

@[simp] theorem startingAt_startingAt (first second : PageStart) (query : Query) :
    (query.startingAt first).startingAt second = query.startingAt second := rfl

@[simp] theorem startingAt_before (query : Query) : query.startingAt query.before = query := rfl

/-! ## One term -/

section Narrow

variable {directory : Directory} {query : Query} {term : Term}

/-- Terms that are no cursor do not see where the page starts. -/
theorem narrow_startingAt (other : term.facet ≠ .slot .before) (start : PageStart) :
    narrow directory (query.startingAt start) term =
      (narrow directory query term).startingAt start := by
  cases term with
  | matching field value excluded =>
      rw [narrow_matching, narrow_matching]
      cases directory.resolve? field value with
      | none => rfl
      | some resolved => cases field <;> cases excluded <;> rfl
  | cursor id => exact absurd rfl other
  | date text => rfl
  | node pattern => rfl
  | heading focus => rfl

/-- A term that names an unknown journal asks for nothing. -/
theorem narrow_of_not_admits (unknown : directory.admits term = false) :
    narrow directory query term = query := by
  cases term with
  | matching field value excluded =>
      cases field with
      | journal =>
          have missing : directory.idOf? value = none := by
            simpa [Directory.admits] using unknown
          simp only [narrow, missing]
      | tag => exact Bool.noConfusion unknown
      | title => exact Bool.noConfusion unknown
      | text => exact Bool.noConfusion unknown
  | cursor id => exact Bool.noConfusion unknown
  | date text => exact Bool.noConfusion unknown
  | node pattern => exact Bool.noConfusion unknown
  | heading focus => exact Bool.noConfusion unknown

end Narrow

/-! ## All terms -/

section Fold

variable {directory : Directory} {terms : List Term}

theorem foldl_narrow_startingAt (others : ∀ term ∈ terms, term.facet ≠ .slot .before)
    (start : PageStart) (query : Query) :
    terms.foldl (narrow directory) (query.startingAt start) =
      (terms.foldl (narrow directory) query).startingAt start := by
  induction terms generalizing query with
  | nil => rfl
  | cons term rest ih =>
      rw [List.foldl_cons, List.foldl_cons, narrow_startingAt (others term List.mem_cons_self)]
      exact ih (fun other hother => others other (List.mem_cons_of_mem _ hother)) _

/-- But for the start of the page, the cursors among the terms do not count. -/
theorem startingAt_foldl_narrow (terms : List Term) (start : PageStart) (query : Query) :
    (terms.foldl (narrow directory) query).startingAt start =
      ((terms.filter (·.facet ≠ .slot .before)).foldl (narrow directory) query).startingAt
        start := by
  induction terms generalizing query with
  | nil => rfl
  | cons term rest ih =>
      by_cases filled : term.facet = .slot .before
      · obtain ⟨id, rfl⟩ : ∃ id, term = .cursor id := by
          cases term <;> simp_all [Term.facet]
        have others : ∀ other ∈ rest.filter (·.facet ≠ .slot .before),
            other.facet ≠ .slot .before := by
          intro other hother
          simpa using List.of_mem_filter hother
        rw [List.foldl_cons, List.filter_cons_of_neg (by simpa using filled), ih]
        show ((rest.filter _).foldl _ (query.startingAt (some id))).startingAt start = _
        rw [foldl_narrow_startingAt others, startingAt_startingAt]
      · rw [List.foldl_cons, List.filter_cons_of_pos (by simpa using filled), List.foldl_cons, ih]

/-- Terms that narrow no query may be left out. -/
theorem ofTerms_filter {stays : Term → Bool}
    (idle : ∀ term, stays term = false → ∀ query, narrow directory query term = query)
    (limit : UInt64) (terms : List Term) :
    ofTerms directory limit (terms.filter stays) = ofTerms directory limit terms := by
  unfold ofTerms
  generalize all limit = query
  induction terms generalizing query with
  | nil => rfl
  | cons term rest ih =>
      cases kept : stays term with
      | true => rw [List.filter_cons_of_pos kept, List.foldl_cons, List.foldl_cons, ih]
      | false =>
          rw [List.filter_cons_of_neg (by simp [kept]), List.foldl_cons, idle term kept, ih]

/-- Terms that the directory does not admit do not count either. -/
theorem ofTerms_known (limit : UInt64) (terms : List Term) :
    ofTerms directory limit (Selection.known directory terms) = ofTerms directory limit terms :=
  ofTerms_filter (fun _ unknown _ => narrow_of_not_admits unknown) limit terms

/-- The page starts at the cursor of the terms. -/
theorem before_ofTerms (h : Terms.Distinct terms) (limit : UInt64) :
    (ofTerms directory limit terms).before = Terms.cursor? terms :=
  slotText?_of_distinct h .before

/-! ## Turning pages -/

/-- **Putting a cursor** asks the same question about the page that starts there. -/
theorem ofTerms_merge_cursor (h : Terms.Distinct terms) (limit : UInt64) (id : String) :
    ofTerms directory limit (Terms.merge terms (.cursor id)) =
      (ofTerms directory limit terms).startingAt (some id) := by
  have fills : (Term.cursor id).facet = .slot .before := rfl
  rw [h.merge_slot fills]
  split
  · rename_i present
    have found : Terms.cursor? terms = some id := by
      unfold Terms.cursor? Terms.slotValue?
      rw [(h.find?_slot fills).mpr present]
      rfl
    rw [← found, ← before_ofTerms h limit, startingAt_before]
  · unfold ofTerms
    rw [List.foldl_append, startingAt_foldl_narrow]
    rfl

/-- **Taking the cursor out** asks the same question about the first page. -/
theorem ofTerms_filter_before (limit : UInt64) (terms : List Term) :
    ofTerms directory limit (terms.filter (·.facet ≠ .slot .before)) =
      (ofTerms directory limit terms).startingAt none := by
  have others : ∀ other ∈ terms.filter (·.facet ≠ .slot .before),
      other.facet ≠ .slot .before := by
    intro other hother
    simpa using List.of_mem_filter hother
  unfold ofTerms
  rw [startingAt_foldl_narrow, ← foldl_narrow_startingAt others]
  rfl

/-- The cursor and the other terms make the query, wherever among them the cursor stands. -/
theorem ofTerms_congr {other : List Term} (h : Terms.Distinct terms) (h' : Terms.Distinct other)
    (limit : UInt64) (cursor : Terms.cursor? terms = Terms.cursor? other)
    (others : Terms.withoutCursor terms = Terms.withoutCursor other) :
    ofTerms directory limit terms = ofTerms directory limit other := by
  have first : (ofTerms directory limit terms).startingAt none =
      (ofTerms directory limit other).startingAt none := by
    rw [← ofTerms_filter_before, ← ofTerms_filter_before]
    exact congrArg _ others
  calc ofTerms directory limit terms
      = ((ofTerms directory limit terms).startingAt none).startingAt (Terms.cursor? terms) := by
        rw [startingAt_startingAt, ← before_ofTerms h limit, startingAt_before]
    _ = ((ofTerms directory limit other).startingAt none).startingAt (Terms.cursor? other) := by
        rw [first, cursor]
    _ = ofTerms directory limit other := by
        rw [startingAt_startingAt, ← before_ofTerms h' limit, startingAt_before]

end Fold

end Query

end FacetSearch
