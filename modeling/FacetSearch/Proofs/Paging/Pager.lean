import FacetSearch.Config
import FacetSearch.Listing
import FacetSearch.Paging
import FacetSearch.Proofs.Query.Page
import Mathlib.Algebra.Group.Nat.Defs

/-!
# Pages of a list

A pager leafs through a list that lies open from end to end: it shows a slice, and it knows where the
list ends. A session has no such list. It asks a store for one page and one document more, and goes
on from the identifier of that document. With a store whose documents stay as they are, this comes
to the same.
-/

namespace FacetSearch

/-! ## A store that stays as it is -/

/-- A store that filters one list by a query, skips what lies ahead of the document that the cursor
names, and answers with as many documents as are asked for. What it skips if the cursor names no
document that it found is left open. -/
structure StaticStore where
  documents : List Document
  keeps : Query → Document → Bool
  ahead : PageStart → List Document → Nat
  unique : (documents.map (·.id)).Nodup
  keeps_startingAt : ∀ query start, keeps (query.startingAt start) = keeps query
  ahead_none : ∀ kept, ahead none kept = 0
  ahead_some : ∀ before document after, (∀ other ∈ before, other.id ≠ document.id) →
    ahead (some document.id) (before ++ document :: after) = before.length

namespace StaticStore

variable (store : StaticStore)

def kept (query : Query) : List Document := store.documents.filter (store.keeps query)

/-- The answer to a query without its limit. -/
def found (query : Query) : List Document :=
  (store.kept query).drop (store.ahead query.before (store.kept query))

def answer (query : Query) : List Document := (store.found query).take query.limit.toNat

theorem kept_startingAt (query : Query) (start : PageStart) :
    store.kept (query.startingAt start) = store.kept query := by
  unfold kept
  rw [store.keeps_startingAt]

theorem nodup_kept (query : Query) : ((store.kept query).map (·.id)).Nodup :=
  store.unique.sublist (List.filter_sublist.map _)

/-- **A cursor opens the answer where its document stands.** -/
theorem found_startingAt {query : Query} {skipped : Nat} {document : Document}
    (h : (store.found query)[skipped]? = some document) :
    store.found (query.startingAt (some document.id)) = (store.found query).drop skipped := by
  have nodup := store.nodup_kept query
  have again := store.kept_startingAt query (some document.id)
  unfold found at h ⊢
  rw [again, List.drop_drop]
  generalize store.kept query = kept at nodup h ⊢
  generalize store.ahead query.before kept = ahead at h ⊢
  rw [List.getElem?_drop] at h
  obtain ⟨hlt, hget⟩ := List.getElem?_eq_some_iff.mp h
  -- Identifiers are unique, so the cursor finds the document here and nowhere earlier.
  have split : kept = kept.take (ahead + skipped) ++ document :: kept.drop (ahead + skipped + 1) := by
    rw [← hget, ← List.drop_eq_getElem_cons hlt, List.take_append_drop]
  have differ : ∀ other ∈ kept.take (ahead + skipped), other.id ≠ document.id := by
    intro other hother
    rw [split, List.map_append, List.map_cons] at nodup
    exact (List.nodup_append.mp nodup).2.2 _ (List.mem_map_of_mem hother) _ List.mem_cons_self
  have position := store.ahead_some _ document (kept.drop (ahead + skipped + 1)) differ
  rw [← split, List.length_take_of_le (Nat.le_of_lt hlt)] at position
  show kept.drop (store.ahead (some document.id) kept) = _
  rw [position]

end StaticStore

/-- A listing is such a store, provided that no two of its documents share an identifier. -/
def Listing.store (documents : List Document) (unique : (documents.map (·.id)).Nodup) :
    StaticStore where
  documents := documents
  keeps := fun query document =>
    (query.journals.isEmpty || query.journals.contains document.journalId) &&
      !query.excludeJournals.contains document.journalId
  ahead
    | none, _ => 0
    | some id, kept => kept.findIdx (·.id = id)
  unique := unique
  keeps_startingAt := fun _ _ => rfl
  ahead_none := fun _ => rfl
  ahead_some := by
    intro before document after differ
    show (before ++ document :: after).findIdx (·.id = document.id) = before.length
    have absent : before.findIdx (·.id = document.id) = before.length :=
      List.findIdx_eq_length_of_false fun other hother => by simpa using differ other hother
    rw [List.findIdx_append, absent]
    simp [List.findIdx_cons]

theorem Listing.answer_store {documents : List Document} (unique : (documents.map (·.id)).Nodup)
    (query : Query) :
    (Listing.store documents unique).answer query = Listing.answer documents query := by
  have skip : ∀ start kept, Listing.startingAt start kept =
      kept.drop ((Listing.store documents unique).ahead start kept) := by
    intro start kept
    cases start with
    | none => rfl
    | some id =>
        show kept.dropWhile (·.id ≠ id) = kept.drop (kept.findIdx (·.id = id))
        rw [List.dropWhile_eq_drop_findIdx_not]
        simp
  unfold Listing.answer StaticStore.answer StaticStore.found
  rw [skip]
  rfl

/-! ## The pager -/

/-- A step from page to page. -/
inductive Turn where
  | next
  | prev
deriving DecidableEq, Repr

structure Pager where
  found : List Document
  size : Nat
  page : Nat

namespace Pager

def shown (pager : Pager) : List Document :=
  pager.found.extract (pager.page * pager.size)
    (min ((pager.page + 1) * pager.size) pager.found.length)

def hasNext (pager : Pager) : Bool := (pager.page + 1) * pager.size < pager.found.length

def hasPrev (pager : Pager) : Bool := 0 < pager.page

/-- The pager after a turn, or `none` if there is no page to turn to. -/
def turn? (pager : Pager) : Turn → Option Pager
  | .next => if pager.hasNext then some { pager with page := pager.page + 1 } else none
  | .prev => if pager.hasPrev then some { pager with page := pager.page - 1 } else none

/-- The pager after these turns; where there is no page to turn to, it stays. -/
def follow (pager : Pager) (turns : List Turn) : Pager :=
  turns.foldl (fun pager turn => (pager.turn? turn).getD pager) pager

theorem of_turn?_next {pager after : Pager} (turned : pager.turn? .next = some after) :
    pager.hasNext = true ∧ after = { pager with page := pager.page + 1 } := by
  obtain ⟨more, same⟩ := Option.ite_none_right_eq_some.mp turned
  exact ⟨more, (Option.some.inj same).symm⟩

theorem of_turn?_prev {pager after : Pager} (turned : pager.turn? .prev = some after) :
    pager.hasPrev = true ∧ after = { pager with page := pager.page - 1 } := by
  obtain ⟨more, same⟩ := Option.ite_none_right_eq_some.mp turned
  exact ⟨more, (Option.some.inj same).symm⟩

theorem exists_turn?_eq (pager : Pager) (turn : Turn) :
    ∃ page, (pager.turn? turn).getD pager = { pager with page := page } := by
  cases turned : pager.turn? turn with
  | none => exact ⟨pager.page, rfl⟩
  | some after =>
      cases turn with
      | next => exact ⟨_, (of_turn?_next turned).2⟩
      | prev => exact ⟨_, (of_turn?_prev turned).2⟩

/-- A pager keeps its list and the size of its pages. -/
theorem exists_follow_eq (pager : Pager) (turns : List Turn) :
    ∃ page, pager.follow turns = { pager with page := page } := by
  induction turns generalizing pager with
  | nil => exact ⟨pager.page, rfl⟩
  | cons turn rest ih =>
      obtain ⟨page, same⟩ := pager.exists_turn?_eq turn
      show ∃ page, ((pager.turn? turn).getD pager).follow rest = _
      rw [same]
      exact ih _

theorem size_turn? (pager : Pager) (turn : Turn) :
    ((pager.turn? turn).getD pager).size = pager.size := by
  obtain ⟨page, same⟩ := pager.exists_turn?_eq turn
  rw [same]

theorem there_of_le {length size page last : Nat} (le : page ≤ last)
    (there : last = 0 ∨ last * size < length) : page = 0 ∨ page * size < length := by
  rcases there with rfl | inside
  · exact Or.inl (Nat.le_zero.mp le)
  · exact Or.inr (Nat.lt_of_le_of_lt (Nat.mul_le_mul_right size le) inside)

/-- There is a last page, if pages are not empty. -/
theorem exists_last (found : List Document) {size : Nat} (pos : 0 < size) :
    ∃ last, (last = 0 ∨ last * size < found.length) ∧ found.length ≤ (last + 1) * size := by
  refine ⟨(found.length - 1) / size, ?_, ?_⟩
  · have le := Nat.div_mul_le_self (found.length - 1) size
    by_cases empty : found.length = 0
    · rw [empty, Nat.zero_sub, Nat.zero_div]
      exact Or.inl rfl
    · exact Or.inr (by omega)
  · have lt := Nat.lt_mul_of_div_lt (Nat.lt_succ_self ((found.length - 1) / size)) pos
    exact Nat.le_of_pred_lt lt

/-- Forward, the pager gets to every page that there is. -/
theorem follow_forward {found : List Document} {size page : Nat}
    (there : page = 0 ∨ page * size < found.length) :
    (Pager.mk found size 0).follow (List.replicate page .next) = ⟨found, size, page⟩ := by
  induction page with
  | zero => rfl
  | succ page ih =>
      have inside : (page + 1) * size < found.length := there.resolve_left (Nat.succ_ne_zero page)
      have before : page = 0 ∨ page * size < found.length :=
        Or.inr (Nat.lt_of_le_of_lt (Nat.mul_le_mul_right _ (Nat.le_succ page)) inside)
      have more : (Pager.mk found size page).hasNext = true := decide_eq_true inside
      unfold follow at ih ⊢
      rw [List.replicate_succ', List.foldl_append, ih before]
      simp [turn?, more]

theorem shown_eq_take (pager : Pager) :
    pager.shown = (pager.found.drop (pager.page * pager.size)).take pager.size := by
  unfold shown
  -- The slice ends with the list at the latest, and so does a `take`.
  rw [List.extract_eq_take_drop, List.take_eq_take_iff, List.length_drop, Nat.succ_mul]
  omega

/-- **The pages one after another make up the list.** -/
theorem flatMap_shown (found : List Document) (size pages : Nat) :
    (List.range pages).flatMap (fun page => (Pager.mk found size page).shown) =
      found.take (pages * size) := by
  induction pages with
  | zero => simp
  | succ pages ih =>
      rw [List.range_succ, List.flatMap_append, ih, List.flatMap_singleton, shown_eq_take,
        Nat.succ_mul, List.take_add]

end Pager

/-! ## Where the pages start -/

namespace StaticStore

variable (store : StaticStore) (query : Query) (size : Nat)

/-- The first page starts where the query does, every other at its first document. -/
def pageStart : Nat → PageStart
  | 0 => query.before
  | page + 1 => (store.found query)[(page + 1) * size]?.map (·.id)

theorem pageStart_succ (page : Nat) :
    store.pageStart query size (page + 1) =
      (store.found query)[(page + 1) * size]?.map (·.id) := rfl

/-- **Asked for a page, the store goes on from there.** -/
theorem found_pageStart {page : Nat}
    (there : page = 0 ∨ page * size < (store.found query).length) :
    store.found (query.startingAt (store.pageStart query size page)) =
      (store.found query).drop (page * size) := by
  cases page with
  | zero =>
      rw [Nat.zero_mul, List.drop_zero]
      rfl
  | succ page =>
      have inside : (page + 1) * size < (store.found query).length :=
        there.resolve_left (Nat.succ_ne_zero page)
      have opens : (store.found query)[(page + 1) * size]? =
          some (store.found query)[(page + 1) * size] := List.getElem?_eq_getElem inside
      have start : store.pageStart query size (page + 1) =
          some (store.found query)[(page + 1) * size].id := by
        rw [pageStart_succ, opens]
        rfl
      rw [start]
      exact store.found_startingAt opens

end StaticStore

/-! ## One document more than a page -/

section Overflow

variable (pageSize : UInt64) (found : List Document)

theorem Paging.next_record_take (paging : Paging) :
    (paging.record pageSize (found.take (pageSize.toNat + 1))).next =
      found[pageSize.toNat]?.map (·.id) := by
  unfold record
  by_cases more : pageSize.toNat < found.length
  · have full : (found.take (pageSize.toNat + 1)).length = pageSize.toNat + 1 :=
      List.length_take_of_le more
    rw [if_pos (by rw [full]; exact Nat.lt_succ_self _), List.getLast?_eq_getElem?, full,
      List.getElem?_take_of_lt (by omega)]
    rfl
  · rw [if_neg (by rw [List.length_take]; omega), List.getElem?_eq_none (Nat.le_of_not_lt more)]
    rfl

theorem Paging.shown_take :
    Paging.shown pageSize (found.take (pageSize.toNat + 1)) = found.take pageSize.toNat := by
  unfold shown
  rw [List.take_take, Nat.min_eq_left (Nat.le_succ _)]

theorem Config.toNat_pageSize_pos (config : Config) : 0 < config.pageSize.toNat := by
  refine Nat.pos_of_ne_zero fun zero => config.pageSize_ne_zero ?_
  exact UInt64.toNat_inj.mp zero

theorem Paging.toNat_requestLimit (small : pageSize.toNat < 2 ^ 64 - 1) :
    (requestLimit pageSize).toNat = pageSize.toNat + 1 := by
  have sum : (pageSize + 1).toNat = pageSize.toNat + 1 := by
    rw [UInt64.toNat_add]
    exact Nat.mod_eq_of_lt (by show pageSize.toNat + 1 < 2 ^ 64; omega)
  have more : pageSize + 1 ≠ 0 := by
    intro none
    rw [none] at sum
    exact Nat.succ_ne_zero _ sum.symm
  unfold requestLimit
  rw [if_neg more, sum]

end Overflow

end FacetSearch
