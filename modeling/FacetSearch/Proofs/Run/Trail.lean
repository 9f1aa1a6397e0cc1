import FacetSearch.Proofs.Run.Reachable

/-!
# The trail of pages

The cursor of the present page is one of the terms, and the pages behind are kept apart from it. Put
together they are a trail, the present page in front. Only at the end of a trail can the first page
of the results stand, since every other page was turned to by its cursor. A turn forward puts a page
in front of the trail and a turn back takes one away. An edit or a plain search begins a new trail,
and nothing else touches it. So while there are pages behind, the terms hold a cursor, and only the
turn back that leaves no page behind can take it out.
-/

namespace FacetSearch

/-! ## The cursor among the terms -/

/-- The identifier that a cursor names. -/
def Term.cursor? : Term → Option String
  | .cursor id => some id
  | _ => none

theorem Term.cursor?_of_facet_ne {term : Term} (other : term.facet ≠ .slot .before) :
    term.cursor? = none := by
  cases term with
  | cursor id => exact absurd rfl other
  | _ => rfl

namespace Terms

/-- The identifiers of all cursors among the terms. -/
def cursors (terms : List Term) : List String := terms.filterMap Term.cursor?

/-- Distinct terms hold the cursor of their page, if it has one, and no other. -/
theorem Distinct.cursors_eq {terms : List Term} (h : Distinct terms) :
    cursors terms = (cursor? terms).toList := by
  induction terms with
  | nil => rfl
  | cons term rest ih =>
      unfold cursor? cursors at ih ⊢
      rw [slotValue?_cons]
      cases term with
      | cursor id =>
          have others : rest.filterMap Term.cursor? = [] :=
            List.filterMap_eq_nil_iff.mpr fun other hother =>
              Term.cursor?_of_facet_ne (h.facet_ne_of_cons rfl other hother)
          show id :: rest.filterMap Term.cursor? = _
          rw [others]
          rfl
      | _ => exact ih (List.Pairwise.of_cons h)

end Terms

/-! ## Trails -/

namespace Paging

/-- Only the last of these pages can be the first page of the results. -/
def FirstPageLast (trail : List PageStart) : Prop :=
  ∀ start ∈ trail.dropLast, start ≠ none

variable {start next : PageStart} {trail : List PageStart}

theorem firstPageLast_singleton (start : PageStart) : FirstPageLast [start] :=
  fun _ hother => absurd hother List.not_mem_nil

theorem firstPageLast_cons_cons :
    FirstPageLast (start :: next :: trail) ↔ start ≠ none ∧ FirstPageLast (next :: trail) := by
  unfold FirstPageLast
  rw [List.dropLast_cons_cons, List.forall_mem_cons]

theorem FirstPageLast.of_cons (h : FirstPageLast (start :: trail)) : FirstPageLast trail := by
  cases trail with
  | nil => exact fun _ hother => absurd hother List.not_mem_nil
  | cons next trail => exact (firstPageLast_cons_cons.mp h).2

/-- Nothing lies behind the first page. -/
theorem FirstPageLast.eq_nil_of_none (h : FirstPageLast (none :: trail)) : trail = [] := by
  cases trail with
  | nil => rfl
  | cons next trail => exact absurd rfl (firstPageLast_cons_cons.mp h).1

end Paging

namespace Session

open Paging (FirstPageLast firstPageLast_singleton firstPageLast_cons_cons)

/-- Where the present page and the pages behind it start, the oldest last. -/
def trail (session : Session) : List PageStart :=
  Terms.cursor? session.terms :: session.paging.history

section Trail

variable {directory : Directory} {command : Command} {session changed : Session}

theorem trail_turned (h : Terms.Distinct session.terms) {start : PageStart} {paging : Paging} :
    (session.turned directory start paging).trail = start :: paging.history :=
  congrArg (· :: paging.history) (cursor?_turned h)

theorem trail_receive {version : UInt64} {reply : Reply} :
    (session.receive version reply).session.trail = session.trail := by
  unfold trail
  rw [terms_receive, history_receive]

/-- **Whatever a command does**, only the oldest page of the trail can be the first page. -/
theorem CarriedOut.firstPageLast_trail (h : CarriedOut directory session command changed)
    (distinct : Terms.Distinct session.terms) (last : FirstPageLast session.trail) :
    FirstPageLast changed.trail := by
  cases h with
  | edited edit => exact firstPageLast_singleton _
  | searched => exact firstPageLast_singleton _
  | forward cursor =>
      -- The whole trail there was now lies behind the page turned to, and that one has a cursor.
      rw [trail_turned distinct]
      exact firstPageLast_cons_cons.mpr ⟨Option.some_ne_none _, last⟩
  | back left =>
      unfold trail at last
      rw [left] at last
      rw [trail_turned distinct]
      exact (firstPageLast_cons_cons.mp last).2

end Trail

end Session

namespace Run

open Paging (FirstPageLast firstPageLast_singleton firstPageLast_cons_cons)

theorem firstPageLast_trail_step {run after : Run} {move : Move} (moved : Moved run move after)
    (distinct : Terms.Distinct run.session.terms) (last : FirstPageLast run.session.trail) :
    FirstPageLast after.session.trail := by
  cases moved with
  | skipped nothing => exact last
  | began carriedOut => exact carriedOut.firstPageLast_trail distinct last
  | ended waits =>
      show FirstPageLast (run.session.receive _ _).session.trail
      rw [Session.trail_receive]
      exact last
  | cancelled waits => exact last
  | unheard gone => exact last
  | missed gone => exact last
  | redirected directory => exact last

/-- In every run only the oldest page of the trail can be the first page of the results. -/
theorem Reachable.firstPageLast_trail {may : Move → Prop} {run : Run}
    (reached : Reachable may run) : FirstPageLast run.session.trail := by
  induction reached with
  | new config saves directory kept => exact firstPageLast_singleton _
  | step reached _ ih => exact firstPageLast_trail_step (moved_step _ _) reached.distinct ih

/-- While pages are behind, the terms hold one cursor. -/
theorem Reachable.exists_cursor {may : Move → Prop} {run : Run} (reached : Reachable may run)
    (left : run.session.paging.history ≠ []) : ∃ id, Terms.cursors run.session.terms = [id] := by
  obtain ⟨start, behind, split⟩ := List.exists_cons_of_ne_nil left
  have last : FirstPageLast (Terms.cursor? run.session.terms :: start :: behind) :=
    split ▸ reached.firstPageLast_trail
  obtain ⟨id, cursor⟩ := Option.ne_none_iff_exists'.mp (firstPageLast_cons_cons.mp last).1
  refine ⟨id, ?_⟩
  rw [reached.distinct.cursors_eq, cursor]
  rfl

/-! ## Turning back -/

section Back

variable {run : Run}

/-- A turn back takes the page left last from the pages behind, and its cursor, if it has one, takes
the place of the present one. -/
theorem session_call_prev {start : PageStart} {behind : List PageStart}
    (left : run.session.paging.history = start :: behind)
    (distinct : Terms.Distinct run.session.terms) :
    (run.call .prev).session.paging.history = behind ∧
      Terms.cursors (run.call .prev).session.terms = start.toList := by
  rw [call_begun (Session.begin?_of_carryOut? (Session.carryOut?_prev left))]
  refine ⟨rfl, ?_⟩
  show Terms.cursors (run.session.turned run.directory start _).terms = start.toList
  rw [(Session.distinct_turned distinct).cursors_eq, Session.cursor?_turned distinct]

/-- Where no page is behind, there is no turn back. -/
theorem session_call_prev_of_nil (nothing : run.session.paging.history = []) :
    (run.call .prev).session = run.session := by
  rw [call_skipped (Session.begin?_eq_none.mpr (Session.carryOut?_prev_of_nil nothing))]

/-- **Only the oldest page behind can be the first page.** However calls, answers and changes of the
directory follow each other, all pages behind but the oldest start at a cursor, and while there are
pages behind the terms hold a cursor. So a turn back takes the cursor out only if it leaves no page
behind; any other puts the cursor of the page left last in its place. With no page behind, a call to
turn back changes nothing. -/
theorem only_oldest_page_behind_is_first (reached : Reachable Move.Any run) :
    let history := run.session.paging.history
    let back := (run.call .prev).session
    (∀ start ∈ history.dropLast, start ≠ none) ∧
    (history ≠ [] → ∃ id, Terms.cursors run.session.terms = [id]) ∧
    (history = [] → back = run.session) ∧
    ∀ start behind, history = start :: behind →
      back.paging.history = behind ∧
      match start with
      | none => behind = [] ∧ Terms.cursors back.terms = []
      | some id => Terms.cursors back.terms = [id] := by
  intro history back
  refine ⟨reached.firstPageLast_trail.of_cons, reached.exists_cursor, session_call_prev_of_nil, ?_⟩
  intro start behind left
  obtain ⟨rest, cursors⟩ := session_call_prev left reached.distinct
  refine ⟨rest, ?_⟩
  cases start with
  | some id => exact cursors
  | none =>
      have last : FirstPageLast (none :: behind) := left ▸ reached.firstPageLast_trail.of_cons
      exact ⟨last.eq_nil_of_none, cursors⟩

end Back

/-- A run that has turned to the third page of its results, when the directory changes and the
answer for that page is given up. -/
def leafedThrough : Run :=
  rehearsal [.call (.add "word"), .answer 0 (.documents [rehearsed "d", rehearsed "c"]),
    .call .next, .answer 1 (.documents [rehearsed "c", rehearsed "b"]), .call .next,
    .setDirectory ⟨fun _ => some "j"⟩, .cancel 2]

theorem leafedThrough_only_oldest_is_first :
    let once := leafedThrough.step (.call .prev)
    let twice := once.step (.call .prev)
    Reachable Move.Any leafedThrough ∧
    (some "c" ∈ leafedThrough.session.paging.history.dropLast ∧ some "c" ≠ none) ∧
    (leafedThrough.session.paging.history ≠ [] ∧
      ∃ id, Terms.cursors leafedThrough.session.terms = [id]) ∧
    (leafedThrough.session.paging.history = [some "c", none] ∧
      once.session.paging.history = [none] ∧ Terms.cursors once.session.terms = ["c"]) ∧
    (twice.session.paging.history = [] ∧ Terms.cursors twice.session.terms = []) ∧
    (twice.call .prev).session = twice.session := by
  intro once twice
  have reached : Reachable Move.Any leafedThrough := reachable_rehearsal _ (by simp [Move.Any])
  have reachedOnce : Reachable Move.Any once := reached.step trivial
  have reachedTwice : Reachable Move.Any twice := reachedOnce.step trivial
  have left : leafedThrough.session.paging.history = [some "c", none] := by decide +kernel
  have some_left : leafedThrough.session.paging.history ≠ [] := by simp [left]
  have later : some "c" ∈ leafedThrough.session.paging.history.dropLast := by simp [left]
  obtain ⟨starts, present, -, back⟩ := only_oldest_page_behind_is_first reached
  obtain ⟨leftOnce, cursorsOnce⟩ := back _ _ left
  obtain ⟨leftTwice, -, cursorsTwice⟩ :=
    (only_oldest_page_behind_is_first reachedOnce).2.2.2 none [] leftOnce
  exact ⟨reached, ⟨later, starts _ later⟩, ⟨some_left, present some_left⟩,
    ⟨left, leftOnce, cursorsOnce⟩, ⟨leftTwice, cursorsTwice⟩,
    (only_oldest_page_behind_is_first reachedTwice).2.2.1 leftTwice⟩

end Run

end FacetSearch
