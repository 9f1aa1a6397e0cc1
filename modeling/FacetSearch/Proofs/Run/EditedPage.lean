import FacetSearch.Proofs.Run.Reachable
import FacetSearch.Proofs.Selection.Slots

/-!
# The page after an edit

Where a page starts is kept twice: as the cursor among the terms, and, for the way back, in the
history of the pages left. An edit of the terms forgets the history but not the cursor. So it does
not search from the first page: it asks for the page that starts where the page before it did, now
among other results, and no way leads back from there. Only to take out the cursor itself, as a
term, leads to the first page.
-/

namespace FacetSearch.Run

variable {may : Move → Prop} {run : Run}

/-- After an edit the page starts at the cursor of the edited terms. -/
theorem before_begun_edited {directory : Directory} {session : Session} {command : Command}
    {terms : List Term} (distinct : Terms.Distinct session.terms)
    (edit : command.edit? directory session.terms = some terms) :
    ((session.withTerms terms).begun directory command).request.query.before =
      Terms.cursor? terms :=
  Query.before_ofTerms (Command.distinct_of_edit? distinct edit) _

/-- **An edit stays on the page.** Adding a typed term that is no cursor asks for the page that
starts where the present one does. So does removing one, unless it is a cursor: then the first page
is asked for. -/
theorem edit_stays_on_page (reached : Reachable may run) (raw : String) :
    (∀ beginning ∈ run.session.begin? run.directory (.add raw),
      (Term.parse? raw).map Term.facet ≠ some (.slot .before) →
      beginning.request.query.before = Terms.cursor? run.session.terms) ∧
    ∀ beginning ∈ run.session.begin? run.directory (.remove raw),
      beginning.request.query.before =
        if (Term.parse? raw).map Term.facet = some (.slot .before) then none
        else Terms.cursor? run.session.terms := by
  constructor
  · intro beginning begins other
    obtain ⟨changed, carriedOut, rfl⟩ := Session.begin?_eq_some begins
    cases carriedOut with
    | edited edit =>
        rw [before_begun_edited reached.distinct edit]
        exact Selection.slotValue?_of_add? reached.distinct edit other
  · intro beginning begins
    obtain ⟨changed, carriedOut, rfl⟩ := Session.begin?_eq_some begins
    cases carriedOut with
    | edited edit =>
        rw [before_begun_edited reached.distinct edit]
        exact Selection.slotValue?_of_remove? edit

/-- A run in which a word is searched for and the second page of its results is shown. -/
def turnedOver : Run :=
  rehearsal [.call (.add "word"), .answer 0 (.documents [rehearsed "b", rehearsed "a"]),
    .call .next, .answer 1 (.documents [rehearsed "a"])]

theorem reachable_turnedOver : Reachable Move.KeepsDirectory turnedOver :=
  reachable_rehearsal _ (by simp [Move.KeepsDirectory])

theorem turnedOver_stays_on_page :
    Reachable Move.KeepsDirectory turnedOver ∧
    (∃ beginning, turnedOver.session.begin? turnedOver.directory (.add "note") = some beginning ∧
      beginning.request.query.before = some "a") ∧
    (∃ beginning, turnedOver.session.begin? turnedOver.directory (.remove "word") = some beginning ∧
      beginning.request.query.before = some "a") ∧
    ∃ beginning, turnedOver.session.begin? turnedOver.directory (.remove "before:x") =
        some beginning ∧
      beginning.request.query.before = none := by
  have cursor : Terms.cursor? turnedOver.session.terms = some "a" := by decide +kernel
  have added : (turnedOver.session.begin? turnedOver.directory (.add "note")).isSome := by
    decide +kernel
  have removed : (turnedOver.session.begin? turnedOver.directory (.remove "word")).isSome := by
    decide +kernel
  have cleared : (turnedOver.session.begin? turnedOver.directory (.remove "before:x")).isSome := by
    decide +kernel
  refine ⟨reachable_turnedOver, ?_, ?_, ?_⟩
  · obtain ⟨beginning, begins⟩ := Option.isSome_iff_exists.mp added
    refine ⟨beginning, begins, ?_⟩
    rw [(edit_stays_on_page reachable_turnedOver "note").1 beginning begins (by decide +kernel)]
    exact cursor
  · obtain ⟨beginning, begins⟩ := Option.isSome_iff_exists.mp removed
    refine ⟨beginning, begins, ?_⟩
    rw [(edit_stays_on_page reachable_turnedOver "word").2 beginning begins,
      if_neg (by decide +kernel)]
    exact cursor
  · obtain ⟨beginning, begins⟩ := Option.isSome_iff_exists.mp cleared
    refine ⟨beginning, begins, ?_⟩
    rw [(edit_stays_on_page reachable_turnedOver "before:x").2 beginning begins,
      if_pos (by decide +kernel)]

/-- Every edit of the terms by a typed text, but for a new cursor, asks for the first page. -/
def EditsFromFirstPage (run : Run) : Prop :=
  ∀ raw,
    (∀ beginning ∈ run.session.begin? run.directory (.add raw),
      (Term.parse? raw).map Term.facet ≠ some (.slot .before) →
      beginning.request.query.before = none) ∧
    ∀ beginning ∈ run.session.begin? run.directory (.remove raw),
      beginning.request.query.before = none

/-- **An edit may ask for a later page.** Both a word added and a word taken out on the second page
keep the cursor of that page. -/
theorem turnedOver_not_editsFromFirstPage :
    Reachable Move.KeepsDirectory turnedOver ∧ ¬ turnedOver.EditsFromFirstPage := by
  refine ⟨reachable_turnedOver, ?_⟩
  intro law
  have later : (turnedOver.session.begin? turnedOver.directory (.add "note")).map
      (·.request.query.before) = some (some "a") := by
    decide +kernel
  obtain ⟨beginning, begins, starts⟩ := Option.map_eq_some_iff.mp later
  have first := (law "note").1 beginning begins (by decide +kernel)
  rw [starts] at first
  cases first

end FacetSearch.Run
