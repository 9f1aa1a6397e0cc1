import FacetSearch.Proofs.Selection.Restore
import FacetSearch.Proofs.Session.Call

/-!
# Selections that are loaded

A row of typed texts may become a selection in several ways. A new session puts the texts one by one,
and drops what the directory does not admit each time. To set the terms, or to put the texts in place
of a selection, is to put all of them first and to drop once. The selection is the same.
-/

namespace FacetSearch.Selection

variable {directory : Directory} {raws : List String} {terms after : List Term}

theorem eq_of_replace? (replaced : replace? directory raws terms = some after) :
    after = ofTerms directory (Term.parseAll raws) := by
  unfold replace? at replaced
  exact (Option.some.inj (Option.ite_none_left_eq_some.mp replaced).2).symm

/-- In place of nothing, texts are skipped only if they mean nothing. -/
theorem apply_replace_nil (directory : Directory) (raws : List String) :
    (Edit.replace raws).apply directory [] = ofTerms directory (Term.parseAll raws) := by
  show (replace? directory raws []).getD [] = _
  cases replaced : replace? directory raws [] with
  | none =>
      have written := (replace?_eq_none.mp replaced).symm.eq_nil
      exact (List.map_eq_nil_iff.mp written).symm
  | some after => exact eq_of_replace? replaced

/-- **All ways to load a selection agree.** Take the selection restored from typed texts, one by one.
To set the terms that the texts mean gives it, whatever was selected before. To put the texts in place
of nothing gives it too, and so does to put them in place of any other selection, if that counts as a
change. A new session begins with it, and a session that is told to set or to replace goes on with
it. -/
theorem loads_agree (directory : Directory) (raws : List String) :
    let loaded := restore directory raws
    (∀ terms, (Edit.set (Term.parseAll raws)).apply directory terms = loaded) ∧
    (Edit.replace raws).apply directory [] = loaded ∧
    (∀ terms, ∀ after ∈ replace? directory raws terms, after = loaded) ∧
    (∀ config saves, (Session.new config saves directory raws).terms = loaded) ∧
    ∀ session : Session,
      session.carryOut? directory (.set (Term.parseAll raws)) = some (session.withTerms loaded) ∧
      ∀ changed ∈ session.carryOut? directory (.replace raws),
        changed = session.withTerms loaded := by
  intro loaded
  have all_at_once : loaded = ofTerms directory (Term.parseAll raws) :=
    restore_eq_ofTerms directory raws
  rw [all_at_once]
  refine ⟨fun terms => rfl, apply_replace_nil directory raws, ?_, ?_, ?_⟩
  · intro terms after replaced
    exact eq_of_replace? replaced
  · intro config saves
    exact all_at_once
  · intro session
    refine ⟨rfl, ?_⟩
    rintro changed carriedOut
    obtain ⟨after, replaced, rfl⟩ := Option.map_eq_some_iff.mp carriedOut
    rw [eq_of_replace? replaced]

/-- Texts with a journal that is unknown, wanted and excluded, a cursor that is put twice, two
spellings of one tag and a text that means nothing. -/
def untidy : List String :=
  ["before:a", "in:gone", "tag:#Urgent", "in:work", "zz:", "before:b", "-in:gone", "TAG:urgent",
    "in:work", "word"]

theorem untidy_loads_agree :
    let loaded := [.matching .tag "urgent" false, .matching .journal "work" false, .cursor "b",
      .matching .text "word" false]
    restore oneJournal untidy = loaded ∧
      (Edit.set (Term.parseAll untidy)).apply oneJournal planned = loaded ∧
      (Edit.replace untidy).apply oneJournal [] = loaded ∧
      replace? oneJournal untidy planned = some loaded := by
  intro loaded
  have restored : restore oneJournal untidy = loaded := by decide +kernel
  have changes : (replace? oneJournal untidy planned).isSome := by decide +kernel
  obtain ⟨set, replaced, replaces, -⟩ := loads_agree oneJournal untidy
  obtain ⟨after, found⟩ := Option.isSome_iff_exists.mp changes
  refine ⟨restored, (set planned).trans restored, replaced.trans restored, ?_⟩
  rw [found, replaces planned after found, restored]

end FacetSearch.Selection
