import FacetSearch.Proofs.Selection.Order
import FacetSearch.Proofs.Session.Call

/-!
# Edits that find nothing to do

To put a term that is there already, or to take out one that is not, asks for no change. But every
edit also drops the terms that the directory does not admit. So what such an edit does depends on
terms that it does not mention: it is skipped while the directory knows every journal that is named,
and once the directory has forgotten one, it drops the journal and searches.
-/

namespace FacetSearch

/-- There is nothing to take out for this term: in a field no equal one, in a slot none at all. -/
def Terms.Lacks (terms : List Term) (term : Term) : Prop :=
  match term.facet with
  | .field _ => term ∉ terms
  | .slot slot => ∀ other ∈ terms, other.facet ≠ .slot slot

/-- The command asks for no change of these terms: to put one that is there, or to take out one that
is not. Nor is there anything to take out for a text without meaning. -/
def Command.Idle (terms : List Term) : Command → Prop
  | .add raw => ∃ term ∈ terms, Term.parse? raw = some term
  | .remove raw => ∀ term, Term.parse? raw = some term → Terms.Lacks terms term
  | _ => False

theorem Command.idle_remove {terms : List Term} {raw : String} {term : Term}
    (parsed : Term.parse? raw = some term) (lacks : Terms.Lacks terms term) :
    Command.Idle terms (.remove raw) := by
  intro other parsed'
  obtain rfl := Option.some.inj (parsed.symm.trans parsed')
  exact lacks

theorem Terms.remove_eq_self {terms : List Term} {term : Term} (lacks : Terms.Lacks terms term) :
    Terms.remove term.facet term terms = terms := by
  unfold Terms.Lacks at lacks
  cases hfacet : term.facet with
  | field field =>
      rw [hfacet] at lacks
      refine List.filter_eq_self.mpr fun other hother => decide_eq_true ?_
      rintro rfl
      exact lacks hother
  | slot slot =>
      rw [hfacet] at lacks
      exact List.filter_eq_self.mpr fun other hother => decide_eq_true (lacks other hother)

/-! ## What is dropped -/

section Known

variable {directory : Directory} {terms : List Term}

/-- Every term is admitted exactly when every journal named is known. -/
theorem Selection.known_eq_self_iff :
    known directory terms = terms ↔
      ∀ name excluded, .matching .journal name excluded ∈ terms →
        (directory.idOf? name).isSome := by
  unfold known
  rw [List.filter_eq_self]
  constructor
  · intro admitted name excluded hterm
    exact admitted _ hterm
  · rintro resolved (⟨field, name, excluded⟩ | id | text | pattern | focus) hterm
    · cases field with
      | journal => exact resolved name excluded hterm
      | tag => rfl
      | title => rfl
      | text => rfl
    · rfl
    · rfl
    · rfl
    · rfl

/-- **All that an idle edit does** is to drop what the directory does not admit. -/
theorem Command.Idle.edit?_eq {command : Command} (idle : command.Idle terms)
    (distinct : Terms.Distinct terms) :
    command.edit? directory terms =
      Selection.changed? terms (Selection.known directory terms) := by
  cases command with
  | add raw =>
      obtain ⟨term, present, parsed⟩ := idle
      show Selection.add? directory raw terms = _
      unfold Selection.add?
      rw [parsed]
      show Selection.changed? terms (Selection.known directory (Terms.merge terms term)) = _
      rw [distinct.merge_eq, if_pos present]
  | remove raw =>
      show Selection.changed? terms (Selection.known directory (Terms.removeTyped raw terms)) = _
      unfold Terms.removeTyped
      cases parsed : Term.parse? raw with
      | none => rfl
      | some term =>
          show Selection.changed? terms
            (Selection.known directory (Terms.remove term.facet term terms)) = _
          rw [Terms.remove_eq_self (idle term parsed)]
  | replace raws => exact absurd idle id
  | set added => exact absurd idle id
  | search => exact absurd idle id
  | next => exact absurd idle id
  | prev => exact absurd idle id

theorem Command.Idle.carryOut?_eq {session : Session} {command : Command}
    (idle : command.Idle session.terms) :
    session.carryOut? directory command =
      (command.edit? directory session.terms).map session.withTerms := by
  cases command with
  | add raw => rfl
  | remove raw => rfl
  | replace raws => exact absurd idle id
  | set added => exact absurd idle id
  | search => exact absurd idle id
  | next => exact absurd idle id
  | prev => exact absurd idle id

end Known

namespace Session

section Idle

variable {directory : Directory} {session : Session} {command : Command}

/-- An idle edit is skipped while there is nothing to drop. -/
theorem begin?_idle_eq_none (idle : command.Idle session.terms)
    (distinct : Terms.Distinct session.terms)
    (known : Selection.known directory session.terms = session.terms) :
    session.begin? directory command = none := by
  rw [begin?_eq_none, idle.carryOut?_eq, idle.edit?_eq distinct, Selection.changed?, if_pos known]
  rfl

/-- When there is something to drop, it searches for the terms that are left. -/
theorem exists_begin?_idle (idle : command.Idle session.terms)
    (distinct : Terms.Distinct session.terms)
    (unknown : Selection.known directory session.terms ≠ session.terms) :
    ∃ beginning ∈ session.begin? directory command,
      beginning.session.terms = Selection.known directory session.terms := by
  have carriedOut : session.carryOut? directory command =
      some (session.withTerms (Selection.known directory session.terms)) := by
    rw [idle.carryOut?_eq, idle.edit?_eq distinct, Selection.changed?, if_neg unknown]
    rfl
  exact ⟨_, begin?_of_carryOut? carriedOut, rfl⟩

end Idle

end Session

namespace Selection

/-- **An idle edit tidies.** Restore a selection and edit it, each time under whatever directory
there is by then. A command that asks for no change of it drops the terms that the present directory
does not admit. It counts as a change, and searches for the terms left, exactly when there are such
terms; that is, when a journal is named that the directory does not know. To put a text without
meaning is no change at all. -/
theorem idle_edit_tidies (directory : Directory) (kept : List String)
    (edits : List (Directory × Edit)) (present : Directory) :
    let terms := Edit.applyAll edits (restore directory kept)
    let tidy := known present terms
    (tidy = terms ↔ ∀ name excluded, .matching .journal name excluded ∈ terms →
      (present.idOf? name).isSome) ∧
    (∀ raw, Term.parse? raw = none → add? present raw terms = none) ∧
    ∀ command, Command.Idle terms command →
      command.edit? present terms = changed? terms tidy ∧
      ∀ session : Session, session.terms = terms →
        (tidy = terms → session.begin? present command = none) ∧
        (tidy ≠ terms →
          ∃ beginning ∈ session.begin? present command, beginning.session.terms = tidy) := by
  intro terms tidy
  have restored : Reached (fun _ _ => True) (restore directory kept) :=
    reached_restore (fun _ => trivial) kept
  have distinct : Terms.Distinct terms := (restored.applyAll fun _ _ => trivial).distinct
  refine ⟨known_eq_self_iff, ?_, ?_⟩
  · intro raw meaningless
    unfold add?
    rw [meaningless]
    rfl
  · intro command idle
    refine ⟨idle.edit?_eq distinct, ?_⟩
    rintro session same
    rw [← same] at idle distinct
    constructor
    · intro known
      exact Session.begin?_idle_eq_none idle distinct (same.symm ▸ known)
    · intro unknown
      have drops : known present session.terms ≠ session.terms := same.symm ▸ unknown
      obtain ⟨beginning, begins, left⟩ := Session.exists_begin?_idle idle distinct drops
      exact ⟨beginning, begins, left.trans (congrArg _ same)⟩

/-- To take a tag out of a selection without tags: nothing happens while the directory knows the
journal, and the journal is dropped when it does not. -/
theorem untagged_tidies :
    let directory : Directory := .ofList [("work", "j")]
    let terms := Edit.applyAll [(directory, .merge (.cursor "d"))]
      (restore directory ["in:work", "word"])
    let session : Session :=
      { Session.new ⟨1, by decide⟩ false directory [] with terms := terms }
    Term.parse? "zz:" = none ∧ add? (.ofList []) "zz:" terms = none ∧
      Command.Idle terms (.remove "tag:a") ∧
      session.begin? directory (.remove "tag:a") = none ∧
      (Command.remove "tag:a").edit? (.ofList []) terms =
        some [.matching .text "word" false, .cursor "d"] ∧
      ∃ beginning ∈ session.begin? (.ofList []) (.remove "tag:a"),
        beginning.session.terms = [.matching .text "word" false, .cursor "d"] := by
  intro directory terms session
  have meaningless : Term.parse? "zz:" = none := by decide +kernel
  have tag : Term.parse? "tag:a" = some (.matching .tag "a" false) := by decide +kernel
  have untagged : .matching .tag "a" false ∉ terms := by decide +kernel
  have idle : Command.Idle terms (.remove "tag:a") := Command.idle_remove tag untagged
  have left : known (.ofList []) terms = [.matching .text "word" false, .cursor "d"] := by
    decide +kernel
  have still : known directory terms = terms := by decide +kernel
  have dropped : known (.ofList []) terms ≠ terms := by decide +kernel
  have under := idle_edit_tidies directory ["in:work", "word"] [(directory, .merge (.cursor "d"))]
  obtain ⟨-, -, knowing⟩ := under directory
  obtain ⟨-, ignored, forgetful⟩ := under (.ofList [])
  obtain ⟨edited, called⟩ := forgetful _ idle
  refine ⟨meaningless, ignored _ meaningless, idle, ?_, ?_, ?_⟩
  · exact ((knowing _ idle).2 session rfl).1 still
  · rw [edited, changed?, if_neg dropped, left]
  · obtain ⟨beginning, begins, rest⟩ := (called session rfl).2 dropped
    exact ⟨beginning, begins, rest.trans left⟩

/-- A command that asks for no change of the terms is skipped. -/
def IdleEditsKeep (present : Directory) (terms : List Term) : Prop :=
  ∀ command, Command.Idle terms command → command.edit? present terms = none

/-- **An idle edit may be a change.** The directory has forgotten the one journal of a selection, and
the journal is dropped whatever is asked for: to take out a text without meaning, to take out a tag
that is not there, or to put the journal that is there. -/
theorem forgotten_not_idleEditsKeep :
    let terms := restore (.ofList [("work", "j")]) ["in:work"]
    terms = [.matching .journal "work" false] ∧
      (∀ command ∈ [.remove "zz:", .remove "tag:a", .add "in:work"],
        Command.Idle terms command ∧ command.edit? (.ofList []) terms = some []) ∧
      ¬ IdleEditsKeep (.ofList []) terms := by
  intro terms
  have named : terms = [.matching .journal "work" false] := by decide +kernel
  have dropped : ∀ command ∈ [.remove "zz:", .remove "tag:a", .add "in:work"],
      Command.Idle terms command ∧ command.edit? (.ofList []) terms = some [] := by
    rw [named]
    intro command hcommand
    simp only [List.mem_cons, List.not_mem_nil, or_false] at hcommand
    rcases hcommand with rfl | rfl | rfl
    · refine ⟨?_, by decide +kernel⟩
      intro term parsed
      rw [show Term.parse? "zz:" = none by decide +kernel] at parsed
      cases parsed
    · have tag : Term.parse? "tag:a" = some (.matching .tag "a" false) := by decide +kernel
      have untagged : Term.matching .tag "a" false ∉ [.matching .journal "work" false] := by decide
      exact ⟨Command.idle_remove tag untagged, by decide +kernel⟩
    · exact ⟨⟨_, List.mem_cons_self, by decide +kernel⟩, by decide +kernel⟩
  refine ⟨named, dropped, ?_⟩
  intro law
  obtain ⟨idle, changed⟩ := dropped _ List.mem_cons_self
  rw [law _ idle] at changed
  cases changed

end Selection

end FacetSearch
