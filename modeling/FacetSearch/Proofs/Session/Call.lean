import FacetSearch.Session.Run
import FacetSearch.Proofs.Query.Page
import FacetSearch.Proofs.Selection.Edit

/-!
# What a call does to a session

A call does one of four things: it edits the terms, it searches again, or it turns the page, forward
or back. Whatever it does, it ends by asking the store for the terms as they then are. An answer
never touches the terms or the way back; a late one touches nothing at all.
-/

namespace FacetSearch

/-- The terms after an edit, if the command is an edit and changes them. -/
def Command.edit? (directory : Directory) (terms : List Term) : Command → Option (List Term)
  | .add raw => Selection.add? directory raw terms
  | .remove raw => Selection.remove? directory raw terms
  | .replace raws => Selection.replace? directory raws terms
  | .set added => some (Selection.ofTerms directory added)
  | .search => none
  | .next => none
  | .prev => none

/-- What a command makes of the terms, an edit of the selection makes of them too. -/
theorem Command.exists_apply_of_edit? {directory : Directory} {terms after : List Term}
    {command : Command} (edited : command.edit? directory terms = some after) :
    ∃ edit : Selection.Edit, after = edit.apply directory terms := by
  cases command with
  | add raw => exact ⟨.add raw, (congrArg (Option.getD · terms) edited).symm⟩
  | remove raw => exact ⟨.remove raw, (congrArg (Option.getD · terms) edited).symm⟩
  | replace raws => exact ⟨.replace raws, (congrArg (Option.getD · terms) edited).symm⟩
  | set added => exact ⟨.set added, (Option.some.inj edited).symm⟩
  | search => exact absurd edited (by simp [edit?])
  | next => exact absurd edited (by simp [edit?])
  | prev => exact absurd edited (by simp [edit?])

theorem Command.distinct_of_edit? {directory : Directory} {terms after : List Term}
    {command : Command} (h : Terms.Distinct terms)
    (edited : command.edit? directory terms = some after) : Terms.Distinct after := by
  obtain ⟨edit, rfl⟩ := exists_apply_of_edit? edited
  exact (edit.edited_apply directory terms).distinct h

namespace Session

/-- The session after a turn of the page, with the pages that then lie behind. -/
def turned (directory : Directory) (start : PageStart) (paging : Paging) (session : Session) :
    Session :=
  { session with paging := paging }.turnTo directory start

/-- All that a command can do. -/
inductive CarriedOut (directory : Directory) (session : Session) : Command → Session → Prop
  | edited {command : Command} {terms : List Term}
      (edit : command.edit? directory session.terms = some terms) :
      CarriedOut directory session command (session.withTerms terms)
  | searched :
      CarriedOut directory session .search { session with paging := session.paging.reset }
  | forward {id : String} (cursor : session.paging.next = some id) :
      CarriedOut directory session .next
        (session.turned directory (some id)
          ⟨none, Terms.cursor? session.terms :: session.paging.history⟩)
  | back {start : PageStart} {history : List PageStart}
      (left : session.paging.history = start :: history) :
      CarriedOut directory session .prev
        (session.turned directory start { session.paging with history := history })

section CarryOut

variable {directory : Directory} {command : Command} {session changed : Session}

/-- **A command edits, searches again, or turns the page.** -/
theorem carriedOut_of_carryOut? (h : session.carryOut? directory command = some changed) :
    CarriedOut directory session command changed := by
  cases command with
  | add raw =>
      obtain ⟨terms, edit, rfl⟩ := Option.map_eq_some_iff.mp h
      exact .edited edit
  | remove raw =>
      obtain ⟨terms, edit, rfl⟩ := Option.map_eq_some_iff.mp h
      exact .edited edit
  | replace raws =>
      obtain ⟨terms, edit, rfl⟩ := Option.map_eq_some_iff.mp h
      exact .edited edit
  | set added =>
      obtain rfl := Option.some.inj h
      exact .edited rfl
  | search =>
      obtain rfl := Option.some.inj h
      exact .searched
  | next =>
      cases cursor : session.paging.next with
      | none => simp [carryOut?, Paging.advance?, cursor] at h
      | some id =>
          obtain rfl : session.turned directory (some id)
              ⟨none, Terms.cursor? session.terms :: session.paging.history⟩ = changed := by
            simpa [carryOut?, Paging.advance?, cursor, turned] using h
          exact .forward cursor
  | prev =>
      cases left : session.paging.history with
      | nil => simp [carryOut?, Paging.retreat?, left] at h
      | cons start history =>
          obtain rfl : session.turned directory start
              { session.paging with history := history } = changed := by
            simpa [carryOut?, Paging.retreat?, left, turned] using h
          exact .back left

theorem carryOut?_next {id : String} (cursor : session.paging.next = some id) :
    session.carryOut? directory .next = some (session.turned directory (some id)
      ⟨none, Terms.cursor? session.terms :: session.paging.history⟩) := by
  simp [carryOut?, Paging.advance?, cursor, turned]

theorem carryOut?_prev {start : PageStart} {history : List PageStart}
    (left : session.paging.history = start :: history) :
    session.carryOut? directory .prev =
      some (session.turned directory start { session.paging with history := history }) := by
  simp [carryOut?, Paging.retreat?, left, turned]

theorem carryOut?_next_of_none (unknown : session.paging.next = none) :
    session.carryOut? directory .next = none := by
  simp [carryOut?, Paging.advance?, unknown]

theorem carryOut?_prev_of_nil (nothing : session.paging.history = []) :
    session.carryOut? directory .prev = none := by
  simp [carryOut?, Paging.retreat?, nothing]

/-- There is nothing to turn to exactly when the session says so. -/
theorem carryOut?_next_eq_none :
    session.carryOut? directory .next = none ↔ session.paging.hasNext = false := by
  cases cursor : session.paging.next with
  | none => simp [carryOut?_next_of_none cursor, Paging.hasNext, cursor]
  | some id => simp [carryOut?_next cursor, Paging.hasNext, cursor]

theorem carryOut?_prev_eq_none :
    session.carryOut? directory .prev = none ↔ session.paging.hasPrev = false := by
  cases left : session.paging.history with
  | nil => simp [carryOut?_prev_of_nil left, Paging.hasPrev, left]
  | cons start history => simp [carryOut?_prev left, Paging.hasPrev, left]

end CarryOut

/-! ## Turning the page -/

section Turned

variable {directory : Directory} {start : PageStart} {paging : Paging} {session : Session}

theorem terms_turned :
    (session.turned directory start paging).terms =
      match start with
      | some id => Selection.known directory (Terms.merge session.terms (.cursor id))
      | none => session.terms.filter (·.facet ≠ .slot .before) := by
  cases start with
  | some id => exact Selection.getD_changed? _ _
  | none => exact Selection.getD_changed? _ _

/-- A turn of the page is an edit of the selection. -/
theorem exists_apply_turned :
    ∃ edit : Selection.Edit,
      (session.turned directory start paging).terms = edit.apply directory session.terms := by
  cases start with
  | some id => exact ⟨.merge (.cursor id), rfl⟩
  | none => exact ⟨.clear (.slot .before), rfl⟩

theorem distinct_turned (h : Terms.Distinct session.terms) :
    Terms.Distinct (session.turned directory start paging).terms := by
  obtain ⟨edit, edited⟩ := exists_apply_turned
  rw [edited]
  exact (edit.edited_apply directory session.terms).distinct h

/-- Another page of the same search. -/
theorem query_turned (h : Terms.Distinct session.terms) :
    (session.turned directory start paging).query directory =
      (session.query directory).startingAt start := by
  unfold query
  rw [terms_turned]
  cases start with
  | some id =>
      show Query.ofTerms directory _ (Selection.known directory _) = _
      rw [Query.ofTerms_known, Query.ofTerms_merge_cursor h]
      rfl
  | none => exact Query.ofTerms_filter_before _ _

/-- The cursor among the terms is the one that was turned to. -/
theorem cursor?_turned (h : Terms.Distinct session.terms) :
    Terms.cursor? (session.turned directory start paging).terms = start := by
  rw [← Query.before_ofTerms (distinct_turned h) (Paging.requestLimit session.config.pageSize)]
  exact congrArg Query.before (query_turned h)

/-- The other terms stay as they are, if the directory admits them. -/
theorem withoutCursor_turned (h : Terms.Distinct session.terms)
    (admitted : Selection.known directory session.terms = session.terms) :
    Terms.withoutCursor (session.turned directory start paging).terms =
      Terms.withoutCursor session.terms := by
  rw [terms_turned]
  unfold Terms.withoutCursor
  cases start with
  | some id =>
      have fills : (Term.cursor id).facet = .slot .before := rfl
      have still : Selection.known directory (session.terms.filter (·.facet ≠ .slot .before)) =
          session.terms.filter (·.facet ≠ .slot .before) :=
        Selection.Edit.known_filter admitted _
      show (Selection.known directory (Terms.merge session.terms (.cursor id))).filter _ = _
      rw [h.merge_slot fills]
      split
      · rw [admitted]
      · unfold Selection.known at still ⊢
        rw [List.filter_append, still, List.filter_append]
        simp [Directory.admits, fills]
  | none => simp

end Turned

section Frame

variable {directory : Directory} {command : Command} {session changed : Session}

/-- Before the store is asked, a command changes only the terms and the paging. -/
theorem CarriedOut.eq_with (h : CarriedOut directory session command changed) :
    changed = { session with terms := changed.terms, paging := changed.paging } := by
  cases h with
  | edited edit => rfl
  | searched => rfl
  | forward cursor => rfl
  | back left => rfl

/-- No command finds a cursor: it keeps the one there is, or uses it up. -/
theorem CarriedOut.next_eq (h : CarriedOut directory session command changed) {id : String}
    (cursor : changed.paging.next = some id) : session.paging.next = some id := by
  cases h with
  | edited edit => exact cursor
  | searched => exact cursor
  | forward used => cases cursor
  | back left => exact cursor

/-- Whatever a command makes of the terms, an edit of the selection makes of them too, if they do
not stay as they are. -/
theorem CarriedOut.terms_eq_or (h : CarriedOut directory session command changed) :
    changed.terms = session.terms ∨
      ∃ edit : Selection.Edit, changed.terms = edit.apply directory session.terms := by
  cases h with
  | edited edit => exact Or.inr (Command.exists_apply_of_edit? edit)
  | searched => exact Or.inl rfl
  | forward cursor => exact Or.inr exists_apply_turned
  | back left => exact Or.inr exists_apply_turned

end Frame

/-! ## Asking the store -/

/-- What a command begins, once it has changed the session. -/
def begun (directory : Directory) (command : Command) (changed : Session) : Begun :=
  let (asking, request) := changed.ask directory
  ⟨asking, changed.announcements command ++ [.ask request], request⟩

theorem begin?_eq (directory : Directory) (command : Command) (session : Session) :
    session.begin? directory command =
      (session.carryOut? directory command).map (begun directory command) := by
  unfold begin?
  cases session.carryOut? directory command <;> rfl

theorem begin?_eq_none {directory : Directory} {command : Command} {session : Session} :
    session.begin? directory command = none ↔ session.carryOut? directory command = none := by
  rw [begin?_eq, Option.map_eq_none_iff]

theorem begin?_of_carryOut? {directory : Directory} {command : Command} {session changed : Session}
    (carriedOut : session.carryOut? directory command = some changed) :
    session.begin? directory command = some (changed.begun directory command) := by
  rw [begin?_eq, carriedOut]
  rfl

theorem begin?_eq_some {directory : Directory} {command : Command} {session : Session}
    {beginning : Begun} (h : session.begin? directory command = some beginning) :
    ∃ changed, CarriedOut directory session command changed ∧
      beginning = changed.begun directory command := by
  rw [begin?_eq] at h
  obtain ⟨changed, carriedOut, rfl⟩ := Option.map_eq_some_iff.mp h
  exact ⟨changed, carriedOut_of_carryOut? carriedOut, rfl⟩

/-- A command sends one query to the store, and sends it last. -/
theorem queries_begun (directory : Directory) (command : Command) (session : Session) :
    Effect.queries (session.begun directory command).effects = [session.query directory] := by
  show Effect.queries (session.announcements command ++ [.ask _]) = _
  unfold announcements Effect.queries
  rw [List.filterMap_append]
  cases command <;> cases session.saves <;> rfl

/-! ## The answer -/

section Receive

variable {session : Session} {version : UInt64} {reply : Reply}

/-- **A late answer**, whatever it says, is dropped. -/
theorem receive_late (late : version ≠ session.versions.newest) :
    session.receive version reply = ⟨session, [], .superseded⟩ := by
  simp [receive, Versions.isCurrent, late]

theorem receive_documents (answer : List Document) :
    session.receive session.versions.newest (.documents answer) =
      session.showPage session.versions.newest answer := by
  simp [receive, Versions.isCurrent]

/-- A failure changes the two flags that tell of it, and nothing else. -/
theorem receive_failure (error : SearchError) :
    session.receive session.versions.newest (.failure error) =
      session.fail session.versions.newest error := by
  simp [receive, Versions.isCurrent]

/-- No answer changes the terms, the way back, or the numbering. -/
theorem receive_eq_with :
    (session.receive version reply).session =
      { session with
        paging := { session.paging with
          next := (session.receive version reply).session.paging.next }
        documents := (session.receive version reply).session.documents
        loading := (session.receive version reply).session.loading
        error := (session.receive version reply).session.error } := by
  unfold receive
  split
  · cases reply <;> rfl
  · rfl

theorem terms_receive : (session.receive version reply).session.terms = session.terms := by
  rw [receive_eq_with]

theorem versions_receive :
    (session.receive version reply).session.versions = session.versions := by
  rw [receive_eq_with]

theorem config_receive : (session.receive version reply).session.config = session.config := by
  rw [receive_eq_with]

theorem history_receive :
    (session.receive version reply).session.paging.history = session.paging.history := by
  rw [receive_eq_with]

theorem query_receive (directory : Directory) :
    (session.receive version reply).session.query directory = session.query directory := by
  unfold query
  rw [terms_receive, config_receive]

/-- No answer asks the store for anything. -/
theorem queries_receive :
    Effect.queries (session.receive version reply).effects = [] := by
  unfold receive
  split
  · cases reply <;> rfl
  · rfl

end Receive

end Session

end FacetSearch
