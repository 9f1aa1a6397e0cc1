import FacetSearch.Proofs.Run.Walk
import Mathlib.Data.List.Infix

/-!
# There and back

To turn a page forward notes where the present page starts, to turn back goes to the start noted
last. So whoever turns back as often as forward, and never further back than to the page begun from,
is on that page again: with the same query, the same way back, and all other terms as they were. It
makes no difference how the store answers meanwhile, if at all, since no answer touches the terms or
the way back.
-/

namespace FacetSearch

/-- Moves that turn a page, or close a call. -/
def Move.Turns : Move → Prop
  | .call command => command = .next ∨ command = .prev
  | .answer _ _ => True
  | .cancel _ => True
  | .setDirectory _ => False

theorem Move.Turns.keepsDirectory {move : Move} (h : move.Turns) : move.KeepsDirectory := by
  cases move with
  | setDirectory directory => exact h
  | call command => trivial
  | answer number reply => trivial
  | cancel number => trivial

/-- Never have more pages been turned back than forward. -/
def Command.NeverBehind (turns : List Command) : Prop :=
  ∀ done, done <+: turns → done.count .prev ≤ done.count .next

/-- As many pages are turned back as forward, and never more on the way. -/
structure Command.Balanced (turns : List Command) : Prop where
  neverBehind : Command.NeverBehind turns
  level : turns.count .prev = turns.count .next

namespace Run

/-! ## The commands on record -/

theorem commands_snoc {run after : Run} {last : Happening}
    (grown : after.history = run.history ++ [last]) :
    after.commands = run.commands ++ last.command?.toList := by
  unfold commands
  rw [grown, List.filterMap_append]
  cases command : last.command? <;> simp [command]

theorem commands_prefix_step (run : Run) (move : Move) :
    run.commands <+: (run.step move).commands := by
  have moved := moved_step run move
  generalize run.step move = after at moved
  cases moved with
  | skipped nothing => exact ⟨_, (commands_snoc rfl).symm⟩
  | began carriedOut => exact ⟨_, (commands_snoc rfl).symm⟩
  | ended waits => exact ⟨_, (commands_snoc rfl).symm⟩
  | cancelled waits => exact ⟨_, (commands_snoc rfl).symm⟩
  | unheard gone => exact List.prefix_refl _
  | missed gone => exact List.prefix_refl _
  | redirected directory => exact List.prefix_refl _

theorem commands_prefix_play (run : Run) (moves : List Move) :
    run.commands <+: (run.play moves).commands := by
  have preserved : ∀ (between : Run) (move : Move), run.commands <+: between.commands →
      run.commands <+: (between.step move).commands := fun between move h =>
    h.trans (commands_prefix_step between move)
  exact play_invariant preserved moves (List.prefix_refl _)

theorem commands_call {run : Run} {command : Command} {changed : Session}
    (carriedOut : run.session.carryOut? run.directory command = some changed) :
    (run.step (.call command)).commands = run.commands ++ [command] := by
  show (run.call command).commands = _
  rw [call_begun (Session.begin?_of_carryOut? carriedOut), commands_snoc rfl]
  rfl

theorem commands_skip {run : Run} {command : Command}
    (nothing : run.session.carryOut? run.directory command = none) :
    (run.step (.call command)).commands = run.commands := by
  show (run.call command).commands = _
  rw [call_skipped (Session.begin?_eq_none.mpr nothing), commands_snoc rfl]
  exact List.append_nil _

/-! ## Pages ahead -/

/-- The run is some pages ahead of where it was: the pages left since start here, the one left last
first. At the bottom of them is the page where it was. -/
structure Ahead (base : Run) (left : List PageStart) (run : Run) : Prop where
  reached : Reachable Move.KeepsDirectory run
  directory : run.directory = base.directory
  config : run.session.config = base.session.config
  others : Terms.withoutCursor run.session.terms = Terms.withoutCursor base.session.terms
  history : run.session.paging.history = left ++ base.session.paging.history
  bottom : (Terms.cursor? run.session.terms :: left).getLast? =
    some (Terms.cursor? base.session.terms)

section Ahead

variable {base run : Run} {left : List PageStart}

theorem ahead_refl (reached : Reachable Move.KeepsDirectory run) : Ahead run [] run :=
  ⟨reached, rfl, rfl, rfl, rfl, rfl⟩

/-- Where the terms and the way back stay, so does the page. -/
theorem Ahead.keep {after : Run} (h : Ahead base left run)
    (reached : Reachable Move.KeepsDirectory after) (directory : after.directory = run.directory)
    (config : after.session.config = run.session.config)
    (terms : after.session.terms = run.session.terms)
    (history : after.session.paging.history = run.session.paging.history) :
    Ahead base left after where
  reached := reached
  directory := directory.trans h.directory
  config := config.trans h.config
  others := terms ▸ h.others
  history := history.trans h.history
  bottom := terms ▸ h.bottom

/-- A page turned forward is one page more ahead. -/
theorem Ahead.forward (h : Ahead base left run) {id : String}
    (cursor : run.session.paging.next = some id) :
    Ahead base (Terms.cursor? run.session.terms :: left) (run.step (.call .next)) := by
  have reached : Reachable Move.KeepsDirectory (run.step (.call .next)) := h.reached.step trivial
  have called : run.step (.call .next) = run.call .next := rfl
  have begins : run.session.begin? run.directory .next = some _ :=
    Session.begin?_of_carryOut? (Session.carryOut?_next cursor)
  rw [called, call_begun begins] at reached ⊢
  refine ⟨reached, h.directory, h.config, ?_, congrArg (_ :: ·) h.history, ?_⟩
  · show Terms.withoutCursor (run.session.turned run.directory (some id) _).terms = _
    rw [Session.withoutCursor_turned h.reached.distinct h.reached.selected.known_eq]
    exact h.others
  · rw [List.getLast?_cons_cons]
    exact h.bottom

/-- A page turned back is one page less ahead. -/
theorem Ahead.back {start : PageStart} (h : Ahead base (start :: left) run) :
    Ahead base left (run.step (.call .prev)) := by
  have reached : Reachable Move.KeepsDirectory (run.step (.call .prev)) := h.reached.step trivial
  have called : run.step (.call .prev) = run.call .prev := rfl
  have begins : run.session.begin? run.directory .prev = some _ :=
    Session.begin?_of_carryOut? (Session.carryOut?_prev h.history)
  rw [called, call_begun begins] at reached ⊢
  refine ⟨reached, h.directory, h.config, ?_, rfl, ?_⟩
  · show Terms.withoutCursor (run.session.turned run.directory start _).terms = _
    rw [Session.withoutCursor_turned h.reached.distinct h.reached.selected.known_eq]
    exact h.others
  · have bottom := h.bottom
    rw [List.getLast?_cons_cons] at bottom
    show (Terms.cursor? (run.session.turned run.directory start _).terms :: left).getLast? = _
    rw [Session.cursor?_turned h.reached.distinct]
    exact bottom

theorem Ahead.skip {command : Command} (h : Ahead base left run)
    (nothing : run.session.carryOut? run.directory command = none) :
    Ahead base left (run.step (.call command)) := by
  have reached : Reachable Move.KeepsDirectory (run.step (.call command)) := h.reached.step trivial
  have called : run.step (.call command) = run.call command := rfl
  rw [called, call_skipped (Session.begin?_eq_none.mpr nothing)] at reached ⊢
  exact h.keep reached rfl rfl rfl rfl

/-- **One move** leaves the page as it is, or turns it. To turn back beyond the page begun from is
not excluded, only then nothing is said. -/
theorem Ahead.step (h : Ahead base left run) {move : Move} (turns : move.Turns) :
    ((run.step move).commands = run.commands ∧ Ahead base left (run.step move)) ∨
    ((run.step move).commands = run.commands ++ [.next] ∧
      ∃ start, Ahead base (start :: left) (run.step move)) ∨
    ((run.step move).commands = run.commands ++ [.prev] ∧
      ∀ start rest, left = start :: rest → Ahead base rest (run.step move)) := by
  have reached := h.reached.step turns.keepsDirectory
  cases move with
  | call command =>
      rcases turns with rfl | rfl
      · cases cursor : run.session.paging.next with
        | none =>
            have nothing : run.session.carryOut? run.directory .next = none :=
              Session.carryOut?_next_of_none cursor
            exact Or.inl ⟨commands_skip nothing, h.skip nothing⟩
        | some id =>
            exact Or.inr (Or.inl ⟨commands_call (Session.carryOut?_next cursor), _,
              h.forward cursor⟩)
      · cases behind : run.session.paging.history with
        | nil =>
            have nothing : run.session.carryOut? run.directory .prev = none :=
              Session.carryOut?_prev_of_nil behind
            exact Or.inl ⟨commands_skip nothing, h.skip nothing⟩
        | cons start history =>
            refine Or.inr (Or.inr ⟨commands_call (Session.carryOut?_prev behind), ?_⟩)
            rintro start rest rfl
            exact h.back
  | answer number reply =>
      have moved := moved_step run (.answer number reply)
      generalize run.step (.answer number reply) = after at moved reached ⊢
      cases moved with
      | ended waits =>
          refine Or.inl ⟨?_, h.keep reached rfl Session.config_receive Session.terms_receive
            Session.history_receive⟩
          rw [commands_snoc rfl]
          exact List.append_nil _
      | unheard gone => exact Or.inl ⟨rfl, h⟩
  | cancel number =>
      have moved := moved_step run (.cancel number)
      generalize run.step (.cancel number) = after at moved reached ⊢
      cases moved with
      | cancelled waits =>
          refine Or.inl ⟨?_, h.keep reached rfl rfl rfl rfl⟩
          rw [commands_snoc rfl]
          exact List.append_nil _
      | missed gone => exact Or.inl ⟨rfl, h⟩
  | setDirectory directory => exact absurd turns id

/-- Turning pages leads further ahead by as many as are turned forward more than back. -/
theorem Ahead.play (h : Ahead base left run) (moves : List Move)
    (turning : ∀ move ∈ moves, move.Turns) {turns : List Command}
    (made : (run.play moves).commands = run.commands ++ turns)
    (never : Command.NeverBehind turns) :
    ∃ new, Ahead base (new ++ left) (run.play moves) ∧
      new.length + turns.count .prev = turns.count .next := by
  induction moves using List.reverseRecOn generalizing turns with
  | nil =>
      obtain rfl : turns = [] := by simpa [Run.play] using made
      exact ⟨[], h, rfl⟩
  | append_singleton before move ih =>
      rw [play_snoc] at made ⊢
      -- What is turned is what was turned before this move, and what this move turns.
      obtain ⟨done, grown⟩ := commands_prefix_play run before
      obtain ⟨begun, grown'⟩ := commands_prefix_step (run.play before) move
      obtain rfl : done ++ begun = turns := by
        rw [← grown', ← grown, List.append_assoc] at made
        exact List.append_cancel_left made
      obtain ⟨new, ahead, count⟩ := ih
        (fun earlier hearlier => turning earlier (List.mem_append_left _ hearlier)) grown.symm
        (fun first hfirst => never first (hfirst.trans (List.prefix_append done begun)))
      rcases ahead.step (turning move (List.mem_append_right _ List.mem_cons_self)) with
        ⟨commands, after⟩ | ⟨commands, start, after⟩ | ⟨commands, back⟩
      · obtain rfl : begun = [] := by simpa [commands] using grown'
        exact ⟨new, after, by simpa using count⟩
      · obtain rfl : begun = [.next] := List.append_cancel_left (grown'.trans commands)
        have prev : (done ++ [Command.next]).count .prev = done.count .prev := by simp
        have next : (done ++ [Command.next]).count .next = done.count .next + 1 := by simp
        refine ⟨start :: new, after, ?_⟩
        rw [List.length_cons, prev, next]
        omega
      · obtain rfl : begun = [.prev] := List.append_cancel_left (grown'.trans commands)
        have prev : (done ++ [Command.prev]).count .prev = done.count .prev + 1 := by simp
        have next : (done ++ [Command.prev]).count .next = done.count .next := by simp
        have enough := never (done ++ [.prev]) (List.prefix_refl _)
        rw [prev, next] at enough ⊢
        -- So a page to turn back to has been left on the way.
        cases new with
        | nil =>
            rw [List.length_nil] at count
            omega
        | cons start new =>
            refine ⟨new, back start (new ++ left) rfl, ?_⟩
            rw [List.length_cons] at count
            omega

theorem Ahead.play_balanced (h : Ahead base left run) (moves : List Move)
    (turning : ∀ move ∈ moves, move.Turns) {turns : List Command}
    (made : (run.play moves).commands = run.commands ++ turns)
    (balanced : Command.Balanced turns) : Ahead base left (run.play moves) := by
  obtain ⟨new, ahead, count⟩ := h.play moves turning made balanced.neverBehind
  have level := balanced.level
  obtain rfl : new = [] := List.eq_nil_of_length_eq_zero (by omega)
  exact ahead

/-- Where no page has been left, the query is the one there was. -/
theorem Ahead.query_eq (h : Ahead base [] run) (reached : Reachable Move.KeepsDirectory base) :
    run.session.query run.directory = base.session.query base.directory := by
  have cursor : Terms.cursor? run.session.terms = Terms.cursor? base.session.terms :=
    Option.some.inj h.bottom
  unfold Session.query
  rw [h.directory, h.config]
  exact Query.ofTerms_congr h.reached.distinct reached.distinct _ cursor h.others

end Ahead

/-- **There and back.** From a run under one directory, let pages be turned and calls be closed, as
many pages back as forward and never more on the way. In the end the query, the way back, and the
terms but for the cursor are what they were. So if a page is turned forward, and after such moves one
is turned back, that call is not skipped and leads back to the query that was left. -/
theorem balanced_turns_lead_back {run : Run} (reached : Reachable Move.KeepsDirectory run)
    (moves : List Move) (turning : ∀ move ∈ moves, move.Turns) (turns : List Command)
    (balanced : Command.Balanced turns) :
    ((run.play moves).commands = run.commands ++ turns →
      (run.play moves).session.query (run.play moves).directory =
        run.session.query run.directory ∧
      (run.play moves).session.paging.history = run.session.paging.history ∧
      Terms.withoutCursor (run.play moves).session.terms =
        Terms.withoutCursor run.session.terms) ∧
    let gone := run.step (.call .next)
    let back := (gone.play moves).step (.call .prev)
    gone.commands = run.commands ++ [.next] →
    (gone.play moves).commands = gone.commands ++ turns →
      back.commands = (gone.play moves).commands ++ [.prev] ∧
      back.session.query back.directory = run.session.query run.directory := by
  constructor
  · intro made
    have ahead := (ahead_refl reached).play_balanced moves turning made balanced
    exact ⟨ahead.query_eq reached, ahead.history, ahead.others⟩
  · intro gone back left made
    cases cursor : run.session.paging.next with
    | none =>
        have nothing : run.session.carryOut? run.directory .next = none :=
          Session.carryOut?_next_eq_none.mpr (by simp [Paging.hasNext, cursor])
        rw [commands_skip nothing] at left
        exact absurd left (by simp)
    | some id =>
        have ahead := ((ahead_refl reached).forward cursor).play_balanced moves turning made balanced
        exact ⟨commands_call (Session.carryOut?_prev ahead.history), ahead.back.query_eq reached⟩

/-- A run in which the first page of a search is shown, and its next page is asked for. -/
def leafed : Run :=
  rehearsal [.call (.add "word"), .answer 0 (.documents [rehearsed "d", rehearsed "c"]),
    .call .search]

/-- Moves that turn two pages forward and two back. Of the answers one comes late, one fails, and one
never comes. -/
def excursion : List Move :=
  [.call .next, .answer 2 (.documents [rehearsed "c", rehearsed "b"]), .call .next, .call .prev,
    .answer 1 (.documents [rehearsed "d"]), .answer 4 (.failure (.store "offline")), .cancel 3,
    .call .prev]

theorem leafed_leads_back :
    Reachable Move.KeepsDirectory leafed ∧ (∀ move ∈ excursion, move.Turns) ∧
      Command.Balanced [.next, .next, .prev, .prev] ∧
      (leafed.play excursion).commands = leafed.commands ++ [.next, .next, .prev, .prev] ∧
      (leafed.play excursion).session.query (leafed.play excursion).directory =
        leafed.session.query leafed.directory ∧
      (leafed.play excursion).session.paging.history = leafed.session.paging.history ∧
      Terms.withoutCursor (leafed.play excursion).session.terms =
        Terms.withoutCursor leafed.session.terms := by
  have reached : Reachable Move.KeepsDirectory leafed :=
    reachable_rehearsal _ (by simp [Move.KeepsDirectory])
  have turning : ∀ move ∈ excursion, move.Turns := by simp [excursion, Move.Turns]
  have balanced : Command.Balanced [.next, .next, .prev, .prev] := by
    refine ⟨fun done hdone => ?_, rfl⟩
    have bounded : ∀ first ∈ [Command.next, .next, .prev, .prev].inits,
        first.count .prev ≤ first.count .next := by decide
    exact bounded done ((List.mem_inits _ _).mpr hdone)
  have made : (leafed.play excursion).commands =
      leafed.commands ++ [.next, .next, .prev, .prev] := by
    decide +kernel
  exact ⟨reached, turning, balanced, made,
    (balanced_turns_lead_back reached excursion turning _ balanced).1 made⟩

end Run

end FacetSearch
