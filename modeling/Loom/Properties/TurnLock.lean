import Loom.Driver.CodexMoves

/-!
# The holder of the Codex provider

In every run whose moves `Codex.permits` allows, the turn lock is held for the one context that
holds the provider, only the calls that begin or end the turn of that context change what it holds,
and a context whose turn has failed or ended holds nothing.
-/

namespace Loom

namespace Codex

/-! ### Ownership of the lock -/

/-- The move is made by a call that begins or ends the turn of a context. -/
def Acts (after : Codex) (move : CodexMove) (context : Nat) : Prop :=
  ∃ index task, move.index? = some index ∧ after.tasks[index]? = some task ∧
    (task.call.begins || task.call.ends) = true ∧ task.context = some context

/-- What a context holds is as before. -/
structure Spared (before after : Codex) (context : Nat) : Prop where
  holds : after.Holds context
  turnLock : after.turnLock = before.turnLock
  activeContext : after.activeContext = before.activeContext
  process : after.process = before.process
  threadId : after.threadId = before.threadId
  signals : after.signals = before.signals
  contextProcess : (after.context context).process = (before.context context).process
  contextThread : (after.context context).threadId = (before.context context).threadId

/-- The turn lock belongs to the context that holds the provider. -/
structure LockOwned (text : Json → String) (permits : Codex → CodexMove → Prop) (codex : Codex) :
    Prop where
  /-- At most one context holds the provider. -/
  alone : ∀ one two, codex.Holds one → codex.Holds two → one = two
  /-- The lock is held for the context that holds the provider, and for no other. -/
  locked : ∀ context, codex.turnLock = some context ↔ codex.Holds context
  /-- Only the calls that begin or end the turn of the holder take anything from it. -/
  spared : ∀ context move after, codex.Holds context → permits codex move →
    move.step text codex = some after → ¬after.Acts move context → codex.Spared after context
  /-- Once beginning the turn of a context has failed or ending it is over, the lock is free or
  with a later turn. -/
  settled : ∀ task ∈ codex.tasks, isSettled task = true → ∀ context, task.context = some context →
    codex.turnLock = none ∨ ∃ later, codex.turnLock = some later ∧ context < later
/-! ### The holder is spared -/

section Spares

variable {codex after : Codex} {index : Nat} {task : CodexTask}

/-- A call for another context takes nothing from the holder. -/
theorem Sound.spared (sound : codex.Sound) (found : codex.tasks[index]? = some task)
    (atom : Atom codex index task after) {holder : Nat} (holds : codex.Holds holder)
    (elsewhere : ∀ new, after.tasks[index]? = some new →
      (new.call.begins || new.call.ends) = true → new.context ≠ some holder) :
    codex.Spared after holder := by
  have isHeld := (sound.held_iff holder).2 holds
  have isMem := List.mem_of_getElem? found
  have placed : ∀ new, (codex.tasks.set index new)[index]? = some new :=
    fun new => List.getElem?_set_self (List.getElem?_eq_some_iff.1 found).1
  have kept : ∀ {later : Codex} {new : CodexTask}, later.tasks = codex.tasks.set index new →
      later.activeContext = codex.activeContext →
      (task.call.begins = true → task.context = some holder → False) → later.Holds holder := by
    intro later new tasks active other
    exact holds.still found tasks active fun begins here _ => (other begins here).elim
  -- A call that begins the turn of a context holds the lock for it.
  have notBeginning : ∀ {context : Nat}, task.call.begins = true → task.context = some context →
      task.stage.isOver = false → context = holder := by
    intro context begins here running
    have own := (sound.tasks task isMem context here).running begins running
    rw [isHeld] at own
    exact (Option.some.inj own.1).symm
  have notEnding : ∀ {context : Nat}, codex.activeContext = some context ∨ codex.turnLock = none →
      context = holder := by
    intro context stands
    rcases stands with isActive | isFree
    · have other := (sound.active context isActive).1
      rw [isHeld] at other
      exact (Option.some.inj other).symm
    · rw [isHeld] at isFree
      cases isFree
  cases atom with
  | passes context stage turn contexts begins ends alike known isFit =>
      refine ⟨?_, rfl, rfl, rfl, rfl, rfl, (alike.2 holder).1, (alike.2 holder).2⟩
      refine kept rfl rfl fun begins' _ => ?_
      rw [begins] at begins'
      cases begins'
  | waits stage legacy nowhere isLegacy isFit =>
      refine ⟨?_, rfl, rfl, rfl, rfl, rfl, rfl, rfl⟩
      refine kept rfl rfl fun _ here => ?_
      rw [nowhere] at here
      cases here
  | acquires begins nowhere free =>
      rw [isHeld] at free
      cases free
  | proceeds context stage begins here running goesOn fits isFit =>
      cases notBeginning begins here running
      exact (elsewhere _ (placed _) (by simp [begins]) here).elim
  | spawns context begins here running =>
      cases notBeginning begins here running
      exact (elsewhere _ (placed _) (by simp [begins]) here).elim
  | fails context process exception begins here running =>
      cases notBeginning begins here running
      exact (elsewhere _ (placed _) (by simp [begins]) here).elim
  | aborts context process contexts fault begins here running length =>
      cases notBeginning begins here running
      exact (elsewhere _ (placed _) (by simp [begins]) here).elim
  | activates context threadId legacy begins here running fits isLegacy =>
      cases notBeginning begins here running
      exact (elsewhere _ (placed _) (by simp [begins]) here).elim
  | declines context legacy ends known given inactive isLegacy =>
      refine ⟨?_, rfl, rfl, rfl, rfl, rfl, rfl, rfl⟩
      refine kept rfl rfl fun begins _ => ?_
      rw [begins_of_ends ends] at begins
      cases begins
  | signals context process stage ends known given stands goesOn isFit =>
      cases notEnding stands
      exact (elsewhere _ (placed _) (by simp [ends]) rfl).elim
  | ends context process threadId turn contexts legacy stage ends known stands length isLegacy
      isFit =>
      cases notEnding stands
      exact (elsewhere _ (placed _) (by simp [ends]) rfl).elim

end Spares

/-! ### Every run -/

theorem Sound.empty : Codex.empty.Sound := by
  refine ⟨?_, ?_, ?_, ?_, ?_, ?_, ?_⟩
  · intro task isMem
    cases isMem
  · intro task isMem
    cases isMem
  · intro first second one two context isOne
    cases isOne
  · intro context isLegacy
    cases isLegacy
  · intro context isHeld
    cases isHeld
  · intro context isActive
    cases isActive
  · intro context isHeld
    cases isHeld

section Runs

variable {text : Json → String} {codex after : Codex} {move : CodexMove}

theorem Sound.step (sound : codex.Sound) (permitted : codex.permits move = true)
    (goes : move.step text codex = some after) : after.Sound := by
  rcases move_atom sound permitted goes with ⟨call, given, _, rfl⟩ | ⟨index, task, _, found, atom⟩
  · exact sound.arrive given
  · exact sound.atom found atom

/-- A move of another context's call spares the holder. -/
theorem Sound.spares (sound : codex.Sound) (permitted : codex.permits move = true)
    (goes : move.step text codex = some after) {context : Nat} (holds : codex.Holds context)
    (elsewhere : ¬after.Acts move context) : codex.Spared after context := by
  rcases move_atom sound permitted goes with
    ⟨call, _, _, rfl⟩ | ⟨index, task, isIndex, found, atom⟩
  · exact ⟨holds.arrive, rfl, rfl, rfl, rfl, rfl, rfl, rfl⟩
  · refine sound.spared found atom holds fun new isNew acts here => ?_
    exact elsewhere ⟨index, new, isIndex, isNew, acts, here⟩

theorem Sound.owned (sound : codex.Sound) :
    codex.LockOwned text fun codex move => codex.permits move = true := by
  refine ⟨?_, sound.held_iff, ?_, ?_⟩
  · intro one two oneHolds twoHolds
    have isOne := (sound.held_iff one).2 oneHolds
    rw [(sound.held_iff two).2 twoHolds] at isOne
    exact (Option.some.inj isOne).symm
  · intro context move after holds permitted goes elsewhere
    exact sound.spares permitted goes holds elsewhere
  · intro task isMem settled context here
    have own := sound.tasks task isMem context here
    cases holder : codex.turnLock with
    | none => exact Or.inl rfl
    | some later =>
        right
        refine ⟨later, rfl, ?_⟩
        have isLatest := sound.latest later holder
        have differs : later ≠ context := by
          rintro rfl
          exact own.settled settled holder
        have known := own.known
        omega

/-- Where no turn that is being begun or ended is cancelled, no ending goes on while a later turn
holds the lock, and nobody closes or shuts down the provider while a turn is being begun, the turn
lock belongs to the holder of the provider in every state of every run. -/
theorem turnLock_owned {moves : List CodexMove}
    (run : Machine.Run (CodexMove.step text) (fun codex move => codex.permits move = true)
      Codex.empty moves codex) :
    codex.LockOwned text fun codex move => codex.permits move = true := by
  have sound : codex.Sound := by
    refine run.invariant Sound.empty ?_
    intro before after move permitted goes holds
    exact holds.step permitted goes
  exact sound.owned

end Runs

/-- An answer of the app-server that is no error. -/
def granted : Except Fault Dict := .ok [("result", .obj [])]

/-- A turn is begun, a second call waits for the lock, and the first turn is ended. -/
def handoverRun : List CodexMove :=
  [.arrives (.beginTurn ⟨"a", none⟩), .starts 0, .acquired 0, .resumes 0 (.spawned .started),
    .resumes 0 (.sent (.ok ())), .resumes 0 (.answered granted), .resumes 0 (.sent (.ok ())),
    .resumes 0 (.answered granted), .arrives (.beginTurn ⟨"b", none⟩), .starts 1,
    .arrives (.endTurn 0), .starts 2, .resumes 2 (.waited .exited), .acquired 1]

theorem handoverRun_owned :
    ∃ codex, Machine.Run (CodexMove.step fun _ => "") (fun codex move => codex.permits move = true)
        Codex.empty handoverRun codex ∧
      codex.turnLock = some 1 ∧ codex.signals = [0] ∧
      codex.LockOwned (fun _ => "") fun codex move => codex.permits move = true := by
  have plays : ((Machine.playWhere (CodexMove.step fun _ => "") Codex.permits handoverRun
      Codex.empty).map fun codex => (codex.turnLock, codex.signals)) = some (some 1, [0]) := by
    decide +kernel
  obtain ⟨codex, played, ends⟩ := Option.map_eq_some_iff.1 plays
  have run : Machine.Run (CodexMove.step fun _ => "") (fun codex move => codex.permits move = true)
      Codex.empty handoverRun codex := Machine.Run.of_playWhere .nil played
  exact ⟨codex, run, (Prod.mk.inj ends).1, (Prod.mk.inj ends).2, turnLock_owned run⟩

/-- `begin_turn` is cancelled while it waits for the answer to `initialize`. -/
def cancelledRun : List CodexMove :=
  [.arrives (.beginTurn ⟨"a", none⟩), .starts 0, .acquired 0, .resumes 0 (.spawned .started),
    .resumes 0 (.sent (.ok ())), .resumes 0 (.answered (.error .cancelled))]

theorem cancelledRun_keeps_lock :
    ¬∀ (text : Json → String) (moves : List CodexMove) (codex : Codex),
      Machine.Run (CodexMove.step text) (fun _ _ => True) Codex.empty moves codex →
      codex.LockOwned text fun _ _ => True := by
  intro owned
  have plays : ((Machine.playWhere (CodexMove.step fun _ => "") (fun _ _ => true) cancelledRun
      Codex.empty).map fun codex => (codex.turnLock, codex.tasks)) =
      some (some 0, [⟨.beginTurn ⟨"a", none⟩, some 0, .raised .cancelled⟩]) := by decide +kernel
  obtain ⟨codex, played, ends⟩ := Option.map_eq_some_iff.1 plays
  have run : Machine.Run (CodexMove.step fun _ => "") (fun _ _ => true = true) Codex.empty
      cancelledRun codex := Machine.Run.of_playWhere .nil played
  have settled := (owned _ _ codex (run.mono fun _ _ _ => trivial)).settled
  rw [(Prod.mk.inj ends).1, (Prod.mk.inj ends).2] at settled
  rcases settled _ (List.mem_singleton_self _) rfl 0 rfl with free | ⟨later, isLater, isAfter⟩
  · cases free
  · cases isLater
    exact absurd isAfter (by decide)

end Codex

end Loom
