import Loom.Driver.Codex
import Mathlib.Data.List.Basic

/-!
# What holds of the Codex provider

Who holds the provider, the elementary transitions of its calls (`Atom`), and the invariant that
each of them keeps.
-/

namespace Loom

namespace Codex

/-! ### Who holds the provider -/

/-- Some call is beginning the turn of a context. -/
def Begins (codex : Codex) (context : Nat) : Prop :=
  ∃ task ∈ codex.tasks, task.call.begins = true ∧ task.context = some context ∧
    task.stage.isOver = false

/-- A context holds the provider: its turn is being begun, or it is active. -/
def Holds (codex : Codex) (context : Nat) : Prop :=
  codex.activeContext = some context ∨ codex.Begins context

/-- The call has been to begin a turn and has raised, or to end one and is over. -/
def isSettled (task : CodexTask) : Bool :=
  task.stage.isOver && (task.call.ends || task.call.begins && task.stage != .returned)

/-! ### The invariant -/

/-- The stages in which a call that begins a turn talks to its process. -/
def converses : CodexStage → Bool
  | .initializing | .initialized | .resuming | .resumed => true
  | _ => false

/-- What holds of a call with a context. -/
structure TaskSound (codex : Codex) (task : CodexTask) (context : Nat) : Prop where
  known : context < codex.contexts.length
  running : task.call.begins = true → task.stage.isOver = false →
    codex.turnLock = some context ∧ codex.activeContext = none
  conversing : task.call.begins = true → converses task.stage = true →
    codex.process = (codex.context context).process
  given : task.call.ends = true → codex.turnLock = some context →
    codex.activeContext = some context
  settled : isSettled task = true → codex.turnLock ≠ some context

/-- The stages in which a call can be, by what it has been called for. -/
def Fits (task : CodexTask) : Prop :=
  match task.stage with
  | .created => task.context = task.call.argument
  | .acquiring => task.call.begins = true ∧ task.context = none
  | .sending | .streaming => task.call.begins = false ∧ task.call.ends = false
  | .shuttingDown _ => False
  | _ => True

/-- What holds in every state of the runs that `permits` allows. -/
structure Sound (codex : Codex) : Prop where
  tasks : ∀ task ∈ codex.tasks, ∀ context, task.context = some context →
    codex.TaskSound task context
  fits : ∀ task ∈ codex.tasks, Fits task
  distinct : ∀ (first second : Nat) (one two : CodexTask) (context : Nat),
    codex.tasks[first]? = some one → codex.tasks[second]? = some two → one.call.begins = true →
    two.call.begins = true → one.context = some context → two.context = some context →
    first = second
  legacy : ∀ context, codex.legacyContext = some context → context < codex.contexts.length ∧
    (codex.turnLock = some context → codex.activeContext = some context)
  latest : ∀ context, codex.turnLock = some context → context + 1 = codex.contexts.length
  active : ∀ context, codex.activeContext = some context → codex.turnLock = some context ∧
    codex.process = (codex.context context).process ∧
    codex.threadId = (codex.context context).threadId
  held : ∀ context, codex.turnLock = some context → codex.Holds context

/-! ### What one move does -/

/-- The contexts differ in their turns at most. -/
def Alike (codex : Codex) (contexts : List CodexContext) : Prop :=
  contexts.length = codex.contexts.length ∧ ∀ context : Nat,
    (contexts.getD context default).process = (codex.context context).process ∧
    (contexts.getD context default).threadId = (codex.context context).threadId

/-- What the call at a position does to the provider between two awaits. -/
inductive Atom (codex : Codex) (index : Nat) (task : CodexTask) : Codex → Prop where
  /-- A call that neither begins nor ends a turn goes on. -/
  | passes (context : Option Nat) (stage : CodexStage) (turn : Option String)
      (contexts : List CodexContext) (begins : task.call.begins = false)
      (ends : task.call.ends = false) (alike : codex.Alike contexts)
      (known : ∀ context', context = some context' → context' < codex.contexts.length)
      (isFit : Fits { task with context, stage }) :
      Atom codex index task { codex with
        currentTurnId := turn
        contexts := contexts
        tasks := codex.tasks.set index { task with context, stage } }
  /-- A call without a context goes on. -/
  | waits (stage : CodexStage) (legacy : Option Nat) (nowhere : task.context = none)
      (isLegacy : legacy = codex.legacyContext ∨ legacy = none)
      (isFit : Fits { task with stage }) :
      Atom codex index task { codex with
        legacyContext := legacy
        tasks := codex.tasks.set index { task with stage } }
  /-- The lock is acquired for a new context. -/
  | acquires (begins : task.call.begins = true) (nowhere : task.context = none)
      (free : codex.turnLock = none) :
      Atom codex index task { codex with
        turnLock := some codex.contexts.length
        contexts := codex.contexts ++ [{}]
        tasks := codex.tasks.set index
          { task with context := some codex.contexts.length, stage := .spawning } }
  | proceeds (context : Nat) (stage : CodexStage) (begins : task.call.begins = true)
      (here : task.context = some context) (running : task.stage.isOver = false)
      (goesOn : stage.isOver = false)
      (fits : codex.process = (codex.context context).process)
      (isFit : Fits { task with stage }) :
      Atom codex index task { codex with tasks := codex.tasks.set index { task with stage } }
  | spawns (context : Nat) (begins : task.call.begins = true)
      (here : task.context = some context) (running : task.stage.isOver = false) :
      Atom codex index task { codex with
        process := some codex.processes
        processes := codex.processes + 1
        contexts := codex.contexts.set context
          { codex.context context with process := some codex.processes }
        tasks := codex.tasks.set index { task with stage := .initializing } }
  /-- Beginning the turn fails, and its process is terminated. -/
  | fails (context process : Nat) (exception : Exc) (begins : task.call.begins = true)
      (here : task.context = some context) (running : task.stage.isOver = false) :
      Atom codex index task { codex with
        contexts := codex.contexts.set context { codex.context context with process := none }
        signals := codex.signals ++ [process]
        tasks := codex.tasks.set index { task with stage := .failing process exception } }
  /-- Beginning the turn has failed. -/
  | aborts (context : Nat) (process : Option Nat) (contexts : List CodexContext) (fault : Fault)
      (begins : task.call.begins = true) (here : task.context = some context)
      (running : task.stage.isOver = false)
      (length : contexts.length = codex.contexts.length) :
      Atom codex index task { codex with
        turnLock := none
        activeContext := none
        process := process
        contexts := contexts
        tasks := codex.tasks.set index { task with stage := .raised fault } }
  /-- The turn has been begun. -/
  | activates (context : Nat) (threadId : String) (legacy : Option Nat)
      (begins : task.call.begins = true) (here : task.context = some context)
      (running : task.stage.isOver = false)
      (fits : codex.process = (codex.context context).process)
      (isLegacy : legacy = codex.legacyContext ∨ legacy = some context) :
      Atom codex index task { codex with
        contexts := codex.contexts.set context
          { codex.context context with threadId := some threadId }
        threadId := some threadId
        activeContext := some context
        legacyContext := legacy
        tasks := codex.tasks.set index { task with stage := .returned } }
  /-- The turn to end is not the active one. -/
  | declines (context : Nat) (legacy : Option Nat) (ends : task.call.ends = true)
      (known : context < codex.contexts.length)
      (given : codex.turnLock = some context → codex.activeContext = some context)
      (inactive : codex.activeContext ≠ some context)
      (isLegacy : legacy = codex.legacyContext ∨ legacy = none) :
      Atom codex index task { codex with
        legacyContext := legacy
        tasks := codex.tasks.set index { task with context := some context, stage := .returned } }
  /-- The process of the active context is terminated or killed. -/
  | signals (context process : Nat) (stage : CodexStage) (ends : task.call.ends = true)
      (known : context < codex.contexts.length)
      (given : codex.turnLock = some context → codex.activeContext = some context)
      (stands : codex.activeContext = some context ∨ codex.turnLock = none)
      (goesOn : stage.isOver = false)
      (isFit : Fits { task with context := some context, stage }) :
      Atom codex index task { codex with
        signals := codex.signals ++ [process]
        tasks := codex.tasks.set index { task with context := some context, stage } }
  /-- The active turn has ended. -/
  | ends (context : Nat) (process : Option Nat) (threadId turn : Option String)
      (contexts : List CodexContext) (legacy : Option Nat) (stage : CodexStage)
      (ends : task.call.ends = true) (known : context < codex.contexts.length)
      (stands : codex.activeContext = some context ∨ codex.turnLock = none)
      (length : contexts.length = codex.contexts.length)
      (isLegacy : legacy = codex.legacyContext ∨ legacy = none)
      (isFit : Fits { task with context := some context, stage }) :
      Atom codex index task { codex with
        turnLock := none
        activeContext := none
        process := process
        threadId := threadId
        currentTurnId := turn
        contexts := contexts
        legacyContext := legacy
        tasks := codex.tasks.set index { task with context := some context, stage } }

/-! ### The invariant is kept -/

theorem ends_of_begins {call : CodexCall} (begins : call.begins = true) : call.ends = false := by
  cases call <;> first | rfl | cases begins

theorem begins_of_ends {call : CodexCall} (ends : call.ends = true) : call.begins = false := by
  cases call <;> first | rfl | cases ends

theorem converses_running {stage : CodexStage} (isConversing : converses stage = true) :
    stage.isOver = false := by
  cases stage <;> first | rfl | cases isConversing

theorem isSettled_over {task : CodexTask} (settled : isSettled task = true) :
    task.stage.isOver = true := by
  unfold isSettled at settled
  exact (Bool.and_eq_true_iff.1 settled).1

section Kept

variable {codex after : Codex} {index : Nat} {task : CodexTask}

/-- Where the lock, the active context and its process are as before. -/
theorem TaskSound.still {context : Nat} (sound : codex.TaskSound task context)
    (lock : after.turnLock = codex.turnLock) (active : after.activeContext = codex.activeContext)
    (process : after.process = codex.process)
    (length : codex.contexts.length ≤ after.contexts.length)
    (own : (after.context context).process = (codex.context context).process) :
    after.TaskSound task context := by
  refine ⟨Nat.lt_of_lt_of_le sound.known length, ?_, ?_, ?_, ?_⟩
  · rw [lock, active]
    exact sound.running
  · rw [process, own]
    exact sound.conversing
  · rw [lock, active]
    exact sound.given
  · rw [lock]
    exact sound.settled

/-- A call that is not beginning a turn only depends on the lock and the active context. -/
theorem TaskSound.aside {context : Nat} (sound : codex.TaskSound task context)
    (notBeginning : task.call.begins = true → task.stage.isOver = false → False)
    (length : codex.contexts.length ≤ after.contexts.length)
    (lock : after.turnLock = codex.turnLock ∨ after.turnLock = none)
    (given : task.call.ends = true → after.turnLock = some context →
      after.activeContext = some context) : after.TaskSound task context := by
  refine ⟨Nat.lt_of_lt_of_le sound.known length, ?_, ?_, given, ?_⟩
  · intro begins running
    exact (notBeginning begins running).elim
  · intro begins isConversing
    exact (notBeginning begins (converses_running isConversing)).elim
  · intro settled isHeld
    rcases lock with same | isFree
    · rw [same] at isHeld
      exact sound.settled settled isHeld
    · rw [isFree] at isHeld
      cases isHeld

/-- The call at a position is replaced, the others are kept. -/
theorem mem_set {tasks : List CodexTask} {new other : CodexTask}
    (isMem : other ∈ tasks.set index new) :
    other = new ∨ ∃ place, place ≠ index ∧ tasks[place]? = some other := by
  obtain ⟨place, found⟩ := List.mem_iff_getElem?.1 isMem
  rw [List.getElem?_set] at found
  split at found
  · split at found
    · exact Or.inl (Option.some.inj found).symm
    · cases found
  · rename_i differs
    exact Or.inr ⟨place, Ne.symm differs, found⟩

theorem mem_set_of_ne {tasks : List CodexTask} {new other : CodexTask} {place : Nat}
    (found : tasks[place]? = some other) (differs : place ≠ index) :
    other ∈ tasks.set index new := by
  refine List.mem_iff_getElem?.2 ⟨place, ?_⟩
  rw [List.getElem?_set_ne (Ne.symm differs)]
  exact found

theorem getD_set (contexts : List CodexContext) (place other : Nat) (context : CodexContext) :
    (contexts.set place context).getD other default =
      if place = other ∧ other < contexts.length then context else contexts.getD other default := by
  rw [List.getD_eq_getElem?_getD, List.getD_eq_getElem?_getD, List.getElem?_set]
  by_cases same : place = other
  · subst same
    by_cases known : place < contexts.length
    · rw [if_pos rfl, if_pos known, if_pos ⟨rfl, known⟩]
      rfl
    · rw [if_pos rfl, if_neg known, if_neg fun both => known both.2,
        List.getElem?_eq_none (Nat.le_of_not_lt known)]
  · rw [if_neg same, if_neg fun both => same both.1]

theorem Alike.refl (codex : Codex) : codex.Alike codex.contexts :=
  ⟨rfl, fun _ => ⟨rfl, rfl⟩⟩

theorem Alike.turn (codex : Codex) (context : Nat) (turn : Option String) :
    codex.Alike (codex.contexts.set context { codex.context context with turnId := turn }) := by
  refine ⟨List.length_set, fun other => ?_⟩
  rw [getD_set]
  split
  · rename_i same
    rw [← same.1]
    exact ⟨rfl, rfl⟩
  · exact ⟨rfl, rfl⟩

/-- While a call begins the turn of a context, no other call begins one. -/
theorem Sound.onlyBeginning (sound : codex.Sound) (found : codex.tasks[index]? = some task)
    {context : Nat} (begins : task.call.begins = true) (here : task.context = some context)
    (running : task.stage.isOver = false) {place : Nat} {other : CodexTask}
    (differs : place ≠ index) (isOther : codex.tasks[place]? = some other) {context' : Nat}
    (there : other.context = some context') (begins' : other.call.begins = true)
    (running' : other.stage.isOver = false) : False := by
  have own := (sound.tasks task (List.mem_of_getElem? found) context here).running begins running
  have others :=
    (sound.tasks other (List.mem_of_getElem? isOther) context' there).running begins' running'
  rw [own.1] at others
  cases others.1
  exact differs (sound.distinct place index other task context isOther found begins' begins there
    here)

/-- The invariant from its parts, where the call at a position has been replaced. -/
theorem Sound.assemble (sound : codex.Sound) (found : codex.tasks[index]? = some task)
    {new : CodexTask} (tasks : after.tasks = codex.tasks.set index new)
    (call : new.call = task.call)
    (fresh : task.call.begins = true →
      new.context = task.context ∨ new.context = some codex.contexts.length)
    (isFit : Fits new)
    (others : ∀ place other context, place ≠ index → codex.tasks[place]? = some other →
      other.context = some context → codex.TaskSound other context → after.TaskSound other context)
    (own : ∀ context, new.context = some context → after.TaskSound new context)
    (legacy : ∀ context, after.legacyContext = some context →
      context < after.contexts.length ∧
        (after.turnLock = some context → after.activeContext = some context))
    (latest : ∀ context, after.turnLock = some context → context + 1 = after.contexts.length)
    (active : ∀ context, after.activeContext = some context → after.turnLock = some context ∧
      after.process = (after.context context).process ∧
      after.threadId = (after.context context).threadId)
    (held : ∀ context, after.turnLock = some context → after.Holds context) : after.Sound := by
  refine ⟨?_, ?_, ?_, legacy, latest, active, held⟩
  · intro other isMem context here
    rw [tasks] at isMem
    rcases mem_set isMem with rfl | ⟨place, differs, isOther⟩
    · exact own context here
    · exact others place other context differs isOther here
        (sound.tasks other (List.mem_of_getElem? isOther) context here)
  · intro other isMem
    rw [tasks] at isMem
    rcases mem_set isMem with rfl | ⟨place, differs, isOther⟩
    · exact isFit
    · exact sound.fits other (List.mem_of_getElem? isOther)
  · have unique : ∀ (place : Nat) (other : CodexTask) (context : Nat), place ≠ index →
        codex.tasks[place]? = some other → other.call.begins = true → new.call.begins = true →
        other.context = some context → new.context = some context → False := by
      intro place other context differs isOther begins' begins there here
      rw [call] at begins
      rcases fresh begins with same | isFresh
      · rw [same] at here
        exact differs (sound.distinct place index other task context isOther found begins' begins
          there here)
      · rw [isFresh] at here
        cases here
        exact Nat.lt_irrefl _
          (sound.tasks other (List.mem_of_getElem? isOther) _ there).known
    have at_place : ∀ {place : Nat} {other : CodexTask}, after.tasks[place]? = some other →
        place = index ∧ other = new ∨ place ≠ index ∧ codex.tasks[place]? = some other := by
      intro place other isOther
      rw [tasks, List.getElem?_set] at isOther
      split at isOther
      · rename_i same
        split at isOther
        · exact Or.inl ⟨same.symm, (Option.some.inj isOther).symm⟩
        · cases isOther
      · rename_i differs
        exact Or.inr ⟨Ne.symm differs, isOther⟩
    intro first second one two context isOne isTwo oneBegins twoBegins oneHere twoHere
    rcases at_place isOne with ⟨rfl, rfl⟩ | ⟨firstDiffers, isFirst⟩
    · rcases at_place isTwo with ⟨rfl, rfl⟩ | ⟨secondDiffers, isSecond⟩
      · rfl
      · exact (unique second two context secondDiffers isSecond twoBegins oneBegins twoHere
          oneHere).elim
    · rcases at_place isTwo with ⟨rfl, rfl⟩ | ⟨secondDiffers, isSecond⟩
      · exact (unique first one context firstDiffers isFirst oneBegins twoBegins oneHere
          twoHere).elim
      · exact sound.distinct first second one two context isFirst isSecond oneBegins twoBegins
          oneHere twoHere

/-- A holder keeps the provider while another call goes on. -/
theorem Holds.still (found : codex.tasks[index]? = some task)
    {new : CodexTask} (tasks : after.tasks = codex.tasks.set index new)
    (active : after.activeContext = codex.activeContext) {context : Nat}
    (kept : task.call.begins = true → task.context = some context → task.stage.isOver = false →
      new.call.begins = true ∧ new.context = some context ∧ new.stage.isOver = false)
    (holds : codex.Holds context) : after.Holds context := by
  rcases holds with isActive | ⟨other, isMem, begins, here, running⟩
  · left
    rw [active]
    exact isActive
  · right
    obtain ⟨place, isOther⟩ := List.mem_iff_getElem?.1 isMem
    by_cases same : place = index
    · subst same
      rw [found] at isOther
      cases isOther
      obtain ⟨begins', here', running'⟩ := kept begins here running
      refine ⟨new, ?_, begins', here', running'⟩
      rw [tasks]
      exact List.mem_set (List.getElem?_eq_some_iff.1 found).1 new
    · refine ⟨other, ?_, begins, here, running⟩
      rw [tasks]
      exact mem_set_of_ne isOther same

/-- The parts of the invariant about the lock are kept where nothing but the tasks, the turns and
the legacy context change. -/
theorem Sound.still (sound : codex.Sound) (found : codex.tasks[index]? = some task)
    {new : CodexTask} (tasks : after.tasks = codex.tasks.set index new)
    (call : new.call = task.call)
    (fresh : task.call.begins = true →
      new.context = task.context ∨ new.context = some codex.contexts.length)
    (isFit : Fits new) (own : ∀ context, new.context = some context → after.TaskSound new context)
    (lock : after.turnLock = codex.turnLock) (active : after.activeContext = codex.activeContext)
    (process : after.process = codex.process) (threadId : after.threadId = codex.threadId)
    (alike : codex.Alike after.contexts)
    (legacy : ∀ context, after.legacyContext = some context → codex.legacyContext = some context)
    (kept : ∀ context, task.call.begins = true → task.context = some context →
      task.stage.isOver = false →
      new.call.begins = true ∧ new.context = some context ∧ new.stage.isOver = false) :
    after.Sound := by
  refine sound.assemble found tasks call fresh isFit ?_ own ?_ ?_ ?_ ?_
  · intro place other context _ _ _ otherSound
    exact otherSound.still lock active process (Nat.le_of_eq alike.1.symm) (alike.2 context).1
  · intro context isLegacy
    rw [lock, active, alike.1]
    exact sound.legacy context (legacy context isLegacy)
  · intro context isHeld
    rw [lock] at isHeld
    rw [alike.1]
    exact sound.latest context isHeld
  · intro context isActive
    rw [active] at isActive
    obtain ⟨isHeld, isProcess, isThread⟩ := sound.active context isActive
    refine ⟨lock.trans isHeld, ?_, ?_⟩
    · exact process.trans (isProcess.trans (alike.2 context).1.symm)
    · exact threadId.trans (isThread.trans (alike.2 context).2.symm)
  · intro context isHeld
    rw [lock] at isHeld
    exact (sound.held context isHeld).still found tasks active (kept context)

/-- A call goes on beginning the turn of its context. -/
theorem Sound.goesOn (sound : codex.Sound) (found : codex.tasks[index]? = some task)
    {stage : CodexStage} {context : Nat} (begins : task.call.begins = true)
    (here : task.context = some context) (running : task.stage.isOver = false)
    (tasks : after.tasks = codex.tasks.set index { task with stage })
    (isFit : Fits { task with stage }) (isRunning : stage.isOver = false)
    (fits : converses stage = true → after.process = (after.context context).process)
    (lock : after.turnLock = codex.turnLock) (active : after.activeContext = codex.activeContext)
    (length : after.contexts.length = codex.contexts.length)
    (legacy : after.legacyContext = codex.legacyContext) : after.Sound := by
  have own := sound.tasks task (List.mem_of_getElem? found) context here
  obtain ⟨isHeld, isInactive⟩ := own.running begins running
  refine sound.assemble found tasks rfl (fun _ => Or.inl rfl) isFit ?_ ?_ ?_ ?_ ?_ ?_
  · intro place other context' differs isOther there otherSound
    refine otherSound.aside ?_ (Nat.le_of_eq length.symm) (Or.inl lock) ?_
    · exact sound.onlyBeginning found begins here running differs isOther there
    · rw [lock, active]
      exact otherSound.given
  · intro context' here'
    obtain rfl : context = context' := Option.some.inj (here.symm.trans here')
    refine ⟨?_, ?_, fun _ => fits, ?_, ?_⟩
    · rw [length]
      exact own.known
    · intro _ _
      rw [lock, active]
      exact ⟨isHeld, isInactive⟩
    · intro ends
      rw [ends_of_begins begins] at ends
      cases ends
    · intro settled
      rw [isSettled_over settled] at isRunning
      cases isRunning
  · rw [legacy, length, lock, active]
    exact sound.legacy
  · rw [lock, length]
    exact sound.latest
  · intro context' isActive
    rw [active, isInactive] at isActive
    cases isActive
  · intro context' isHeld'
    rw [lock] at isHeld'
    exact (sound.held context' isHeld').still found tasks active fun _ there _ =>
      ⟨begins, there, isRunning⟩

/-- The invariant holds once the lock is free and no context is active. -/
theorem Sound.freed (sound : codex.Sound) (found : codex.tasks[index]? = some task)
    {new : CodexTask} (tasks : after.tasks = codex.tasks.set index new)
    (call : new.call = task.call)
    (fresh : task.call.begins = true → new.context = task.context) (isFit : Fits new)
    (known : ∀ context, new.context = some context → context < codex.contexts.length)
    (isOver : task.call.begins = true → new.stage.isOver = true)
    (lock : after.turnLock = none) (active : after.activeContext = none)
    (length : after.contexts.length = codex.contexts.length)
    (legacy : ∀ context, after.legacyContext = some context → codex.legacyContext = some context)
    (alone : ∀ place other context, place ≠ index → codex.tasks[place]? = some other →
      other.context = some context → other.call.begins = true → other.stage.isOver = false →
      False) : after.Sound := by
  have free : ∀ context, after.turnLock ≠ some context := by
    intro context isHeld
    rw [lock] at isHeld
    cases isHeld
  refine sound.assemble found tasks call (fun begins => Or.inl (fresh begins)) isFit ?_ ?_ ?_
    ?_ ?_ ?_
  · intro place other context differs isOther here otherSound
    exact otherSound.aside (alone place other context differs isOther here)
      (Nat.le_of_eq length.symm)
      (Or.inr lock) fun _ isHeld => (free context isHeld).elim
  · intro context here
    refine ⟨?_, ?_, ?_, ?_, ?_⟩
    · rw [length]
      exact known context here
    · intro begins running
      rw [call] at begins
      rw [isOver begins] at running
      cases running
    · intro begins isConversing
      rw [call] at begins
      have running := converses_running isConversing
      rw [isOver begins] at running
      cases running
    · intro _ isHeld
      exact (free context isHeld).elim
    · intro _ isHeld
      exact free context isHeld
  · intro context isLegacy
    refine ⟨?_, fun isHeld => (free context isHeld).elim⟩
    rw [length]
    exact (sound.legacy context (legacy context isLegacy)).1
  · intro context isHeld
    exact (free context isHeld).elim
  · intro context isActive
    rw [active] at isActive
    cases isActive
  · intro context isHeld
    exact (free context isHeld).elim

/-- Every atom keeps the invariant. -/
theorem Sound.atom (sound : codex.Sound) (found : codex.tasks[index]? = some task)
    (atom : Atom codex index task after) : after.Sound := by
  have isMem := List.mem_of_getElem? found
  cases atom with
  | passes context stage turn contexts begins ends alike known isFit =>
      refine sound.still found rfl rfl ?_ isFit ?_ rfl rfl rfl rfl alike (fun _ same => same) ?_
      · intro begins'
        rw [begins] at begins'
        cases begins'
      · intro context' here
        have notSettled : isSettled { task with context, stage } = false := by
          unfold isSettled
          simp only [begins, ends, Bool.false_or, Bool.false_and, Bool.and_false]
        refine ⟨?_, ?_, ?_, ?_, ?_⟩
        · exact Nat.lt_of_lt_of_le (known context' here) (Nat.le_of_eq alike.1.symm)
        · intro begins'
          exact absurd begins' (by rw [begins]; decide)
        · intro begins'
          exact absurd begins' (by rw [begins]; decide)
        · intro ends'
          exact absurd ends' (by rw [ends]; decide)
        · intro settled
          rw [notSettled] at settled
          cases settled
      · intro context' begins'
        rw [begins] at begins'
        cases begins'
  | waits stage legacy nowhere isLegacy isFit =>
      refine sound.still found rfl rfl (fun _ => Or.inl rfl) isFit ?_ rfl rfl rfl rfl
        (.refl codex) ?_ ?_
      · intro context here
        change task.context = some context at here
        rw [nowhere] at here
        cases here
      · intro context here
        rcases isLegacy with same | isNone
        · exact same ▸ here
        · change legacy = some context at here
          rw [isNone] at here
          cases here
      · intro context _ here
        rw [nowhere] at here
        cases here
  | acquires begins nowhere free =>
      have inactive : ∀ context, codex.activeContext ≠ some context := by
        intro context isActive
        have isHeld := (sound.active context isActive).1
        rw [free] at isHeld
        cases isHeld
      have isNew : ∀ {context}, some codex.contexts.length = some context →
          context < codex.contexts.length → False := by
        intro context same known
        cases same
        exact Nat.lt_irrefl _ known
      have length : (codex.contexts ++ [({} : CodexContext)]).length = codex.contexts.length + 1 :=
        List.length_append
      refine sound.assemble found rfl rfl (fun _ => Or.inr rfl) trivial ?_ ?_ ?_ ?_ ?_ ?_
      · intro place other context differs isOther there otherSound
        have notRunning : other.call.begins = true → other.stage.isOver = false → False := by
          intro begins' running'
          have isHeld := (otherSound.running begins' running').1
          rw [free] at isHeld
          cases isHeld
        refine ⟨?_, ?_, ?_, ?_, ?_⟩
        · exact Nat.lt_of_lt_of_le otherSound.known (by rw [length]; omega)
        · intro begins' running'
          exact (notRunning begins' running').elim
        · intro begins' isConversing
          exact (notRunning begins' (converses_running isConversing)).elim
        · intro _ isHeld
          exact (isNew isHeld otherSound.known).elim
        · intro _ isHeld
          exact isNew isHeld otherSound.known
      · intro context here
        cases here
        refine ⟨?_, ?_, ?_, ?_, ?_⟩
        · change codex.contexts.length < (codex.contexts ++ [({} : CodexContext)]).length
          rw [length]
          exact Nat.lt_succ_self _
        · intro _ _
          exact ⟨rfl, Option.eq_none_iff_forall_ne_some.2 inactive⟩
        · intro _ isConversing
          cases isConversing
        · intro ends
          rw [ends_of_begins begins] at ends
          cases ends
        · intro settled
          cases isSettled_over settled
      · intro context isLegacy
        have known := (sound.legacy context isLegacy).1
        refine ⟨?_, fun isHeld => (isNew isHeld known).elim⟩
        exact Nat.lt_of_lt_of_le known (by rw [length]; omega)
      · intro context isHeld
        cases isHeld
        exact length.symm
      · intro context isActive
        exact (inactive context isActive).elim
      · intro context isHeld
        cases isHeld
        right
        exact ⟨_, List.mem_set (List.getElem?_eq_some_iff.1 found).1 _, begins, rfl, rfl⟩
  | proceeds context stage begins here running goesOn fits isFit =>
      exact sound.goesOn found begins here running rfl isFit goesOn (fun _ => fits) rfl rfl rfl rfl
  | spawns context begins here running =>
      have known := (sound.tasks task isMem context here).known
      refine sound.goesOn found begins here running rfl trivial rfl (fun _ => ?_) rfl rfl
        (List.length_set) rfl
      change _ = ((codex.contexts.set context _).getD context default).process
      rw [getD_set, if_pos ⟨rfl, known⟩]
  | fails context process exception begins here running =>
      refine sound.goesOn found begins here running rfl trivial rfl (fun isConversing => ?_) rfl rfl
        (List.length_set) rfl
      cases isConversing
  | aborts context process contexts fault begins here running length =>
      refine sound.freed found rfl rfl (fun _ => rfl) trivial ?_ (fun _ => rfl) rfl rfl length
        (fun _ same => same) ?_
      · intro context' here'
        exact (sound.tasks task isMem context' here').known
      · intro place other context' differs isOther there begins' running'
        exact sound.onlyBeginning found begins here running differs isOther there begins' running'
  | activates context threadId legacy begins here running fits isLegacy =>
      have own := sound.tasks task isMem context here
      obtain ⟨isHeld, isInactive⟩ := own.running begins running
      have length : (codex.contexts.set context
          { codex.context context with threadId := some threadId }).length =
          codex.contexts.length := List.length_set
      have isSame : ∀ {context'}, codex.turnLock = some context' → some context =
        some context' := by
        intro context' isHeld'
        exact isHeld.symm.trans isHeld'
      refine sound.assemble found rfl rfl (fun _ => Or.inl rfl) trivial ?_ ?_ ?_ ?_ ?_ ?_
      · intro place other context' differs isOther there otherSound
        refine otherSound.aside ?_ (Nat.le_of_eq length.symm) (Or.inl rfl) fun _ => isSame
        exact sound.onlyBeginning found begins here running differs isOther there
      · intro context' here'
        refine ⟨?_, ?_, ?_, ?_, ?_⟩
        · exact Nat.lt_of_lt_of_le (sound.tasks task isMem context' here').known
            (Nat.le_of_eq length.symm)
        · intro _ running'
          cases running'
        · intro _ isConversing
          cases isConversing
        · intro _ isHeld'
          exact isSame isHeld'
        · intro settled
          unfold isSettled at settled
          simp [ends_of_begins begins] at settled
      · intro context' isLegacy'
        refine ⟨Nat.lt_of_lt_of_le ?_ (Nat.le_of_eq length.symm), isSame⟩
        rcases isLegacy with same | isOwn
        · exact (sound.legacy context' (same ▸ isLegacy')).1
        · change legacy = some context' at isLegacy'
          rw [isOwn] at isLegacy'
          cases isLegacy'
          exact own.known
      · intro context' isHeld'
        exact (sound.latest context' isHeld').trans length.symm
      · intro context' isActive
        cases isActive
        refine ⟨isHeld, ?_, ?_⟩
        · change codex.process = ((codex.contexts.set context _).getD context default).process
          rw [getD_set, if_pos ⟨rfl, own.known⟩]
          exact fits
        · change _ = ((codex.contexts.set context _).getD context default).threadId
          rw [getD_set, if_pos ⟨rfl, own.known⟩]
      · intro context' isHeld'
        exact Or.inl (isSame isHeld')
  | declines context legacy ends known given inactive isLegacy =>
      refine sound.still found rfl rfl ?_ trivial ?_ rfl rfl rfl rfl (.refl codex) ?_ ?_
      · intro begins
        rw [begins_of_ends ends] at begins
        cases begins
      · intro context' here
        cases here
        refine ⟨known, ?_, ?_, fun _ => given, fun _ isHeld => inactive (given isHeld)⟩
        · intro _ running
          cases running
        · intro _ isConversing
          cases isConversing
      · intro context' here
        rcases isLegacy with same | isNone
        · exact same ▸ here
        · change legacy = some context' at here
          rw [isNone] at here
          cases here
      · intro context' begins
        rw [begins_of_ends ends] at begins
        cases begins
  | signals context process stage ends known given stands goesOn isFit =>
      refine sound.still found rfl rfl ?_ isFit ?_ rfl rfl rfl rfl (.refl codex)
        (fun _ same => same) ?_
      · intro begins
        rw [begins_of_ends ends] at begins
        cases begins
      · intro context' here
        cases here
        refine ⟨known, ?_, ?_, fun _ => given, ?_⟩
        · intro begins
          exact absurd begins (by rw [begins_of_ends ends]; decide)
        · intro begins
          exact absurd begins (by rw [begins_of_ends ends]; decide)
        · intro settled
          rw [isSettled_over settled] at goesOn
          cases goesOn
      · intro context' begins
        rw [begins_of_ends ends] at begins
        cases begins
  | ends context process threadId turn contexts legacy stage ends known stands length isLegacy
      isFit =>
      have notBegins : task.call.begins = true → False := by
        intro begins
        rw [begins_of_ends ends] at begins
        cases begins
      refine sound.freed found rfl rfl (fun begins => (notBegins begins).elim) isFit ?_
        (fun begins => (notBegins begins).elim) rfl rfl length ?_ ?_
      · intro context' here
        cases here
        exact known
      · intro context' here
        rcases isLegacy with same | isNone
        · exact same ▸ here
        · change legacy = some context' at here
          rw [isNone] at here
          cases here
      · intro place other context' _ isOther there begins running
        have own := (sound.tasks other (List.mem_of_getElem? isOther) context' there).running begins
          running
        rcases stands with isActive | isFree
        · rw [own.2] at isActive
          cases isActive
        · rw [isFree] at own
          cases own.1

/-- A context holds the provider exactly if the lock is held for it. -/
theorem Sound.held_iff (sound : codex.Sound) (context : Nat) :
    codex.turnLock = some context ↔ codex.Holds context := by
  refine ⟨sound.held context, ?_⟩
  intro holds
  rcases holds with isActive | ⟨other, isMem, begins, here, running⟩
  · exact (sound.active context isActive).1
  · exact ((sound.tasks other isMem context here).running begins running).1

end Kept

/-! ### Calls arrive -/

section Arrivals

variable {codex : Codex} {call : CodexCall}

theorem argument_of_begins (begins : call.begins = true) : call.argument = none := by
  cases call <;> first | rfl | cases begins

/-- A context that `begin_turn` has returned is being begun no more. -/
theorem Sound.given (sound : codex.Sound) {context : Nat} (isGiven : codex.isGiven context = true) :
    context < codex.contexts.length ∧
      (codex.turnLock = some context → codex.activeContext = some context) := by
  obtain ⟨task, isMem, matching⟩ := List.any_eq_true.1 isGiven
  simp only [Bool.and_eq_true, beq_iff_eq] at matching
  obtain ⟨⟨begins, here⟩, isReturned⟩ := matching
  refine ⟨(sound.tasks task isMem context here).known, ?_⟩
  intro isHeld
  rcases sound.held context isHeld with isActive | ⟨other, isOther, begins', there, running⟩
  · exact isActive
  · obtain ⟨first, isFirst⟩ := List.mem_iff_getElem?.1 isMem
    obtain ⟨second, isSecond⟩ := List.mem_iff_getElem?.1 isOther
    have same := sound.distinct first second task other context isFirst isSecond begins begins' here
      there
    subst same
    rw [isFirst] at isSecond
    cases isSecond
    rw [isReturned] at running
    cases running

theorem Holds.arrive {context : Nat} (holds : codex.Holds context) :
    (codex.arrive call).Holds context := by
  rcases holds with isActive | ⟨task, isMem, begins, here, running⟩
  · exact Or.inl isActive
  · exact Or.inr ⟨task, List.mem_append_left _ isMem, begins, here, running⟩

theorem Sound.arrive (sound : codex.Sound) (given : call.argument.all codex.isGiven = true) :
    (codex.arrive call).Sound := by
  refine ⟨?_, ?_, ?_, sound.legacy, sound.latest, sound.active, fun context isHeld =>
    (sound.held context isHeld).arrive⟩
  · intro task isMem context here
    rcases List.mem_append.1 isMem with isOld | isNew
    · have old := sound.tasks task isOld context here
      exact ⟨old.known, old.running, old.conversing, old.given, old.settled⟩
    · obtain rfl := List.mem_singleton.1 isNew
      change call.argument = some context at here
      have isGiven :=
        sound.given (by rw [here] at given; exact given : codex.isGiven context = true)
      refine ⟨isGiven.1, ?_, ?_, fun _ => isGiven.2, ?_⟩
      · intro begins
        rw [argument_of_begins begins] at here
        cases here
      · intro _ isConversing
        cases isConversing
      · intro settled
        cases isSettled_over settled
  · intro task isMem
    rcases List.mem_append.1 isMem with isOld | isNew
    · exact sound.fits task isOld
    · obtain rfl := List.mem_singleton.1 isNew
      exact rfl
  · have isOld : ∀ {place : Nat} {task : CodexTask} {context : Nat},
        (codex.arrive call).tasks[place]? = some task → task.call.begins = true →
        task.context = some context → codex.tasks[place]? = some task := by
      intro place task context isTask begins here
      rcases Nat.lt_or_ge place codex.tasks.length with isBefore | isAfter
      · exact (List.getElem?_append_left isBefore).symm.trans isTask
      · have isNew := (List.getElem?_append_right isAfter).symm.trans isTask
        obtain rfl := List.mem_singleton.1 (List.mem_of_getElem? isNew)
        rw [argument_of_begins begins] at here
        cases here
    intro first second one two context isOne isTwo oneBegins twoBegins oneHere twoHere
    exact sound.distinct first second one two context (isOld isOne oneBegins oneHere)
      (isOld isTwo twoBegins twoHere) oneBegins twoBegins oneHere twoHere

end Arrivals

end Codex

end Loom
