import Loom.Driver.CodexAtoms

/-!
# The moves of the Codex provider

The moves that a run may make, and each of them as the arrival of a call or an elementary
transition.
-/

namespace Loom

/-- The call is cancelled. -/
def CodexEvent.cancels : CodexEvent → Bool
  | .acquireCancelled | .spawned (.failed .cancelled) | .sent (.error .cancelled)
  | .answered (.error .cancelled) | .waited .cancelled | .streamed (.error .cancelled) => true
  | _ => false

namespace Codex

/-! ### What is asked of a run -/

/-- The calls that go wrong: a `close` or a `force_shutdown` that finds no context although a turn
is being begun. -/
def permitsStart (codex : Codex) (call : CodexCall) : Bool :=
  match call with
  | .close => codex.closing.isSome || codex.turnLock.isNone
  | .forceShutdown => codex.activeContext.isSome || codex.process.isNone
  | _ => true

/-- Nothing is cancelled while it begins a turn, and a call that ends a turn goes on only while it
is not cancelled and its context is active, or while nobody holds the lock. -/
def permitsResume (codex : Codex) (task : CodexTask) (event : CodexEvent) : Bool :=
  match task.context with
  | some context =>
      if task.call.begins then !event.cancels
      else if task.call.ends then
        codex.activeContext == some context && !event.cancels || codex.turnLock.isNone
      else true
  | none => true

/-- The moves after which the lock is still with its holder. -/
def permits (codex : Codex) (move : CodexMove) : Bool :=
  match move with
  | .starts index => (codex.tasks[index]?).all fun task => codex.permitsStart task.call
  | .resumes index event => (codex.tasks[index]?).all fun task => codex.permitsResume task event
  | .arrives _ | .acquired _ => true

/-! ### Moves are atoms -/

section Moves

variable {codex : Codex} {index : Nat} {task : CodexTask} {context : Nat}

theorem conclude_of_ne {call : CodexCall} {place : Option Nat} {outcome : Codex × CodexStage}
    (goesOn : outcome.2 ≠ .returned) : conclude call place outcome = outcome := by
  unfold conclude
  split
  · rename_i isReturned
    exact (goesOn isReturned).elim
  · rename_i isReturned
    exact (goesOn isReturned).elim
  · rfl

/-- `start` keeps the context of the turn that it has begun. -/
theorem settle_begun {claim : Codex → Prop} {begun : Codex} (begins : task.call.begins = true)
    (holds : ∀ legacy, (legacy = begun.legacyContext ∨ legacy = task.context) →
      claim { begun with
        legacyContext := legacy
        tasks := begun.tasks.set index { task with stage := .returned } }) :
    claim (settle index task (begun, .returned)) := by
  unfold settle conclude
  cases called : task.call with
  | beginTurn turn =>
      have same := holds begun.legacyContext (Or.inl rfl)
      rw [called] at same
      exact same
  | start turn =>
      have own := holds task.context (Or.inr rfl)
      rw [called] at own
      exact own
  | sendTurn argument =>
      rw [called] at begins
      cases begins
  | interrupt target =>
      rw [called] at begins
      cases begins
  | endTurn place =>
      rw [called] at begins
      cases begins
  | close =>
      rw [called] at begins
      cases begins
  | forceShutdown =>
      rw [called] at begins
      cases begins

/-- `close` forgets the context of `start` that it has ended. -/
theorem settle_ended {claim : Codex → Prop} {ended : Codex} {stage : CodexStage}
    (ends : task.call.ends = true)
    (holds : ∀ legacy, (legacy = ended.legacyContext ∨ legacy = none) →
      claim { ended with
        legacyContext := legacy
        tasks := ended.tasks.set index { task with stage } }) :
    claim (settle index task (ended, stage)) := by
  have same := holds ended.legacyContext (Or.inl rfl)
  unfold settle conclude
  split
  · rename_i turn called isReturned
    rw [called] at ends
    cases ends
  · rename_i called isReturned
    have forgotten := holds none (Or.inr rfl)
    dsimp only at isReturned ⊢
    subst isReturned
    split
    · exact forgotten
    · exact same
  · exact same

theorem exchange_of_process {stage : CodexStage} (isRunning : codex.process.isNone = false) :
    codex.exchange context stage = (codex, stage) := by
  unfold exchange
  rw [isRunning]
  rfl

/-! #### A turn is begun -/

section Beginning

variable (sound : codex.Sound) (found : codex.tasks[index]? = some task)
  (begins : task.call.begins = true) (here : task.context = some context)
  (running : task.stage.isOver = false)

include sound found begins here running

theorem failed_atom {contexts : List CodexContext}
    (length : contexts.length = codex.contexts.length)
    (process : Option Nat) (exception : Exc) : Atom codex index task
      (settle index task
        (failed { codex with contexts := contexts } context process exception)) := by
  have isInactive : codex.activeContext = none :=
    ((sound.tasks task (List.mem_of_getElem? found) context here).running begins running).2
  have forgotten : (if codex.activeContext = some context then none else codex.activeContext) =
      none := by
    rw [isInactive]
    rfl
  have atom := @Atom.aborts codex index task context
    (if codex.process = process then none else codex.process) contexts (.error exception)
      begins here
    running length
  unfold settle
  rw [conclude_of_ne (by unfold failed; exact CodexStage.noConfusion)]
  unfold failed unlock
  dsimp only
  rw [forgotten]
  exact atom

theorem fail_atom (exception : Exc) :
    Atom codex index task (settle index task (codex.fail context exception)) := by
  unfold fail
  dsimp only
  split
  · rename_i process isProcess
    unfold settle
    rw [conclude_of_ne (by exact CodexStage.noConfusion)]
    exact .fails context process exception begins here running
  · exact failed_atom sound found begins here running List.length_set none exception

omit sound found in
theorem proceed_atom {stage : CodexStage} (goesOn : stage.isOver = false)
    (fits : codex.process = (codex.context context).process)
    (isFit : Fits { task with stage }) :
    Atom codex index task (settle index task (codex, stage)) := by
  have isRunning : stage ≠ .returned := by
    intro isReturned
    rw [isReturned] at goesOn
    cases goesOn
  unfold settle
  rw [conclude_of_ne isRunning]
  exact .proceeds context stage begins here running goesOn fits isFit

theorem exchange_atom {stage : CodexStage} (goesOn : stage.isOver = false)
    (fits : codex.process = (codex.context context).process)
    (isFit : Fits { task with stage }) :
    Atom codex index task (settle index task (codex.exchange context stage)) := by
  unfold exchange
  split
  · exact fail_atom sound found begins here running _
  · exact proceed_atom begins here running goesOn fits isFit

theorem abort_atom {fault : Fault} (calm : fault ≠ .cancelled) :
    Atom codex index task (settle index task (codex.abort context fault)) := by
  cases fault with
  | error exception => exact fail_atom sound found begins here running exception
  | cancelled => exact (calm rfl).elim

theorem spawned_atom {answer : Spawned} (calm : answer ≠ .failed .cancelled) :
    Atom codex index task (settle index task (codex.spawned context answer)) := by
  cases answer with
  | started =>
      have atom := @Atom.spawns codex index task context begins here running
      unfold spawned
      dsimp only
      rw [exchange_of_process rfl]
      unfold settle
      rw [conclude_of_ne (by exact CodexStage.noConfusion)]
      exact atom
  | unavailable => exact fail_atom sound found begins here running _
  | failed fault =>
      refine abort_atom sound found begins here running ?_
      rintro rfl
      exact calm rfl

theorem initialized_atom {answer : Except Fault Dict}
    (fits : codex.process = (codex.context context).process)
    (calm : answer ≠ .error .cancelled) :
    Atom codex index task (settle index task (codex.initialized context answer)) := by
  cases answer with
  | ok response =>
      unfold initialized
      dsimp only
      split
      · exact exchange_atom sound found begins here running rfl fits trivial
      · exact fail_atom sound found begins here running _
  | error fault =>
      refine abort_atom sound found begins here running ?_
      rintro rfl
      exact calm rfl

theorem resumed_atom {text : Json → String} {turn : BeginTurn} {answer : Except Fault Dict}
    (fits : codex.process = (codex.context context).process)
    (calm : answer ≠ .error .cancelled) :
    Atom codex index task (settle index task (codex.resumed text turn context answer)) := by
  have failing : ∀ first second : Exc, Atom codex index task (settle index task
      (if (textGiven turn.existingThreadId).isSome then codex.fail context first
        else codex.fail context second)) := by
    intro first second
    split
    · exact fail_atom sound found begins here running first
    · exact fail_atom sound found begins here running second
  cases answer with
  | ok response =>
      unfold resumed
      dsimp only
      split
      · refine settle_begun begins fun legacy isLegacy => ?_
        refine .activates context _ legacy begins here running fits ?_
        rw [here] at isLegacy
        exact isLegacy
      · exact failing _ _
  | error fault =>
      cases fault with
      | error exception => exact failing _ _
      | cancelled => exact (calm rfl).elim

omit running in
theorem resumeBegin_atom {text : Json → String} {turn : BeginTurn} {event : CodexEvent}
    {outcome : Codex × CodexStage} (calm : event.cancels = false)
    (goes : codex.resumeBegin text turn context task.stage event = some outcome) :
    Atom codex index task (settle index task outcome) := by
  have fits : converses task.stage = true → codex.process = (codex.context context).process :=
    (sound.tasks task (List.mem_of_getElem? found) context here).conversing begins
  unfold resumeBegin at goes
  split at goes
  all_goals rename_i isStage
  · cases goes
    refine spawned_atom sound found begins here (by rw [isStage]; rfl) ?_
    rintro rfl
    cases calm
  · cases goes
    exact exchange_atom sound found begins here (by rw [isStage]; rfl) rfl
      (fits (by rw [isStage]; rfl)) trivial
  · cases goes
    refine abort_atom sound found begins here (by rw [isStage]; rfl) ?_
    rintro rfl
    cases calm
  · cases goes
    refine initialized_atom sound found begins here (by rw [isStage]; rfl)
      (fits (by rw [isStage]; rfl)) ?_
    rintro rfl
    cases calm
  · split at goes
    · cases goes
      exact resumed_atom sound found begins here (by rw [isStage]; rfl)
        (fits (by rw [isStage]; rfl)) (by exact fun impossible => by cases impossible)
    · cases goes
      exact proceed_atom begins here (by rw [isStage]; rfl) rfl (fits (by rw [isStage]; rfl))
        trivial
  · cases goes
    refine abort_atom sound found begins here (by rw [isStage]; rfl) ?_
    rintro rfl
    cases calm
  · cases goes
    refine resumed_atom sound found begins here (by rw [isStage]; rfl)
      (fits (by rw [isStage]; rfl)) ?_
    rintro rfl
    cases calm
  · cases calm
  · cases goes
    exact failed_atom sound found begins here (by rw [isStage]; rfl) rfl _ _
  · cases goes

end Beginning

/-! #### A turn is ended -/

section Ending

variable (ends : task.call.ends = true) (known : context < codex.contexts.length)

include ends known

omit known in
/-- A call that ends the turn of its context goes to a stage. -/
theorem settle_ends {outcome : Codex × CodexStage}
    (atoms : ∀ legacy, (legacy = outcome.1.legacyContext ∨ legacy = none) → Atom codex index task
      { outcome.1 with
        legacyContext := legacy
        tasks := outcome.1.tasks.set index
          { task with context := some context, stage := outcome.2 } }) :
    Atom codex index task (settle index { task with context := some context } outcome) := by
  exact @settle_ended index { task with context := some context } (Atom codex index task) outcome.1
    outcome.2 ends atoms

theorem endTurn_atom
    (given : codex.turnLock = some context → codex.activeContext = some context) :
    Atom codex index task
      (settle index { task with context := some context } (codex.endTurn context)) := by
  unfold endTurn
  split
  · rename_i inactive
    exact settle_ends ends fun legacy isLegacy =>
      .declines context legacy ends known given inactive isLegacy
  · rename_i isActive
    rw [ne_eq, not_not] at isActive
    split
    · rename_i process isProcess
      unfold settle
      rw [conclude_of_ne (by exact CodexStage.noConfusion)]
      exact .signals context process (.terminating process) ends known given (Or.inl isActive) rfl
        trivial
    · exact settle_ends ends fun legacy isLegacy =>
        .ends context codex.process codex.threadId codex.currentTurnId codex.contexts
          legacy .returned
          ends known (Or.inl isActive) rfl isLegacy trivial

variable (stands : codex.activeContext = some context ∨ codex.turnLock = none)

include stands

theorem ended_atom : Atom codex index task
    (settle index { task with context := some context } (codex.ended context)) :=
  settle_ends ends fun legacy isLegacy =>
    .ends context none none none _ legacy .returned ends known stands List.length_set isLegacy
      trivial

omit ends known stands in
theorem unlock_eq (inactive : codex.activeContext = none) :
    codex.unlock = { codex with turnLock := none, activeContext := none } := by
  cases codex
  cases inactive
  rfl

omit stands in
/-- A cancelled call releases a lock that nobody holds. -/
theorem released_atom (sound : codex.Sound) (free : codex.turnLock = none) (fault : Fault) :
    Atom codex index task
      (settle index { task with context := some context } (codex.unlock, .raised fault)) := by
  have inactive : codex.activeContext = none := by
    refine Option.eq_none_iff_forall_ne_some.2 fun other isActive => ?_
    have isHeld := (sound.active other isActive).1
    rw [free] at isHeld
    cases isHeld
  have atom := @Atom.ends codex index task context codex.process codex.threadId codex.currentTurnId
    codex.contexts codex.legacyContext (.raised fault) ends known (Or.inr free) rfl (Or.inl rfl)
      trivial
  unfold settle
  rw [conclude_of_ne (by exact CodexStage.noConfusion), unlock_eq inactive]
  exact atom

theorem terminated_atom (sound : codex.Sound) (process : Nat) (answer : Waited)
    (calm : answer = .cancelled → codex.turnLock = none) : Atom codex index task
      (settle index { task with context := some context }
        (codex.terminated context process answer)) := by
  cases answer with
  | exited => exact ended_atom ends known stands
  | timedOut =>
      unfold settle
      rw [conclude_of_ne (by exact CodexStage.noConfusion)]
      refine .signals context process (.killing process) ends known ?_ stands rfl trivial
      intro isHeld
      rcases stands with isActive | isFree
      · exact isActive
      · rw [isFree] at isHeld
        cases isHeld
  | cancelled => exact released_atom ends known sound (calm rfl) .cancelled

theorem killed_atom (sound : codex.Sound) (answer : Waited)
    (calm : answer = .cancelled → codex.turnLock = none) : Atom codex index task
      (settle index { task with context := some context } (codex.killed context answer)) := by
  cases answer with
  | exited => exact ended_atom ends known stands
  | timedOut => exact ended_atom ends known stands
  | cancelled => exact released_atom ends known sound (calm rfl) .cancelled

end Ending

/-! #### Other calls go on -/

section Others

variable (begins : task.call.begins = false) (ends : task.call.ends = false)

include begins ends

theorem settle_other (place : Option Nat) (outcome : Codex × CodexStage) :
    settle index { task with context := place } outcome =
      { outcome.1 with
        tasks := outcome.1.tasks.set index
          { task with context := place, stage := outcome.2 } } := by
  unfold settle
  dsimp only
  unfold conclude
  split
  · rename_i called _
    rw [called] at begins
    cases begins
  · rename_i called _
    rw [called] at ends
    cases ends
  · rfl

theorem pass_atom {place : Option Nat} {stage : CodexStage}
    (known : ∀ context, place = some context → context < codex.contexts.length)
    (isFit : Fits { task with context := place, stage }) :
    Atom codex index task (settle index { task with context := place } (codex, stage)) := by
  rw [settle_other begins ends place]
  exact .passes place stage codex.currentTurnId codex.contexts begins ends (.refl codex) known isFit

theorem sendTurn_atom (sound : codex.Sound) {argument : Option Nat}
    (known : ∀ context, argument.or codex.activeContext = some context →
      context < codex.contexts.length) :
    Atom codex index task (settle index { task with context := argument.or codex.activeContext }
      (codex.sendTurn argument)) := by
  have sends : ∀ sender : Codex, sender = codex → Atom codex index task
      (settle index { task with context := argument.or codex.activeContext }
        (sendTurn.send sender)) := by
    rintro sender rfl
    unfold sendTurn.send
    split
    · exact pass_atom begins ends known trivial
    · rw [settle_other begins ends]
      exact .passes _ .sending none sender.contexts begins ends (.refl sender) known ⟨begins, ends⟩
  unfold sendTurn
  split
  · rename_i context
    split
    · exact pass_atom begins ends known trivial
    · rename_i isActive
      rw [ne_eq, not_not] at isActive
      obtain ⟨_, isProcess, isThread⟩ := sound.active context isActive
      refine sends _ ?_
      rw [← isProcess, ← isThread]
  · exact sends codex rfl

theorem interrupt_atom {target : InterruptTarget} {place : Option Nat}
    (known : ∀ context, place = some context → context < codex.contexts.length) :
    Atom codex index task
      (settle index { task with context := place } (codex.interrupt target place)) := by
  have sends : ∀ turn : Option String, Atom codex index task
      (settle index { task with context := place }
        (if codex.process.isSome ∧ (textGiven ((textGiven turn).or codex.currentTurnId)).isSome then
          (codex, .sending)
        else (codex, .returned))) := by
    intro turn
    split
    · exact pass_atom begins ends known ⟨begins, ends⟩
    · exact pass_atom begins ends known trivial
  unfold interrupt
  split
  · exact pass_atom begins ends known trivial
  · exact sends _

theorem noted_atom {turn : String}
    (known : ∀ context, task.context = some context → context < codex.contexts.length) :
    Atom codex index task (settle index task (codex.noted task.context turn, .streaming)) := by
  have settled := @settle_other index task begins ends task.context
    (codex.noted task.context turn, .streaming)
  refine settled ▸ ?_
  have fits : Fits { task with stage := .streaming } := ⟨begins, ends⟩
  unfold noted
  split
  · rename_i context here
    exact .passes _ .streaming (some turn) (codex.contexts.set context _) begins ends
      (.turn codex context (some turn)) known fits
  · exact .passes _ .streaming (some turn) codex.contexts begins ends (.refl codex) known fits

end Others

/-- A call without a context goes on. -/
theorem wait_atom {stage : CodexStage} (nowhere : task.context = none)
    (goesOn : stage ≠ .returned) (isFit : Fits { task with stage }) :
    Atom codex index task (settle index task (codex, stage)) := by
  unfold settle
  rw [conclude_of_ne goesOn]
  exact .waits stage codex.legacyContext nowhere (Or.inl rfl) isFit

/-- `close` and `force_shutdown` without a context return. -/
theorem idle_atom (nowhere : task.context = none) (ends : task.call.ends = true) :
    Atom codex index task (settle index task (codex, .returned)) := by
  refine settle_ended ends fun legacy isLegacy => ?_
  exact .waits .returned legacy nowhere isLegacy trivial

theorem Sound.active_known (sound : codex.Sound) (isActive : codex.activeContext = some context) :
    context < codex.contexts.length := by
  have isLatest := sound.latest context (sound.active context isActive).1
  omega

theorem Sound.inactive (sound : codex.Sound) (free : codex.turnLock = none) :
    codex.activeContext = none := by
  refine Option.eq_none_iff_forall_ne_some.2 fun other isActive => ?_
  have isHeld := (sound.active other isActive).1
  rw [free] at isHeld
  cases isHeld

/-- A call that starts. -/
theorem start_atom (sound : codex.Sound) (found : codex.tasks[index]? = some task)
    (created : task.stage = .created) (permitted : codex.permitsStart task.call = true) :
    Atom codex index task (codex.start index task) := by
  have isMem := List.mem_of_getElem? found
  have fits := sound.fits task isMem
  have known : ∀ context, task.context = some context → context < codex.contexts.length :=
    fun context here => (sound.tasks task isMem context here).known
  have reaches : ∀ {argument : Option Nat}, argument = task.context → ∀ context,
      argument.or codex.activeContext = some context → context < codex.contexts.length := by
    intro argument same context here
    subst same
    rcases Option.or_eq_some_iff.1 here with isGiven | ⟨_, isActive⟩
    · exact known context isGiven
    · exact sound.active_known isActive
  unfold Fits at fits
  rw [created] at fits
  dsimp only at fits
  obtain ⟨call, place, stage⟩ := task
  dsimp only at fits permitted known reaches created
  unfold start
  cases call with
  | beginTurn turn => exact wait_atom fits CodexStage.noConfusion ⟨rfl, fits⟩
  | start turn => exact wait_atom fits CodexStage.noConfusion ⟨rfl, fits⟩
  | sendTurn argument => exact sendTurn_atom rfl rfl sound (reaches fits.symm)
  | interrupt target => exact interrupt_atom rfl rfl (reaches rfl)
  | endTurn context =>
      cases fits
      have own := sound.tasks _ isMem context rfl
      exact @endTurn_atom codex index ⟨.endTurn context, some context, stage⟩ context rfl own.known
        (own.given rfl)
  | close =>
      dsimp only
      split
      · rename_i context closing
        have given : context < codex.contexts.length ∧
            (codex.turnLock = some context → codex.activeContext = some context) := by
          unfold Codex.closing at closing
          rcases Option.or_eq_some_iff.1 closing with isLegacy | ⟨_, isActive⟩
          · exact sound.legacy context isLegacy
          · exact ⟨sound.active_known isActive, fun _ => isActive⟩
        exact @endTurn_atom codex index ⟨.close, place, stage⟩ context rfl given.1 given.2
      · rename_i closing
        have free : codex.turnLock = none := by
          unfold permitsStart at permitted
          rw [closing] at permitted
          exact Option.isNone_iff_eq_none.1 permitted
        have same : codex.unlock = codex := by
          unfold unlock
          rw [← free]
        rw [same]
        exact idle_atom fits rfl
  | forceShutdown =>
      dsimp only
      split
      · rename_i context isActive
        exact @endTurn_atom codex index ⟨.forceShutdown, place, stage⟩ context rfl
          (sound.active_known isActive) fun _ => isActive
      · rename_i inactive
        have gone : codex.process = none := by
          unfold permitsStart at permitted
          rw [inactive] at permitted
          exact Option.isNone_iff_eq_none.1 permitted
        unfold forceShutdown
        rw [gone]
        exact idle_atom fits rfl

theorem resumeOther_atom (sound : codex.Sound) (found : codex.tasks[index]? = some task)
    {event : CodexEvent} {outcome : Codex × CodexStage}
    (goes : codex.resumeOther task event = some outcome) :
    Atom codex index task (settle index task outcome) := by
  have isMem := List.mem_of_getElem? found
  have fits := sound.fits task isMem
  have known : ∀ context, task.context = some context → context < codex.contexts.length :=
    fun context here => (sound.tasks task isMem context here).known
  have after : ∀ (next : CodexStage) (answer : Except Fault Unit), task.call.begins = false →
      task.call.ends = false → Fits { task with stage := next } →
      Atom codex index task (settle index task (codex, stageAfter next answer)) := by
    intro next answer begins ends isFit
    cases answer with
    | ok _ => exact pass_atom begins ends known isFit
    | error fault => exact pass_atom begins ends known trivial
  unfold Fits at fits
  unfold resumeOther at goes
  split at goes
  all_goals rename_i isStage
  · cases goes
    rw [isStage] at fits
    exact wait_atom fits.2 CodexStage.noConfusion trivial
  · rw [isStage] at fits
    exact fits.elim
  · rw [isStage] at fits
    exact fits.elim
  · rw [isStage] at fits
    split at goes
    · cases goes
      exact after .streaming _ fits.1 fits.2 fits
    · cases goes
      exact after .returned _ fits.1 fits.2 trivial
  · cases goes
    rw [isStage] at fits
    exact noted_atom fits.1 fits.2 known
  · cases goes
    rw [isStage] at fits
    exact after .returned _ fits.1 fits.2 trivial
  · cases goes

theorem resumeEnd_atom (sound : codex.Sound) (found : codex.tasks[index]? = some task)
    (ends : task.call.ends = true) (here : task.context = some context) {event : CodexEvent}
    (permitted : (codex.activeContext == some context && !event.cancels ||
      codex.turnLock.isNone) = true) {outcome : Codex × CodexStage}
    (goes : codex.resumeEnd context task.stage event = some outcome) :
    Atom codex index task (settle index task outcome) := by
  have known := (sound.tasks task (List.mem_of_getElem? found) context here).known
  have same : task = { task with context := some context } := by
    rw [← here]
  simp only [Bool.or_eq_true, Bool.and_eq_true, beq_iff_eq, Option.isNone_iff_eq_none] at permitted
  have stands : codex.activeContext = some context ∨ codex.turnLock = none :=
    permitted.imp And.left id
  have calm : event.cancels = true → codex.turnLock = none := by
    intro cancels
    rcases permitted with ⟨_, isCalm⟩ | free
    · rw [cancels] at isCalm
      cases isCalm
    · exact free
  unfold resumeEnd at goes
  split at goes
  · rename_i process answer isStage
    cases goes
    have atom := @terminated_atom codex index task context ends known stands sound process answer
      fun isCancelled => calm (by rw [isCancelled]; rfl)
    rwa [← same] at atom
  · rename_i process answer isStage
    cases goes
    have atom := @killed_atom codex index task context ends known stands sound answer
      fun isCancelled => calm (by rw [isCancelled]; rfl)
    rwa [← same] at atom
  · cases goes

/-- A suspended call that goes on. -/
theorem resume_atom (sound : codex.Sound) (found : codex.tasks[index]? = some task)
    {text : Json → String} {event : CodexEvent} {outcome : Codex × CodexStage}
    (permitted : codex.permitsResume task event = true)
    (goes : codex.resume text task event = some outcome) :
    Atom codex index task (settle index task outcome) := by
  unfold permitsResume at permitted
  unfold resume at goes
  split at goes
  · rename_i turn context isTurn here
    have begins : task.call.begins = true := by
      unfold CodexCall.begins
      rw [isTurn]
      rfl
    rw [here] at permitted
    dsimp only at permitted
    rw [if_pos begins, Bool.not_eq_true'] at permitted
    exact resumeBegin_atom sound found begins here permitted goes
  · rename_i context isTurn here
    have begins : task.call.begins = false := by
      unfold CodexCall.begins
      rw [isTurn]
      rfl
    split at goes
    · rename_i ends
      rw [here] at permitted
      dsimp only at permitted
      rw [begins, if_neg Bool.false_ne_true, if_pos ends] at permitted
      exact resumeEnd_atom sound found ends here permitted goes
    · exact resumeOther_atom sound found goes
  · exact resumeOther_atom sound found goes

/-- A permitted move is the arrival of a call, or an atom of the call that makes it. -/
theorem move_atom (sound : codex.Sound) {text : Json → String} {move : CodexMove} {after : Codex}
    (permitted : codex.permits move = true) (goes : move.step text codex = some after) :
    (∃ call, call.argument.all codex.isGiven = true ∧ move = .arrives call ∧
      after = codex.arrive call) ∨
    ∃ index task, move.index? = some index ∧ codex.tasks[index]? = some task ∧
      Atom codex index task after := by
  cases move with
  | arrives call =>
      unfold CodexMove.step at goes
      dsimp only at goes
      split at goes
      · rename_i given
        cases goes
        exact Or.inl ⟨call, given, rfl, rfl⟩
      · cases goes
  | starts index =>
      right
      unfold CodexMove.step at goes
      unfold permits at permitted
      dsimp only at goes permitted
      split at goes
      · rename_i task found
        rw [found] at permitted
        split at goes
        · rename_i created
          cases goes
          exact ⟨index, task, rfl, found, start_atom sound found created permitted⟩
        · cases goes
      · cases goes
  | acquired index =>
      right
      unfold CodexMove.step at goes
      dsimp only at goes
      split at goes
      · rename_i task found
        split at goes
        · rename_i isReady
          cases goes
          have fits := sound.fits task (List.mem_of_getElem? found)
          unfold Fits at fits
          rw [isReady.1] at fits
          refine ⟨index, task, rfl, found, ?_⟩
          unfold settle
          rw [conclude_of_ne (by exact CodexStage.noConfusion)]
          exact .acquires fits.1 fits.2 isReady.2
        · cases goes
      · cases goes
  | resumes index event =>
      right
      unfold CodexMove.step at goes
      unfold permits at permitted
      dsimp only at goes permitted
      split at goes
      · rename_i task found
        rw [found] at permitted
        obtain ⟨outcome, resumed, rfl⟩ := Option.map_eq_some_iff.1 goes
        exact ⟨index, task, rfl, found, resume_atom sound found permitted resumed⟩
      · cases goes

end Moves

end Codex

end Loom
