import Loom.Driver.Coordinator

/-!
# The turn lock of the Codex provider

`CodexAppServerProvider` of `loom_v2/coding_agents/codex.py`: who holds the turn lock, the active
context and the process.  The calls of the provider interleave at their awaits: a move of the
machine is what one call does between two awaits.  Contexts and processes are objects; they are
identified by the order in which they are created.

The lock is kept with the context that it has been acquired for; the source only asks whether it is
held.  Any of several calls that wait for the lock may go on once it is free.  `signals` notes the
processes that are terminated or killed; nothing reads it.
-/

namespace Loom

/-- The fields of a `TurnContext` that the provider reads and writes. -/
structure CodexContext where
  process : Option Nat := none
  threadId : Option String := none
  turnId : Option String := none
  deriving Repr, DecidableEq, Inhabited

/-- The arguments of `begin_turn` that its course depends on. -/
structure BeginTurn where
  conversationRef : String
  existingThreadId : Option String := none
  deriving Repr, DecidableEq, Inhabited

/-- The argument `context_or_turn` of `interrupt`. -/
inductive InterruptTarget where
  | context (context : Nat)
  | turn (turn : String)
  | nothing
  deriving Repr, DecidableEq, Inhabited

/-- `isinstance(context_or_turn, TurnContext)`. -/
def InterruptTarget.isContext : InterruptTarget → Bool
  | .context _ => true
  | .turn _ | .nothing => false

/-- A call of a method of the provider. -/
inductive CodexCall where
  | beginTurn (turn : BeginTurn)
  | start (turn : BeginTurn)
  | sendTurn (context : Option Nat)
  | interrupt (target : InterruptTarget)
  | endTurn (context : Nat)
  | close
  | forceShutdown
  deriving Repr, DecidableEq, Inhabited

namespace CodexCall

/-- The turn that a call begins. -/
def turn? : CodexCall → Option BeginTurn
  | .beginTurn turn | .start turn => some turn
  | .sendTurn _ | .interrupt _ | .endTurn _ | .close | .forceShutdown => none

/-- The call begins a turn. -/
def begins (call : CodexCall) : Bool := call.turn?.isSome

/-- The call ends a turn. -/
def ends : CodexCall → Bool
  | .endTurn _ | .close | .forceShutdown => true
  | .beginTurn _ | .start _ | .sendTurn _ | .interrupt _ => false

/-- The context that a caller passes. -/
def argument : CodexCall → Option Nat
  | .sendTurn context => context
  | .interrupt (.context context) => some context
  | .endTurn context => some context
  | .beginTurn _ | .start _ | .interrupt _ | .close | .forceShutdown => none

end CodexCall

/-- Where a call is suspended, or how it is over. -/
inductive CodexStage where
  /-- The coroutine has been created and has not run yet. -/
  | created
  /-- `await self._turn_lock.acquire()`. -/
  | acquiring
  /-- `await asyncio.create_subprocess_exec(...)`. -/
  | spawning
  /-- `await self._send(...)` of `initialize`. -/
  | initializing
  /-- `await self._read_response(initialize_id)`. -/
  | initialized
  /-- `await self._send(...)` of `thread/resume` or `thread/start`. -/
  | resuming
  /-- `await self._read_response(thread_request_id)`. -/
  | resumed
  /-- The wait for the process in the `except` block of `begin_turn`. -/
  | failing (process : Nat) (exception : Exc)
  /-- `await asyncio.wait_for(process.wait(), timeout=5)` of `end_turn`. -/
  | terminating (process : Nat)
  /-- `await process.wait()` after the process has been killed. -/
  | killing (process : Nat)
  /-- The wait for the process in `force_shutdown`. -/
  | shuttingDown (process : Nat)
  /-- `await self._send(...)` of `turn/start` or `turn/interrupt`. -/
  | sending
  /-- The stream of `send_turn`. -/
  | streaming
  | returned
  | raised (fault : Fault)
  deriving Repr, DecidableEq, Inhabited

/-- The call has returned or raised. -/
def CodexStage.isOver : CodexStage → Bool
  | .returned | .raised _ => true
  | .created | .acquiring | .spawning | .initializing | .initialized | .resuming | .resumed
  | .failing _ _ | .terminating _ | .killing _ | .shuttingDown _ | .sending | .streaming => false

/-- A call that is being served: `context` is its local variable of that name. -/
structure CodexTask where
  call : CodexCall
  context : Option Nat
  stage : CodexStage
  deriving Repr, DecidableEq, Inhabited

/-- What `create_subprocess_exec` does. -/
inductive Spawned where
  | started
  /-- It raises an `OSError`. -/
  | unavailable
  | failed (fault : Fault)
  deriving Repr, DecidableEq, Inhabited

/-- How the wait for a process ends. -/
inductive Waited where
  | exited
  | timedOut
  | cancelled
  deriving Repr, DecidableEq, Inhabited

/-- A text that is true as a condition. -/
def textGiven : Option String → Option String
  | some text => if text = "" then none else some text
  | none => none

/-- The provider and the calls that it serves. -/
structure Codex where
  turnLock : Option Nat
  activeContext : Option Nat
  legacyContext : Option Nat
  process : Option Nat
  threadId : Option String
  currentTurnId : Option String
  contexts : List CodexContext
  processes : Nat
  signals : List Nat
  tasks : List CodexTask

namespace Codex

/-- The provider as constructed. -/
def empty : Codex where
  turnLock := none
  activeContext := none
  legacyContext := none
  process := none
  threadId := none
  currentTurnId := none
  contexts := []
  processes := 0
  signals := []
  tasks := []

variable (codex : Codex)

/-- The context at a position. -/
def context (index : Nat) : CodexContext := codex.contexts.getD index default

def setContext (index : Nat) (context : CodexContext) : Codex :=
  { codex with contexts := codex.contexts.set index context }

/-- `process.terminate()` or `process.kill()`. -/
def signal (process : Nat) : Codex := { codex with signals := codex.signals ++ [process] }

/-- `if self._turn_lock.locked(): self._turn_lock.release()`. -/
def unlock : Codex := { codex with turnLock := none }

/-- A caller has got the context from `begin_turn`, or the provider has kept it for one. -/
def isGiven (context : Nat) : Bool :=
  codex.tasks.any fun task =>
    task.call.begins && task.context == some context && task.stage == .returned

/-! ### `begin_turn` -/

/-- The end of the `except` block. -/
def failed (context : Nat) (process : Option Nat) (exception : Exc) : Codex × CodexStage :=
  let forgotten := { codex with
    process := if codex.process = process then none else codex.process
    activeContext := if codex.activeContext = some context then none else codex.activeContext }
  (forgotten.unlock, .raised (.error exception))

/-- The `except` block, up to its await. -/
def fail (context : Nat) (exception : Exc) : Codex × CodexStage :=
  let cleared := codex.setContext context { codex.context context with process := none }
  match (codex.context context).process with
  | some process => (cleared.signal process, .failing process exception)
  | none => cleared.failed context none exception

/-- An exception leaves `begin_turn` by its `except` block, a cancellation does not. -/
def abort (context : Nat) : Fault → Codex × CodexStage
  | .error exception => codex.fail context exception
  | .cancelled => (codex, .raised .cancelled)

/-- The check of the process that `_send` and `_read_message` begin with. -/
def exchange (context : Nat) (stage : CodexStage) : Codex × CodexStage :=
  if codex.process.isNone then
    codex.fail context ⟨.runtimeError, "coding_agent_unavailable"⟩
  else (codex, stage)

/-- The lock has been acquired: a context is created. -/
def acquired : Codex :=
  { codex with
    turnLock := some codex.contexts.length
    contexts := codex.contexts ++ [{}] }

/-- The process has been started, or not. -/
def spawned (context : Nat) : Spawned → Codex × CodexStage
  | .started =>
      let started := { codex.setContext context
          { codex.context context with process := some codex.processes } with
        process := some codex.processes
        processes := codex.processes + 1 }
      started.exchange context .initializing
  | .unavailable => codex.fail context ⟨.runtimeError, "coding_agent_unavailable"⟩
  | .failed fault => codex.abort context fault

/-- The answer to `initialize`. -/
def initialized (context : Nat) : Except Fault Dict → Codex × CodexStage
  | .ok response =>
      match Dict.get response "error" |>.truthy, Dict.get response "result" with
      | false, .obj _ => codex.exchange context .resuming
      | _, _ => codex.fail context ⟨.runtimeError, "coding_agent_unavailable"⟩
  | .error fault => codex.abort context fault

/-- `str(thread.get("id") or result.get("threadId") or existing_thread_id or conversation_ref)`. -/
def threadIdOf (text : Json → String) (turn : BeginTurn) (result : Dict) : String :=
  let thread := match Dict.get result "thread" with
    | .obj thread => thread
    | _ => []
  match ((Dict.get thread "id").orElse (Dict.get result "threadId")).orElse
      ((Json.ofOption turn.existingThreadId).orElse (.str turn.conversationRef)) with
  | .str threadId => threadId
  | value => text value

/-- The answer to `thread/resume` or `thread/start`. -/
def resumed (text : Json → String) (turn : BeginTurn) (context : Nat) :
    Except Fault Dict → Codex × CodexStage
  | .ok response =>
      match Dict.get response "error" |>.truthy, Dict.get response "result" with
      | false, .obj result =>
          let threadId := threadIdOf text turn result
          let begun := codex.setContext context
            { codex.context context with threadId := some threadId }
          ({ begun with threadId := some threadId, activeContext := some context }, .returned)
      | _, _ =>
          if (textGiven turn.existingThreadId).isSome then
            codex.fail context ⟨.runtimeError, "codex_thread_unavailable"⟩
          else codex.fail context ⟨.runtimeError, "coding_agent_unavailable"⟩
  | .error (.error exception) =>
      if (textGiven turn.existingThreadId).isSome then
        codex.fail context ⟨.runtimeError, "codex_thread_unavailable"⟩
      else codex.fail context exception
  | .error .cancelled => (codex, .raised .cancelled)

/-! ### `end_turn`, `close` and `force_shutdown` -/

/-- `end_turn`, up to its first await.  The owner generations of one object are equal. -/
def endTurn (context : Nat) : Codex × CodexStage :=
  if codex.activeContext ≠ some context then (codex, .returned)
  else
    match (codex.context context).process with
    | some process => (codex.signal process, .terminating process)
    | none => ({ codex with activeContext := none }.unlock, .returned)

/-- The end of `end_turn` once the process is gone. -/
def ended (context : Nat) : Codex × CodexStage :=
  let cleared := codex.setContext context { codex.context context with process := none }
  ({ cleared with
      process := none
      threadId := none
      currentTurnId := none
      activeContext := none }.unlock, .returned)

/-- The wait of `end_turn` is over. -/
def terminated (context process : Nat) : Waited → Codex × CodexStage
  | .exited => codex.ended context
  | .timedOut => (codex.signal process, .killing process)
  | .cancelled => (codex.unlock, .raised .cancelled)

/-- The wait of `end_turn` after the kill is over. -/
def killed (context : Nat) : Waited → Codex × CodexStage
  | .exited | .timedOut => codex.ended context
  | .cancelled => (codex.unlock, .raised .cancelled)

/-- The context that `close` ends. -/
def closing : Option Nat := codex.legacyContext.or codex.activeContext

/-- `force_shutdown` without an active context, up to its await. -/
def forceShutdown : Codex × CodexStage :=
  match codex.process with
  | some process => (codex.signal process, .shuttingDown process)
  | none => (codex, .returned)

/-! ### `send_turn` and `interrupt` -/

/-- `send_turn`, up to its first await. -/
def sendTurn (argument : Option Nat) : Codex × CodexStage :=
  match argument with
  | some context =>
      if codex.activeContext ≠ some context then
        (codex, .raised (.error ⟨.runtimeError, "stale_turn_context"⟩))
      else
        send { codex with
          process := (codex.context context).process
          threadId := (codex.context context).threadId }
  | none => send codex
where
  send (codex : Codex) : Codex × CodexStage :=
    if codex.process.isNone then
      (codex, .raised (.error ⟨.runtimeError, "coding_agent_unavailable"⟩))
    else ({ codex with currentTurnId := none }, .sending)

/-- The stream takes note of the turn. -/
def noted (context : Option Nat) (turn : String) : Codex :=
  let known := { codex with currentTurnId := some turn }
  match context with
  | some context => known.setContext context { known.context context with turnId := some turn }
  | none => known

/-- `interrupt`, up to its await. -/
def interrupt (target : InterruptTarget) (context : Option Nat) : Codex × CodexStage :=
  if target.isContext ∧ codex.activeContext ≠ context then
    (codex, .raised (.error ⟨.runtimeError, "stale_turn_context"⟩))
  else
    let turn := match context, target with
      | some context, _ => (codex.context context).turnId
      | none, .turn turn => some turn
      | none, _ => none
    if codex.process.isSome ∧
        (textGiven ((textGiven turn).or codex.currentTurnId)).isSome then
      (codex, .sending)
    else (codex, .returned)

/-! ### Calls -/

/-- What `start` and `close` do once `begin_turn` or `end_turn` has returned to them. -/
def conclude (call : CodexCall) (context : Option Nat) (outcome : Codex × CodexStage) :
    Codex × CodexStage :=
  match call, outcome.2 with
  | .start _, .returned => ({ outcome.1 with legacyContext := context }, .returned)
  | .close, .returned =>
      if outcome.1.legacyContext = context then
        ({ outcome.1 with legacyContext := none }, .returned)
      else outcome
  | _, _ => outcome

/-- The call at a position goes on to a stage. -/
def settle (index : Nat) (task : CodexTask) (outcome : Codex × CodexStage) : Codex :=
  let concluded := conclude task.call task.context outcome
  { concluded.1 with
    tasks := concluded.1.tasks.set index { task with stage := concluded.2 } }

/-- A call arrives. -/
def arrive (call : CodexCall) : Codex :=
  { codex with
    tasks := codex.tasks ++ [{ call, context := call.argument, stage := .created }] }

/-- A call runs up to its first await. -/
def start (index : Nat) (task : CodexTask) : Codex :=
  match task.call with
  | .beginTurn _ | .start _ => settle index task (codex, .acquiring)
  | .sendTurn argument =>
      settle index { task with context := argument.or codex.activeContext }
        (codex.sendTurn argument)
  | .interrupt target =>
      let context := task.context.or codex.activeContext
      settle index { task with context } (codex.interrupt target context)
  | .endTurn context => settle index task (codex.endTurn context)
  | .close =>
      match codex.closing with
      | some context => settle index { task with context := some context } (codex.endTurn context)
      | none => settle index task (codex.unlock, .returned)
  | .forceShutdown =>
      match codex.activeContext with
      | some context => settle index { task with context := some context } (codex.endTurn context)
      | none => settle index task codex.forceShutdown

end Codex

/-- What lets a suspended call go on. -/
inductive CodexEvent where
  | acquireCancelled
  | spawned (answer : Spawned)
  | sent (answer : Except Fault Unit)
  | answered (answer : Except Fault Dict)
  | waited (answer : Waited)
  | noted (turn : String)
  | streamed (answer : Except Fault Unit)
  deriving Repr, Inhabited

namespace Codex

/-- How a call of `send_turn` or `interrupt` goes on from an await. -/
def stageAfter (next : CodexStage) : Except Fault Unit → CodexStage
  | .ok () => next
  | .error fault => .raised fault

/-- A call that begins a turn goes on. -/
def resumeBegin (codex : Codex) (text : Json → String) (turn : BeginTurn) (context : Nat)
    (stage : CodexStage) (event : CodexEvent) : Option (Codex × CodexStage) :=
  match stage, event with
  | .spawning, .spawned answer => some (codex.spawned context answer)
  | .initializing, .sent (.ok ()) => some (codex.exchange context .initialized)
  | .initializing, .sent (.error fault) => some (codex.abort context fault)
  | .initialized, .answered answer => some (codex.initialized context answer)
  | .resuming, .sent (.ok ()) =>
      if codex.process.isNone then
        some (codex.resumed text turn context
          (.error (.error ⟨.runtimeError, "coding_agent_unavailable"⟩)))
      else some (codex, .resumed)
  | .resuming, .sent (.error fault) => some (codex.abort context fault)
  | .resumed, .answered answer => some (codex.resumed text turn context answer)
  | .failing _ _, .waited .cancelled => some (codex, .raised .cancelled)
  | .failing process exception, .waited _ => some (codex.failed context (some process) exception)
  | _, _ => none

/-- A call that ends a turn goes on. -/
def resumeEnd (codex : Codex) (context : Nat) (stage : CodexStage) (event : CodexEvent) :
    Option (Codex × CodexStage) :=
  match stage, event with
  | .terminating process, .waited answer => some (codex.terminated context process answer)
  | .killing _, .waited answer => some (codex.killed context answer)
  | _, _ => none

/-- A call that belongs to no context, or to one whose turn it neither begins nor ends, goes on. -/
def resumeOther (codex : Codex) (task : CodexTask) (event : CodexEvent) :
    Option (Codex × CodexStage) :=
  match task.stage, event with
  | .acquiring, .acquireCancelled => some (codex, .raised .cancelled)
  | .shuttingDown _, .waited .cancelled => some (codex, .raised .cancelled)
  | .shuttingDown _, .waited _ => some ({ codex with process := none }, .returned)
  | .sending, .sent answer =>
      match task.call with
      | .sendTurn _ => some (codex, stageAfter .streaming answer)
      | _ => some (codex, stageAfter .returned answer)
  | .streaming, .noted turn => some (codex.noted task.context turn, .streaming)
  | .streaming, .streamed answer => some (codex, stageAfter .returned answer)
  | _, _ => none

/-- A suspended call goes on up to its next await. -/
def resume (codex : Codex) (text : Json → String) (task : CodexTask) (event : CodexEvent) :
    Option (Codex × CodexStage) :=
  match task.call.turn?, task.context with
  | some turn, some context => codex.resumeBegin text turn context task.stage event
  | none, some context =>
      if task.call.ends then codex.resumeEnd context task.stage event
      else codex.resumeOther task event
  | _, none => codex.resumeOther task event

end Codex

/-- A move of the provider. -/
inductive CodexMove where
  | arrives (call : CodexCall)
  | starts (index : Nat)
  | acquired (index : Nat)
  | resumes (index : Nat) (event : CodexEvent)
  deriving Repr, Inhabited

/-- The position of the call that makes the move. -/
def CodexMove.index? : CodexMove → Option Nat
  | .arrives _ => none
  | .starts index | .acquired index | .resumes index _ => some index

/-- What one move does; `none` where it cannot be made. -/
def CodexMove.step (text : Json → String) (move : CodexMove) (codex : Codex) : Option Codex :=
  match move with
  | .arrives call => if call.argument.all codex.isGiven then some (codex.arrive call) else none
  | .starts index =>
      match codex.tasks[index]? with
      | some task => if task.stage = .created then some (codex.start index task) else none
      | none => none
  | .acquired index =>
      match codex.tasks[index]? with
      | some task =>
          if task.stage = .acquiring ∧ codex.turnLock = none then
            some (Codex.settle index { task with context := some codex.contexts.length }
              (codex.acquired, .spawning))
          else none
      | none => none
  | .resumes index event =>
      match codex.tasks[index]? with
      | some task => (codex.resume text task event).map (Codex.settle index task)
      | none => none

end Loom
