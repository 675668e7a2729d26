import Loom.Contracts.Types
import Loom.Machine
import Mathlib.Logic.Function.Basic

/-!
# The turn coordinator of the Driver

`DriverTurnCoordinator` of `loom_v2/driver/coordinator.py`.  The coordinator runs in one event loop,
so that its methods and the workers of the conversations interleave at their awaits: a move of the
machine is what one of them does between two awaits.  A `_PendingTurn` is an object; it is
identified by its position in `turns`, which is the order in which turns are enqueued.

The machine lets any of several tasks that wait for a lock go on once the lock is free.  `shutdown`
cancels the workers: from then on each of their awaits may raise `CancelledError`.  `log` notes what
has happened to the turns; nothing reads it.
-/

namespace Loom

/-- Why an awaited call does not return: an exception, or `asyncio.CancelledError`. -/
inductive Fault where
  | error (exception : Exc)
  | cancelled
  deriving Repr, DecidableEq, Inhabited

/-- `asyncio.Future`. -/
inductive Future where
  | pending
  | result (value : Json)
  | exception (error : Exc)
  | cancelled
  deriving Repr, DecidableEq, Inhabited

/-- `future.done()`. -/
def Future.done : Future → Bool
  | .pending => false
  | .result _ | .exception _ | .cancelled => true

/-- Settle a future that is not done. -/
def Future.settle (future outcome : Future) : Future :=
  if future.done then future else outcome

/-- `_PendingTurn`. -/
structure PendingTurn where
  requestId : String
  conversationRef : String
  prompt : String
  claimToken : String
  future : Future := .pending
  cancelled : Bool := false
  deriving Repr, DecidableEq, Inhabited

/-- The fields of a `TurnContext` that the coordinator reads. -/
structure TurnContext where
  conversationRef : String
  requestId : String
  claimToken : String
  driverEpoch : Int
  interruptRequested : Bool := false
  deriving Repr, DecidableEq, Inhabited

/-- Where the worker of a conversation is suspended. -/
inductive WorkerStage where
  /-- The task has been created and has not run yet. -/
  | created
  /-- `async with self._lane`. -/
  | lane (turn : Nat)
  /-- `await begin_turn(...)`. -/
  | begins (turn : Nat)
  /-- `await self._execute(context, pending.prompt)`. -/
  | executes (turn : Nat)
  /-- `await end_turn(context)`; a `CancelledError` may be on its way out. -/
  | ends (turn : Nat) (raised : Bool)
  deriving Repr, DecidableEq, Inhabited

/-- How far a call of `submit` has come. -/
inductive SubmitStage where
  /-- `async with submit_lock`. -/
  | locking
  /-- `await self.control_client.claim_message(...)`, under the lock. -/
  | claiming (token : String)
  /-- `await asyncio.shield(future)`. -/
  | joined (turn : Nat)
  | returned (value : Json)
  | raised (fault : Fault)
  deriving Repr, DecidableEq, Inhabited

/-- What a submitter gets from the future that it waits for. -/
def Future.outcome? : Future → Option SubmitStage
  | .pending => none
  | .result value => some (.returned value)
  | .exception error => some (.raised (.error error))
  | .cancelled => some (.raised .cancelled)

/-- A call of `submit`. -/
structure Submitter where
  requestId : String
  conversationRef : String
  prompt : String
  stage : SubmitStage
  deriving Repr, DecidableEq, Inhabited

/-- The turn that a call of `submit` enqueues. -/
def Submitter.pendingTurn (call : Submitter) (claimToken : String) : PendingTurn :=
  { requestId := call.requestId, conversationRef := call.conversationRef, prompt := call.prompt
    claimToken }

/-- What `interrupt` answers about a turn. -/
inductive InterruptStatus where
  | interruptRequested
  | interrupted
  deriving Repr, DecidableEq, Inhabited

/-- How far a call of `interrupt` has come. -/
inductive InterruptStage where
  /-- It has selected a turn and awaits the provider or Observer. -/
  | selected
  | reported
  | raised (fault : Fault)
  deriving Repr, DecidableEq, Inhabited

/-- A call of `interrupt`: the request id and the status that it reports once it returns. -/
structure Interrupter where
  conversationRef : String
  requestId : String
  status : InterruptStatus
  stage : InterruptStage
  deriving Repr, DecidableEq, Inhabited

/-- What happens to a turn. -/
inductive TurnEvent where
  | started (turn : Nat)
  | succeeded (turn : Nat)
  | interrupted (turn : Nat)
  deriving Repr, DecidableEq, Inhabited

/-- How the coordinator was constructed, and `str` of values that are not strings. -/
structure CoordinatorSetup where
  /-- `control_client is not None`. -/
  controlled : Bool
  /-- `manage_provider_context`, and the provider has `begin_turn`. -/
  managed : Bool
  /-- The provider has `interrupt`. -/
  canInterrupt : Bool
  /-- The provider has `end_turn`. -/
  canEnd : Bool
  text : Json → String

/-- The coordinator, its workers and the calls that are being served. -/
structure Coordinator where
  driverEpoch : Int
  laneHeld : Bool
  queues : String → List Nat
  workers : String → Option WorkerStage
  active : String → Option TurnContext
  waiting : String → Option Nat
  pendingByRequest : String → Option Nat
  submitLocks : List String
  completed : String → Option Json
  isShutdown : Bool
  turns : List PendingTurn
  submitters : List Submitter
  interrupters : List Interrupter
  log : List TurnEvent

namespace Coordinator

/-- The coordinator as constructed. -/
def empty (driverEpoch : Int) : Coordinator where
  driverEpoch := driverEpoch
  laneHeld := false
  queues := fun _ => []
  workers := fun _ => none
  active := fun _ => none
  waiting := fun _ => none
  pendingByRequest := fun _ => none
  submitLocks := []
  completed := fun _ => none
  isShutdown := false
  turns := []
  submitters := []
  interrupters := []
  log := []

variable (coordinator : Coordinator)

/-- The turn at a position. -/
def turn (index : Nat) : PendingTurn := coordinator.turns.getD index default

/-- Settle the future of a turn, unless it is done. -/
def settle (index : Nat) (outcome : Future) : Coordinator :=
  { coordinator with
    turns := coordinator.turns.modify index fun turn =>
      { turn with future := turn.future.settle outcome } }

def setWorker (conversation : String) (stage : Option WorkerStage) : Coordinator :=
  { coordinator with workers := Function.update coordinator.workers conversation stage }

/-- `self._pending_by_request.pop(request_id, None)`. -/
def popRequest (requestId : String) : Coordinator :=
  { coordinator with
    pendingByRequest := Function.update coordinator.pendingByRequest requestId none }

/-- `self._waiting.pop(conversation_ref, None)`. -/
def popWaiting (conversation : String) : Coordinator :=
  { coordinator with waiting := Function.update coordinator.waiting conversation none }

/-! ### Workers -/

/-- The head of the loop of `_conversation_worker`, up to the lane or the end of the worker. -/
def nextTurn (conversation : String) : Coordinator :=
  if coordinator.isShutdown then coordinator.setWorker conversation none
  else
    match coordinator.queues conversation with
    | [] => coordinator.setWorker conversation none
    | turn :: rest =>
        { coordinator with
          queues := Function.update coordinator.queues conversation rest
          waiting := Function.update coordinator.waiting conversation (some turn)
          workers := Function.update coordinator.workers conversation (some (.lane turn)) }

/-- The end of the inner `finally`, and the release of the lane. -/
def release (conversation : String) (turn : Nat) : Coordinator :=
  let popped := coordinator.popRequest (coordinator.turn turn).requestId
  let cleared :=
    if popped.waiting conversation = some turn then popped.popWaiting conversation else popped
  { cleared with laneHeld := false }

/-- The way out of a turn: on with the loop, or out of the worker with a `CancelledError`. -/
def leave (conversation : String) (raised : Bool) : Coordinator :=
  if raised then coordinator.setWorker conversation none else coordinator.nextTurn conversation

/-- The inner `finally` of a turn that has a context. -/
def close (setup : CoordinatorSetup) (conversation : String) (turn : Nat) (raised : Bool) :
    Coordinator :=
  let inactive :=
    { coordinator with active := Function.update coordinator.active conversation none }
  if setup.canEnd then inactive.setWorker conversation (some (.ends turn raised))
  else (inactive.release conversation turn).leave conversation raised

/-- A turn whose context exists is taken from `_waiting`, becomes active and is executed. -/
def activate (conversation : String) (turn : Nat) : Coordinator :=
  let pending := coordinator.turn turn
  { coordinator with
    waiting := Function.update coordinator.waiting conversation none
    active := Function.update coordinator.active conversation
      (some { conversationRef := pending.conversationRef, requestId := pending.requestId
              claimToken := pending.claimToken, driverEpoch := coordinator.driverEpoch })
    workers := Function.update coordinator.workers conversation (some (.executes turn))
    log := coordinator.log ++ [TurnEvent.started turn] }

/-- The lane has been acquired for a turn. -/
def enterLane (setup : CoordinatorSetup) (conversation : String) (turn : Nat) : Coordinator :=
  let entered := { coordinator with laneHeld := true }
  if (coordinator.turn turn).cancelled then
    (entered.release conversation turn).leave conversation false
  else if setup.managed then entered.setWorker conversation (some (.begins turn))
  else entered.activate conversation turn

/-- `begin_turn` has returned or raised. -/
def afterBegin (conversation : String) (turn : Nat) : Except Fault Unit → Coordinator
  | .ok () => coordinator.activate conversation turn
  | .error (.error exception) =>
      ((coordinator.settle turn (.exception exception)).release conversation turn).leave
        conversation false
  | .error .cancelled =>
      ((coordinator.settle turn .cancelled).release conversation turn).leave conversation true

/-- The executor has returned or raised. -/
def afterExecute (setup : CoordinatorSetup) (conversation : String) (turn : Nat) :
    Except Fault Json → Coordinator
  | .ok result =>
      let done := { coordinator with
        completed := Function.update coordinator.completed (coordinator.turn turn).requestId
          (some result)
        log := coordinator.log ++ [TurnEvent.succeeded turn] }
      (done.settle turn (.result result)).close setup conversation turn false
  | .error (.error exception) =>
      (coordinator.settle turn (.exception exception)).close setup conversation turn false
  | .error .cancelled =>
      (coordinator.settle turn .cancelled).close setup conversation turn true

/-- `end_turn` has returned or raised.  A `CancelledError` is not caught there. -/
def afterEnd (conversation : String) (turn : Nat) (raised : Bool) :
    Except Fault Unit → Coordinator
  | .ok () => (coordinator.release conversation turn).leave conversation raised
  | .error (.error _) => (coordinator.release conversation turn).leave conversation raised
  | .error .cancelled => { coordinator with laneHeld := false }.setWorker conversation none

/-! ### Submitting -/

def setSubmitter (index : Nat) (stage : SubmitStage) : Coordinator :=
  { coordinator with
    submitters := coordinator.submitters.modify index fun call => { call with stage } }

def unlock (requestId : String) : Coordinator :=
  { coordinator with submitLocks := coordinator.submitLocks.erase requestId }

/-- Enqueue a new turn, see that its conversation has a worker, and wait for the turn. -/
def enqueue (index : Nat) (call : Submitter) (claimToken : String) : Coordinator :=
  let turn := coordinator.turns.length
  let added := { coordinator with
    turns := coordinator.turns ++ [call.pendingTurn claimToken]
    pendingByRequest := Function.update coordinator.pendingByRequest call.requestId (some turn)
    queues := Function.update coordinator.queues call.conversationRef
      (coordinator.queues call.conversationRef ++ [turn]) }
  let served :=
    if (added.workers call.conversationRef).isNone then
      added.setWorker call.conversationRef (some .created)
    else added
  (served.unlock call.requestId).setSubmitter index (.joined turn)

/-- The part of `submit` where no result is cached: join the turn of the request, claim it or
enqueue it. -/
def afterCache (setup : CoordinatorSetup) (index : Nat) (call : Submitter) (token : String) :
    Coordinator :=
  match coordinator.pendingByRequest call.requestId with
  | some turn => (coordinator.unlock call.requestId).setSubmitter index (.joined turn)
  | none =>
      if setup.controlled then coordinator.setSubmitter index (.claiming token)
      else coordinator.enqueue index call token

/-- The part of `submit` under its lock, up to the claim. -/
def checkIn (setup : CoordinatorSetup) (index : Nat) (call : Submitter) (token : String) :
    Coordinator :=
  let entered := { coordinator with submitLocks := call.requestId :: coordinator.submitLocks }
  match coordinator.completed call.requestId with
  | some value =>
      if value = .null then entered.afterCache setup index call token
      else (entered.unlock call.requestId).setSubmitter index (.returned value)
  | none => entered.afterCache setup index call token

/-- `claim_message` has returned or raised. -/
def afterClaim (setup : CoordinatorSetup) (index : Nat) (call : Submitter) (token : String) :
    Except Fault Dict → Coordinator
  | .error fault => (coordinator.unlock call.requestId).setSubmitter index (.raised fault)
  | .ok claim =>
      let state := Dict.get claim "state"
      if state = .str "completed" ∨ state = .str "failed" ∨ state = .str "interrupted" then
        let cached := { coordinator with
          completed := Function.update coordinator.completed call.requestId (some (.obj claim)) }
        (cached.unlock call.requestId).setSubmitter index (.returned (.obj claim))
      else if state = .str "in_flight" ∧ Dict.get claim "claim_token" ≠ .str token then
        (coordinator.unlock call.requestId).setSubmitter index (.returned (.obj claim))
      else
        let given := Dict.get claim "claim_token"
        coordinator.enqueue index call
          (if given.truthy then
            match given with
            | .str text => text
            | value => setup.text value
          else token)

/-! ### Interrupting -/

/-- The result that an interrupted turn gets. -/
def interruptedResult (pending : PendingTurn) (conversation : String) : Json :=
  .obj [("conversation_ref", .str conversation), ("request_id", .str pending.requestId),
    ("status", .str "interrupted")]

def addInterrupter (call : Interrupter) : Coordinator :=
  { coordinator with interrupters := coordinator.interrupters ++ [call] }

/-- `_interrupt_pending`, up to the update of the receipt. -/
def interruptPending (setup : CoordinatorSetup) (conversation : String) (turn : Nat) :
    Coordinator :=
  let pending := coordinator.turn turn
  let settled := (coordinator.settle turn
    (.result (interruptedResult pending conversation))).popRequest pending.requestId
  let logged := { settled with log := settled.log ++ [TurnEvent.interrupted turn] }
  logged.addInterrupter
    { conversationRef := conversation, requestId := pending.requestId, status := .interrupted
      stage := if setup.controlled then .selected else .reported }

/-- `interrupt`, up to its first await. -/
def interrupt (setup : CoordinatorSetup) (conversation : String) : Coordinator :=
  match coordinator.active conversation with
  | some context =>
      let call : Interrupter :=
        { conversationRef := conversation, requestId := context.requestId
          status := .interruptRequested
          stage := if setup.canInterrupt then .selected else .reported }
      if context.driverEpoch ≠ coordinator.driverEpoch then
        coordinator.addInterrupter
          { call with stage := .raised (.error ⟨.runtimeError, "stale_driver_epoch"⟩) }
      else
        let requested := { coordinator with
          active := Function.update coordinator.active conversation
            (some { context with interruptRequested := true }) }
        requested.addInterrupter call
  | none =>
      match coordinator.queues conversation with
      | turn :: rest =>
          let popped := { coordinator with
            queues := Function.update coordinator.queues conversation rest }
          popped.interruptPending setup conversation turn
      | [] =>
          match coordinator.waiting conversation with
          | some turn =>
              let cancelled := { coordinator with
                turns := coordinator.turns.modify turn fun pending =>
                  { pending with cancelled := true }
                waiting := Function.update coordinator.waiting conversation none }
              cancelled.interruptPending setup conversation turn
          | none =>
              coordinator.addInterrupter
                { conversationRef := conversation, requestId := "", status := .interrupted
                  stage := .raised (.error (.valueError "conversation_not_active")) }

/-- The provider or Observer has answered an interrupt.  `_interrupt_pending` ignores exceptions of
Observer, an exception of the provider is raised. -/
def afterInterrupt (index : Nat) (call : Interrupter) : Except Fault Unit → Coordinator
  | .ok () => settled .reported
  | .error (.error exception) =>
      settled (if call.status = .interrupted then .reported else .raised (.error exception))
  | .error .cancelled => settled (.raised .cancelled)
where
  settled (stage : InterruptStage) : Coordinator :=
    { coordinator with
      interrupters := coordinator.interrupters.modify index fun call => { call with stage } }

end Coordinator

/-- A move of the coordinator. -/
inductive CoordinatorMove where
  | submit (requestId conversationRef prompt : String)
  | checkIn (index : Nat) (token : String)
  | claimed (index : Nat) (answer : Except Fault Dict)
  | resolved (index : Nat)
  | workerStarts (conversation : String)
  | laneAcquired (conversation : String)
  | begun (conversation : String) (answer : Except Fault Unit)
  | executed (conversation : String) (answer : Except Fault Json)
  | ended (conversation : String) (answer : Except Fault Unit)
  | workerCancelled (conversation : String)
  | interrupt (conversation : String)
  | interruptAnswered (index : Nat) (answer : Except Fault Unit)
  | newEpoch (epoch : Int)
  | shutdown

/-- What one move does; `none` where it cannot be made. -/
def CoordinatorMove.step (setup : CoordinatorSetup) (move : CoordinatorMove)
    (coordinator : Coordinator) : Option Coordinator :=
  match move with
  | .submit requestId conversationRef prompt => some
      { coordinator with
        submitters := coordinator.submitters ++
          [{ requestId, conversationRef, prompt, stage := .locking }] }
  | .checkIn index token =>
      match coordinator.submitters[index]? with
      | some call =>
          if call.stage = .locking ∧ call.requestId ∉ coordinator.submitLocks then
            some (coordinator.checkIn setup index call token)
          else none
      | none => none
  | .claimed index answer =>
      match coordinator.submitters[index]? with
      | some call =>
          match call.stage with
          | .claiming token => some (coordinator.afterClaim setup index call token answer)
          | _ => none
      | none => none
  | .resolved index =>
      match coordinator.submitters[index]? with
      | some call =>
          match call.stage with
          | .joined turn =>
              (coordinator.turn turn).future.outcome?.map fun stage =>
                coordinator.setSubmitter index stage
          | _ => none
      | none => none
  | .workerStarts conversation =>
      match coordinator.workers conversation with
      | some .created => some (coordinator.nextTurn conversation)
      | _ => none
  | .laneAcquired conversation =>
      match coordinator.workers conversation with
      | some (.lane turn) =>
          if coordinator.laneHeld then none
          else some (coordinator.enterLane setup conversation turn)
      | _ => none
  | .begun conversation answer =>
      match coordinator.workers conversation with
      | some (.begins turn) => some (coordinator.afterBegin conversation turn answer)
      | _ => none
  | .executed conversation answer =>
      match coordinator.workers conversation with
      | some (.executes turn) => some (coordinator.afterExecute setup conversation turn answer)
      | _ => none
  | .ended conversation answer =>
      match coordinator.workers conversation with
      | some (.ends turn raised) => some (coordinator.afterEnd conversation turn raised answer)
      | _ => none
  | .workerCancelled conversation =>
      match coordinator.workers conversation with
      | some .created | some (.lane _) =>
          if coordinator.isShutdown then some (coordinator.setWorker conversation none) else none
      | _ => none
  | .interrupt conversation => some (coordinator.interrupt setup conversation)
  | .interruptAnswered index answer =>
      match coordinator.interrupters[index]? with
      | some call =>
          if call.stage = .selected then some (coordinator.afterInterrupt index call answer)
          else none
      | none => none
  | .newEpoch epoch => some { coordinator with driverEpoch := epoch }
  | .shutdown => some { coordinator with isShutdown := true }

end Loom
