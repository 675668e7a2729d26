import Loom.Driver.CodexMessages
import Loom.Driver.Framing

/-!
# The stream of a Codex turn

`send_turn` of `loom_v2/coding_agents/codex.py` once `turn/start` has been sent: the reader task,
the poll task, the loop that turns messages of the app-server into events, and the cleanup.  The
consumer, the reader, the poll task and the clock interleave at the awaits and yields: a move of the
machine is what one of them does between two of these.

The reader gets the output in chunks, so `_read_buffer` can hold more lines than the one it returns:
`readBuffer` is what `_read_message` makes of them, one after the other.

While the stream runs, no other call changes the fields of the provider that it uses.  `delivered`,
`handled`, `ending`, `left` and `answers` note what has happened; nothing reads them.
-/

namespace Loom

namespace CodexTurn

/-! ### The generator and its tasks -/

/-- `read_task`. -/
inductive Reader where
  | reading
  | message (message : Dict)
  | failed (error : Exc)
  | cancelling
  | cancelled
  deriving Repr, DecidableEq

/-- `read_task.done()`. -/
def Reader.done : Reader → Bool
  | .reading | .cancelling => false
  | .message _ | .failed _ | .cancelled => true

/-- Where the poll task is suspended. -/
inductive Poll where
  /-- `await asyncio.sleep(interval)`. -/
  | sleeping
  /-- `await self._send(...)` of a request, with the methods still to be looked at. -/
  | sending (request : PollRequest) (rest : List PollMethod)
  | cancelling
  | finished
  deriving Repr, DecidableEq

/-- Why the generator is left. -/
inductive Leave where
  /-- By `break`. -/
  | finished
  | raised (fault : Fault)
  /-- The consumer closes it. -/
  | closed
  deriving Repr, DecidableEq

/-- Where the generator is suspended, or how it has ended. -/
inductive Stage where
  /-- `await asyncio.wait({read_task, health_task}, ...)`. -/
  | waiting
  /-- `await self._handle_dynamic_tool_call(message)`. -/
  | calling (message : Dict) (rest : List Emit)
  /-- `yield`, with what is to be yielded after it. -/
  | yielding (rest : List Emit) (course : Course)
  /-- `await read_task` after the health task has found a failure. -/
  | stalling
  /-- `await read_task` of the cleanup. -/
  | closing (leave : Leave)
  /-- `await self._poll_task` of the cleanup. -/
  | stopping (leave : Leave)
  | ended (leave : Leave)
  deriving Repr, DecidableEq

/-- What ends the turn without a message. -/
inductive Ending where
  | failure (error : Exc)
  | stall
  deriving Repr, DecidableEq

/-- A message that the loop has taken, with the fields and the time that it was taken at. -/
structure Handled where
  protocol : Protocol
  now : ℚ
  message : Dict
  deriving Repr, DecidableEq

/-- One run of `send_turn`. -/
structure Turn where
  clock : ℚ
  turnRequestId : Nat
  protocol : Protocol
  reader : Reader
  /-- The complete lines of `_read_buffer`. -/
  readBuffer : List (Except Exc Dict)
  poll : Poll
  stage : Stage
  yielded : List AgentEvent
  delivered : List Dict
  handled : List Handled
  ending : Option Ending
  left : Option Leave
  answers : List Json
  deriving Repr, DecidableEq

/-- The turn when `turn/start` has been sent; the calls before it may have left lines behind. -/
def start (now : ℚ) (threadId : Option String) (turnRequestId : Nat)
    (readBuffer : List (Except Exc Dict)) : Turn where
  clock := now
  turnRequestId := turnRequestId
  protocol :=
    { threadId
      currentTurnId := none
      requestId := turnRequestId
      pollRequests := []
      lastProtocolHeartbeatAt := now
      pollFailureStartedAt := none
      protocolFailureReason := none
      protocolFailureEvent := false
      protocolFailureReported := false }
  reader := .reading
  readBuffer := readBuffer
  poll := .sleeping
  stage := .waiting
  yielded := []
  delivered := []
  handled := []
  ending := none
  left := none
  answers := []

/-- The event of a failed read. -/
def readFailure (error : Exc) : Emit :=
  emit "agent_error" [("code", .str "coding_agent_protocol_error"),
    ("source", .str "protocol_health"), ("message", .str (clip 1024 error.text))]

namespace Turn

section Steps

variable (setup : Setup) (now : ℚ) (turn : Turn)

/-- The generator goes to its `finally` block. -/
def leave (why : Leave) : Turn :=
  { turn with
    reader := if turn.reader = .reading then .cancelling else turn.reader
    left := some why
    stage := .closing why }

/-- Yield something. -/
def yields (next : Emit) (rest : List Emit) (course : Course) : Turn :=
  match next with
  | .event event =>
      { turn with
        yielded := turn.yielded ++ [event]
        stage := .yielding rest course }
  | .stalled =>
      { turn with
        protocol := { turn.protocol with protocolFailureReported := true }
        yielded := turn.yielded ++ [⟨"agent_stalled", .obj (turn.protocol.failurePayload now)⟩]
        stage := .yielding rest course }

/-- Go on with what is left to be yielded, and then with the loop or out of it. -/
def proceed (rest : List Emit) (course : Course) : Turn :=
  match rest, course with
  | next :: rest, course => turn.yields now next rest course
  | [], .goesOn => { turn with stage := .waiting }
  | [], .leaves => turn.leave .finished

/-- The loop takes a message; the reader is started for the next one. -/
def take (message : Dict) : Turn :=
  let reacted := react setup now turn.protocol turn.turnRequestId message
  let taken : Turn :=
    { turn with
      protocol := reacted.1
      reader := .reading
      handled := turn.handled ++ [{ protocol := turn.protocol, now, message }] }
  match reacted.2 with
  | .error error => taken.leave (.raised (.error error))
  | .ok reaction =>
      if reaction.calls then { taken with stage := .calling message reaction.emits }
      else taken.proceed now reaction.emits reaction.course

/-- `_read_message` may end with this result and leave these lines: it takes the first line of the
buffer, and more of the output only where there is none. A line that is too long is not removed. -/
def reads (result : Except Exc Dict) (behind : List (Except Exc Dict)) : Bool :=
  match turn.readBuffer with
  | [] => true
  | line :: lines =>
      decide (line = result) &&
        (decide (behind = lines) ||
          decide (result = .error Framing.tooLarge) && decide (behind = line :: lines))

/-- The loop goes on because the reader is done or the protocol has failed.  The reader is started
before the wait, so it is done where the buffer has a line. -/
def wake : Option Turn :=
  match turn.reader with
  | .message message => some (turn.take setup now message)
  | .failed error =>
      some ({ turn with ending := some (.failure error) }.yields now (readFailure error) [] .leaves)
  | .reading =>
      if turn.readBuffer = [] ∧ turn.protocol.protocolFailureEvent = true then
        some { turn with reader := .cancelling, stage := .stalling, ending := some .stall }
      else none
  | .cancelling | .cancelled => none

/-- The tool call has been answered, or not. -/
def called (message : Dict) (rest : List Emit) : Except Fault Unit → Turn
  | .ok () =>
      { turn with answers := turn.answers ++ [Dict.get message "id"] }.proceed now rest .goesOn
  | .error fault => turn.leave (.raised fault)

/-- The end of the first `await` of the cleanup: a failed read is raised again there. -/
def settle (why : Leave) : Option Turn :=
  match turn.reader with
  | .failed error => some { turn with stage := .ended (.raised (.error error)) }
  | .message _ | .cancelled =>
      some { turn with
        poll := .cancelling
        stage := .stopping why }
  | .reading | .cancelling => none

/-- The poll task looks at its methods: the first that has no request is asked for. -/
def ask (sentAt : ℚ) : List PollMethod → Turn
  | [] => { turn with poll := .sleeping }
  | method :: rest =>
      if turn.protocol.isPolling method then ask sentAt rest
      else
        let request : PollRequest :=
          { id := turn.protocol.requestId + 1, method, sentAt }
        { turn with
          protocol := { turn.protocol with
            requestId := turn.protocol.requestId + 1
            pollRequests := turn.protocol.pollRequests ++ [request] }
          poll := .sending request rest }

/-- The requests that have waited too long are marked. -/
def expire : Protocol :=
  turn.protocol.pollRequests.foldl (fun protocol request =>
    if max 0 setup.protocolFailureSeconds ≤ now - request.sentAt then
      protocol.failure setup now request.method.name "app-server poll response timed out"
    else protocol) turn.protocol

/-- The poll task wakes up. -/
def pollWakes (hasProcess : Bool) : Turn :=
  if hasProcess && (turn.protocol.threadId.getD "") ≠ "" then
    { turn with protocol := turn.expire setup now }.ask now [.threadRead, .threadGoalGet]
  else turn

/-- A poll request has been sent, or not. -/
def pollSent (request : PollRequest) (rest : List PollMethod) : Except Exc Unit → Turn
  | .ok () => turn.ask request.sentAt rest
  | .error error =>
      { turn with
        protocol := (turn.protocol.pop request.id).failure setup now request.method.name
          error.text }.ask request.sentAt rest

end Steps

end Turn

/-- What the consumer, the tasks and the app-server do. -/
inductive Action where
  | read (result : Except Exc Dict) (behind : List (Except Exc Dict))
  | wakes
  | toolCalled (answer : Except Fault Unit)
  | next
  | close
  | cancel
  | readerStops
  | stallResumes
  | settles
  | pollStops
  | pollWakes (hasProcess : Bool)
  | pollSent (answer : Except Exc Unit)
  deriving Repr

/-- An action and the time of the clock. -/
structure Move where
  now : ℚ
  action : Action
  deriving Repr

/-- What an action does; `none` where it cannot be done. -/
def Action.step (setup : Setup) (now : ℚ) (action : Action) (turn : Turn) : Option Turn :=
  match action with
  | .read (.ok message) behind =>
      if turn.reader = .reading ∧ turn.reads (.ok message) behind = true then
        some { turn with
          reader := .message message
          readBuffer := behind
          delivered := turn.delivered ++ [message] }
      else none
  | .read (.error error) behind =>
      if turn.reader = .reading ∧ turn.reads (.error error) behind = true then
        some { turn with
          reader := .failed error
          readBuffer := behind }
      else none
  | .wakes => if turn.stage = .waiting then turn.wake setup now else none
  | .toolCalled answer =>
      match turn.stage with
      | .calling message rest => some (turn.called now message rest answer)
      | _ => none
  | .next =>
      match turn.stage with
      | .yielding rest course => some (turn.proceed now rest course)
      | _ => none
  | .close =>
      match turn.stage with
      | .yielding _ _ => some (turn.leave .closed)
      | _ => none
  | .cancel =>
      if turn.stage = .waiting then some (turn.leave (.raised .cancelled)) else none
  | .readerStops =>
      if turn.reader = .cancelling then some { turn with reader := .cancelled } else none
  | .stallResumes =>
      if turn.stage = .stalling ∧ turn.reader = .cancelled then
        some (turn.yields now .stalled [] .leaves)
      else none
  | .settles =>
      match turn.stage with
      | .closing why => turn.settle why
      | _ => none
  | .pollStops =>
      match turn.poll, turn.stage with
      | .cancelling, .stopping why =>
          some { turn with
            poll := .finished
            protocol := { turn.protocol with pollRequests := [] }
            stage := .ended why }
      | _, _ => none
  | .pollWakes hasProcess =>
      if turn.poll = .sleeping then some (turn.pollWakes setup now hasProcess) else none
  | .pollSent answer =>
      match turn.poll with
      | .sending request rest => some (turn.pollSent setup now request rest answer)
      | _ => none

/-- What one move does; `none` where it cannot be made.  The clock is monotone. -/
def Move.step (setup : Setup) (move : Move) (turn : Turn) : Option Turn :=
  if turn.clock ≤ move.now then
    (move.action.step setup move.now turn).map fun after => { after with clock := move.now }
  else none

end CodexTurn

end Loom
