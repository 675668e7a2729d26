import Loom.Driver.Codex
import Loom.Driver.CodexTurn

/-!
# A session with the Codex app-server

The requests of `begin_turn`, `read_thread` and `send_turn` of `loom_v2/coding_agents/codex.py` on
one stream of messages: `_read_response` reads until a message bears the id of its request, and the
loop of `send_turn` routes the messages of its turn.  A call is over before the next one begins.

A request that cannot be sent fails as a read does, and a call may find any lines in `_read_buffer`.
`answered` notes the responses that `_read_response` has taken; nothing reads it.
-/

namespace Loom

namespace CodexTurn

/-- What a request that `_read_response` waits for asks for: `initialize`, `thread/start` or
`thread/resume`, or `thread/read`. -/
inductive Purpose where
  | handshake (turn : BeginTurn)
  | thread (turn : BeginTurn)
  | read
  deriving Repr, DecidableEq

/-- Where the session is. -/
inductive Phase where
  /-- There is no process. -/
  | idle
  /-- `_read_response(id)` has read these messages. -/
  | awaiting (purpose : Purpose) (id : Nat) (read : List Dict)
  | ready
  /-- `send_turn` is running. -/
  | streaming (turn : Turn)
  deriving Repr, DecidableEq

/-- A response that `_read_response` has taken, as the last of the messages that it has read. -/
structure Answered where
  id : Nat
  read : List Dict
  response : Dict
  deriving Repr, DecidableEq

/-- The provider, while one caller uses it. -/
structure Session where
  requestId : Nat
  threadId : String
  phase : Phase
  answered : List Answered
  outcome : Option (Except Exc Json)
  deriving Repr, DecidableEq

namespace Session

section Calls

variable (setup : Setup) (session : Session)

/-- `await self._send({"id": self._next_id(), ...})`, and `_read_response` of its id. -/
def request (purpose : Purpose) : Session :=
  { session with
    requestId := session.requestId + 1
    phase := .awaiting purpose (session.requestId + 1) [] }

/-- The exception of a thread that cannot be started or resumed. -/
def threadUnavailable (turn : BeginTurn) : Exc :=
  if (turn.existingThreadId.getD "") ≠ "" then ⟨.runtimeError, "codex_thread_unavailable"⟩
  else ⟨.runtimeError, "coding_agent_unavailable"⟩

/-- `_read_response` raises. -/
def raises (purpose : Purpose) (error : Exc) : Session :=
  match purpose with
  | .handshake _ => { session with phase := .idle, outcome := some (.error error) }
  | .thread turn =>
      let raised := if (turn.existingThreadId.getD "") ≠ "" then threadUnavailable turn else error
      { session with phase := .idle, outcome := some (.error raised) }
  | .read => { session with phase := .ready, outcome := some (.error error) }

/-- The thread that `thread/start` or `thread/resume` has answered with. -/
def threadOf (turn : BeginTurn) (result : Dict) : String :=
  let thread := match Dict.get result "thread" with
    | .obj entries => entries
    | _ => []
  setup.str ((((Dict.get thread "id").orElse (Dict.get result "threadId")).orElse
    (.ofOption turn.existingThreadId)).orElse (.str turn.conversationRef))

/-- What the caller of `_read_response` makes of a response without an error. -/
def responds (purpose : Purpose) (response : Dict) : Session :=
  match purpose, Dict.get response "result" with
  | .handshake turn, .obj _ => session.request (.thread turn)
  | .handshake _, _ =>
      { session with
        phase := .idle
        outcome := some (.error ⟨.runtimeError, "coding_agent_unavailable"⟩) }
  | .thread turn, .obj result =>
      { session with
        threadId := threadOf setup turn result
        phase := .ready
        outcome := none }
  | .thread turn, _ =>
      { session with
        phase := .idle
        outcome := some (.error (threadUnavailable turn)) }
  | .read, .obj result => { session with phase := .ready, outcome := some (.ok (.obj result)) }
  | .read, _ =>
      { session with
        phase := .ready
        outcome := some (.error ⟨.runtimeError, "codex_thread_unavailable"⟩) }

/-- `_read_response` reads a message: any message that bears the id is the response. -/
def reads (purpose : Purpose) (id : Nat) (read : List Dict) (message : Dict) : Session :=
  if bears message id then
    let taken : Session :=
      { session with
        answered := session.answered ++ [{ id, read := read ++ [message], response := message }] }
    if Dict.has message "error" then
      taken.raises purpose ⟨.runtimeError, "coding_agent_protocol_error"⟩
    else taken.responds setup purpose message
  else { session with phase := .awaiting purpose id (read ++ [message]) }

/-- `_next_id()` of a request that nothing waits for. -/
def spends : Session :=
  match session.phase with
  | .streaming turn =>
      { session with
        phase := .streaming { turn with
          protocol := { turn.protocol with requestId := turn.protocol.requestId + 1 } } }
  | .idle | .awaiting _ _ _ | .ready => { session with requestId := session.requestId + 1 }

end Calls

end Session

/-- What the caller, the app-server and the tasks of a turn do. -/
inductive Call where
  | begin (turn : BeginTurn)
  | read (result : Except Exc Dict)
  | readThread
  | sendTurn (now : ℚ) (readBuffer : List (Except Exc Dict))
  | stream (move : Move)
  | streamEnds
  | interrupt
  | endTurn
  deriving Repr

/-- What a call does; `none` where it cannot be made. -/
def Call.step (setup : Setup) (call : Call) (session : Session) : Option Session :=
  match call, session.phase with
  | .begin turn, .idle => some (session.request (.handshake turn))
  | .read (.ok message), .awaiting purpose id seen =>
      some (session.reads setup purpose id seen message)
  | .read (.error error), .awaiting purpose _ _ => some (session.raises purpose error)
  | .readThread, .ready =>
      if session.threadId = "" then
        some { session with
          outcome := some (.error ⟨.runtimeError, "coding_agent_unavailable"⟩) }
      else some (session.request .read)
  | .sendTurn now readBuffer, .ready =>
      some { session with
        requestId := session.requestId + 1
        phase :=
          .streaming (start now (some session.threadId) (session.requestId + 1) readBuffer) }
  | .stream move, .streaming turn =>
      (move.step setup turn).map fun after => { session with phase := .streaming after }
  | .streamEnds, .streaming turn =>
      match turn.stage with
      | .ended _ =>
          some { session with
            requestId := turn.protocol.requestId
            phase := .ready
            outcome := none }
      | _ => none
  | .interrupt, _ => some session.spends
  | .endTurn, .ready => some { session with phase := .idle, outcome := none }
  | _, _ => none

end CodexTurn

end Loom
