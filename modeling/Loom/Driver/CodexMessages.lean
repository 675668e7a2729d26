import Loom.Driver.Coordinator
import Mathlib.Algebra.Order.Ring.Unbundled.Rat

/-!
# Messages of the Codex app-server

What `send_turn` of `loom_v2/coding_agents/codex.py` makes of one message: how it is routed, which
events it yields, whether the turn goes on, and what happens to the health of the protocol.
-/

namespace Loom

namespace CodexTurn

/-- How the provider was constructed, and `str` of values that are not strings. -/
structure Setup where
  protocolFailureSeconds : ℚ
  text : Json → String

/-- `str(value)`. -/
def Setup.str (setup : Setup) : Json → String
  | .str text => text
  | value => setup.text value

/-- `text[:limit]`. -/
def clip (limit : Nat) (text : String) : String := String.ofList (text.toList.take limit)

/-- `AgentEvent`. -/
structure AgentEvent where
  kind : String
  payload : Json
  deriving Repr, DecidableEq

/-! ### Values of messages -/

/-- `value.get(key)` where `value` may be no dictionary. -/
def getOf (value : Json) (key : String) : Except Exc Json :=
  match value with
  | .obj entries => .ok (Dict.get entries key)
  | _ => .error (.attributeError "object has no attribute 'get'")

/-- `value.get(key, default)` where `value` may be no dictionary. -/
def getOr (value : Json) (key : String) (default : Json) : Except Exc Json :=
  match value with
  | .obj entries => .ok (if Dict.has entries key then Dict.get entries key else default)
  | _ => .error (.attributeError "object has no attribute 'get'")

/-- `value.get(key) if isinstance(value, dict) else None`. -/
def field (value : Json) (key : String) : Json :=
  match value with
  | .obj entries => Dict.get entries key
  | _ => .null

/-- The items of `for item in value`. -/
def iterate : Json → Except Exc (List Json)
  | .arr items => .ok items
  | .str text => .ok (text.toList.map fun char => .str (String.singleton char))
  | .obj entries => .ok (entries.map fun entry => .str entry.1)
  | _ => .error (.typeError "object is not iterable")

section Reasons

variable (setup : Setup)

/-- `_turn_error_reason`. -/
def turnErrorReason (error : Json) (source : String) : Dict :=
  match error with
  | .obj entries =>
      let reason : Dict :=
        [("source", .str source),
          ("message", .str (clip 1024 (setup.str ((Dict.get entries "message").orElse
            (.str "Codex reported an error"))))),
          ("code", .str (setup.str ((Dict.get entries "code").orElse (.str "coding_agent_error"))))]
      let info := Dict.get entries "codexErrorInfo"
      let informed := if info = .null then reason else reason ++ [("codex_error_info", info)]
      let details := Dict.get entries "additionalDetails"
      if details.truthy then
        informed ++ [("additional_details", .str (clip 512 (setup.str details)))]
      else informed
  | _ =>
      [("code", .str "coding_agent_error"), ("source", .str source),
        ("message", .str (clip 1024 (setup.str (error.orElse (.str "Codex reported an error")))))]

/-- `_error_message`. -/
def errorMessage (error : Json) : String :=
  match error with
  | .obj entries =>
      setup.str (((Dict.get entries "message").orElse (Dict.get entries "data")).orElse
        ((Dict.get entries "code").orElse (.str "Codex request failed")))
  | _ => setup.str (error.orElse (.str "Codex request failed"))

/-- `_rpc_error_reason`. -/
def rpcErrorReason (error : Json) : Dict :=
  match error with
  | .obj entries =>
      [("code", .str "coding_agent_rpc_error"), ("source", .str "rpc"),
        ("message", .str (clip 1024 (errorMessage setup error))),
        ("rpc_code", Dict.get entries "code")]
  | _ =>
      [("code", .str "coding_agent_rpc_error"), ("source", .str "rpc"),
        ("message", .str (clip 1024 (setup.str error)))]

/-- `_status_payload`. -/
def statusPayload (status : Json) : Except Exc (String × List Json) :=
  match status with
  | .str text => .ok (text, [])
  | .obj entries => do
      let type := setup.str
        (((Dict.get entries "type").orElse (Dict.get entries "status")).orElse (.str ""))
      let flags ← iterate
        (((Dict.get entries "activeFlags").orElse (Dict.get entries "active_flags")).orElse
          (.arr []))
      return (type, flags.map fun flag => .str (setup.str flag))
  | _ => .ok ("", [])

/-- `_current_turn_hint`. -/
def currentTurnHint (turns : List Json) : Json :=
  match turns.find? fun turn =>
      match turn with
      | .obj entries => lower (setup.str (if Dict.has entries "status" then
          Dict.get entries "status" else .str "")) = "inprogress"
      | _ => false with
  | some turn => .str (setup.str (field turn "id"))
  | none => .null

/-- The turn that `_thread_status` reports. -/
def currentTurn (turns : Json) : Except Exc (Option Dict) := do
  let items ← iterate turns
  match items.findSome? fun turn =>
      match turn with
      | .obj entries =>
          if (Dict.get entries "id").pyEq (currentTurnHint setup items) then some entries else none
      | _ => none with
  | some entries => return some entries
  | none =>
      match turns with
      | .obj (_ :: _) => throw (.keyError "-1")
      | _ =>
          match items.getLast? with
          | some (.obj entries) => return some entries
          | _ => return none

/-- What `_thread_status` makes of a thread. -/
structure ThreadStatus where
  status : String
  activeFlags : List Json
  threadId : Json
  updatedAt : Json
  turnId : Option String
  turnStatus : Option String
  error : Option Dict

/-- The payload of a `thread_status` event. -/
def ThreadStatus.payload (status : ThreadStatus) : Dict :=
  [("status", .str status.status), ("active_flags", .arr status.activeFlags),
    ("thread_id", status.threadId), ("updated_at", status.updatedAt),
    ("turn_id", .ofOption status.turnId), ("turn_status", .ofOption status.turnStatus),
    ("error", (status.error.map Json.obj).getD .null)]

/-- `_thread_status`. -/
def threadStatus (result : Json) : Except Exc ThreadStatus := do
  let thread := match result with
    | .obj entries => if Dict.has entries "thread" then Dict.get entries "thread" else .obj []
    | _ => .obj []
  let (status, activeFlags) ← statusPayload setup (← getOf thread "status")
  let turns := (field thread "turns").orElse (.arr [])
  let turn := ((← currentTurn setup turns).getD [])
  let known := fun key : String =>
    if (Dict.get turn key).truthy then some (setup.str (Dict.get turn key)) else none
  return {
    status
    activeFlags
    threadId := field thread "id"
    updatedAt := field thread "updatedAt"
    turnId := known "id"
    turnStatus := known "status"
    error := if (Dict.get turn "error").truthy then
        some (turnErrorReason setup (Dict.get turn "error") "thread/read") else none }

end Reasons

/-! ### Protocol health -/

/-- What a poll asks for. -/
inductive PollMethod where
  | threadRead
  | threadGoalGet
  deriving Repr, DecidableEq

/-- The JSON-RPC method of a poll. -/
def PollMethod.name : PollMethod → String
  | .threadRead => "thread/read"
  | .threadGoalGet => "thread/goal/get"

/-- An entry of `_poll_requests`. -/
structure PollRequest where
  id : Nat
  method : PollMethod
  sentAt : ℚ
  deriving Repr, DecidableEq

/-- The fields of the provider that the stream and the poll task share. -/
structure Protocol where
  threadId : Option String
  currentTurnId : Option String
  requestId : Nat
  pollRequests : List PollRequest
  lastProtocolHeartbeatAt : ℚ
  pollFailureStartedAt : Option ℚ
  protocolFailureReason : Option (String × String)
  protocolFailureEvent : Bool
  protocolFailureReported : Bool
  deriving Repr, DecidableEq

namespace Protocol

variable (protocol : Protocol)

/-- `_mark_protocol_heartbeat`. -/
def heartbeat (now : ℚ) : Protocol :=
  let heard := { protocol with lastProtocolHeartbeatAt := now }
  if protocol.protocolFailureReported then heard
  else
    { heard with
      protocolFailureEvent := false
      pollFailureStartedAt := none
      protocolFailureReason := none }

/-- The time since the first failure has reached the limit. -/
def isFailed (setup : Setup) (now : ℚ) : Bool :=
  max 0 setup.protocolFailureSeconds ≤ now - protocol.pollFailureStartedAt.getD now

/-- `_mark_protocol_failure`. -/
def failure (setup : Setup) (now : ℚ) (source message : String) : Protocol :=
  { protocol with
    pollFailureStartedAt := some (protocol.pollFailureStartedAt.getD now)
    protocolFailureReason := some (source, clip 1024 message)
    protocolFailureEvent := protocol.protocolFailureEvent ||
      protocol.isFailed setup now && !protocol.protocolFailureReported }

/-- `_protocol_failure_payload`. -/
def failurePayload (now : ℚ) : Dict :=
  let reason := protocol.protocolFailureReason.getD
    ("protocol_health", "app-server is not responding")
  [("code", .str "coding_agent_stalled"), ("source", .str "protocol_health"),
    ("thread_id", .ofOption protocol.threadId), ("turn_id", .ofOption protocol.currentTurnId),
    ("failure_source", .str reason.1), ("message", .str reason.2),
    ("failure_age_seconds", .float (max 0 (now - protocol.pollFailureStartedAt.getD now)))]

/-- Some request of a method has not been answered. -/
def isPolling (method : PollMethod) : Bool :=
  protocol.pollRequests.any fun request => request.method = method

/-- `self._poll_requests.pop(request_id)`. -/
def pop (id : Nat) : Protocol :=
  { protocol with pollRequests := protocol.pollRequests.filter fun request => request.id ≠ id }

def setTurn (turn : Option String) : Protocol := { protocol with currentTurnId := turn }

end Protocol

/-! ### Messages -/

/-- Something that the generator yields: an event, or the stall, whose payload is made when it is
yielded. -/
inductive Emit where
  | event (event : AgentEvent)
  | stalled
  deriving Repr, DecidableEq

/-- How the loop goes on after the events of a message. -/
inductive Course where
  | goesOn
  | leaves
  deriving Repr, DecidableEq

/-- What the loop makes of a message: events, and first, for a tool call, the call and its
answer. -/
structure Reaction where
  calls : Bool := false
  emits : List Emit := []
  course : Course := .goesOn
  deriving Repr, DecidableEq

/-- `"method" in message`. -/
def hasMethod (message : Dict) : Bool := Dict.has message "method"

/-- `message.get("id") == request_id`. -/
def bears (message : Dict) (id : Nat) : Bool := (Dict.get message "id").pyEq (.int id)

/-- The poll request that a message answers. -/
def pollAnswered (protocol : Protocol) (message : Dict) : Option PollRequest :=
  match Dict.get message "id" with
  | .int id => protocol.pollRequests.find? fun request => (request.id : Int) = id
  | .bool flag => protocol.pollRequests.find? fun request => request.id = if flag then 1 else 0
  | _ => none

/-- How a message is routed: by its method first. -/
inductive Route where
  | method
  | turnStart
  | poll (request : PollRequest)
  | unknown
  deriving Repr, DecidableEq

def route (turnRequestId : Nat) (protocol : Protocol) (message : Dict) : Route :=
  if hasMethod message then .method
  else if bears message turnRequestId then .turnStart
  else
    match pollAnswered protocol message with
    | some request => .poll request
    | none => .unknown

def emit (kind : String) (payload : Dict) : Emit := .event ⟨kind, .obj payload⟩

section Reactions

variable (setup : Setup) (now : ℚ) (protocol : Protocol)

/-- The response to `turn/start`. -/
def reactTurnStart (message : Dict) : Protocol × Reaction :=
  if Dict.has message "error" then
    (protocol,
      { emits := [emit "agent_error" (rpcErrorReason setup (Dict.get message "error"))]
        course := .leaves })
  else
    let heard := protocol.heartbeat now
    let startedTurn := match Dict.get message "result" with
      | .obj result => if Dict.has result "turn" then Dict.get result "turn" else .obj []
      | _ => .obj []
    match startedTurn with
    | .obj turn =>
        let known := if (Dict.get turn "id").truthy then
          heard.setTurn (some (setup.str (Dict.get turn "id"))) else heard
        if (Dict.get turn "error").truthy then
          (known,
            { emits := [emit "agent_error"
                (turnErrorReason setup (Dict.get turn "error") "turn/start")]
              course := .leaves })
        else (known, {})
    | _ => (heard, {})

/-- The code of a goal status that ends the turn; a value that cannot be hashed raises. -/
def goalCode (status : Json) : Except Exc (Option (String × String)) :=
  match status with
  | .str "blocked" => .ok (some ("blocked", "coding_agent_blocked"))
  | .str "usageLimited" => .ok (some ("usageLimited", "coding_agent_usage_limited"))
  | .str "budgetLimited" => .ok (some ("budgetLimited", "coding_agent_budget_limited"))
  | .arr _ | .obj _ => .error (.typeError "unhashable type")
  | _ => .ok none

/-- The event of a goal status that ends the turn. -/
def goalError (source : String) (status code : String) : Emit :=
  emit "agent_error" [("code", .str code), ("source", .str source), ("goal_status", .str status),
    ("message", .str ("Codex goal status is " ++ status))]

/-- The event of a thread that has entered `systemError`. -/
def systemError (source : String) : Emit :=
  emit "agent_error" [("code", .str "thread_system_error"), ("source", .str source),
    ("message", .str "Codex thread entered systemError")]

/-- The result of a `thread/read` poll. -/
def reactThreadRead (result : Json) : Protocol × Except Exc Reaction :=
  match threadStatus setup result with
  | .error error => (protocol, .error error)
  | .ok status =>
      let known := if (status.turnId.getD "") ≠ "" then protocol.setTurn status.turnId else protocol
      let shown := emit "thread_status" status.payload
      if (status.error.getD []).isEmpty = false then
        (known, .ok
          { emits := [shown, emit "agent_error" (status.error.getD [])], course := .leaves })
      else if status.turnStatus = some "failed" then
        (known, .ok
          { emits := [shown, emit "agent_error"
              [("code", .str "coding_agent_turn_failed"), ("source", .str "thread/read"),
                ("message", .str "Codex turn failed"),
                ("turn_id", (Json.ofOption status.turnId).orElse (.ofOption known.currentTurnId))]]
            course := .leaves })
      else if status.status = "systemError" then
        (known, .ok { emits := [shown, systemError "thread/read"], course := .leaves })
      else (known, .ok { emits := [shown] })

/-- The result of a `thread/goal/get` poll. -/
def reactGoalGet (result : Json) : Except Exc Reaction := do
  match ← goalCode (field (field result "goal") "status") with
  | some (status, code) =>
      return { emits := [goalError "thread/goal/get" status code], course := .leaves }
  | none => return {}

/-- The response to a poll. -/
def reactPoll (request : PollRequest) (message : Dict) : Protocol × Except Exc Reaction :=
  let popped := protocol.pop request.id
  let source := request.method.name
  if Dict.has message "error" then
    let text := errorMessage setup (Dict.get message "error")
    let marked := popped.failure setup now source text
    let warning := emit "agent_warning" [("source", .str source), ("message", .str text)]
    if marked.isFailed setup now then
      (marked, .ok { emits := [warning, .stalled], course := .leaves })
    else (marked, .ok { emits := [warning] })
  else
    let heard := popped.heartbeat now
    let result := if Dict.has message "result" then Dict.get message "result" else .obj []
    match request.method with
    | .threadRead => reactThreadRead setup heard result
    | .threadGoalGet => (heard, reactGoalGet result)

/-- The id of the turn that a notification is about. -/
def turnIdOf (params turn : Json) : Json :=
  if field turn "id" = .null then (field params "turnId").orElse (field params "turn_id")
  else field turn "id"

/-- The turn that a notification is about becomes the current one. -/
def noteTurn (params turn : Json) : Protocol :=
  if turnIdOf params turn = .null then protocol
  else protocol.setTurn (some (setup.str (turnIdOf params turn)))

/-- `{"turn_id": self.current_turn_id} if self.current_turn_id else {}`. -/
def Protocol.turnPayload : Dict :=
  match protocol.currentTurnId with
  | some turn => if turn = "" then [] else [("turn_id", .str turn)]
  | none => []

/-- `turn/completed`. -/
def reactCompleted (params : Json) : Protocol × Except Exc Reaction :=
  match getOr params "turn" params with
  | .error error => (protocol, .error error)
  | .ok turn =>
      let known := noteTurn setup protocol params turn
      let status := setup.str
        (((field turn "status").orElse (field params "status")).orElse (.str "completed"))
      let failed :=
        if (field turn "error").truthy then
          [emit "agent_error" (turnErrorReason setup (field turn "error") "turn/completed")]
        else if status = "failed" then
          [emit "agent_error" [("code", .str "coding_agent_turn_failed"),
            ("source", .str "turn/completed"), ("message", .str "Codex turn failed")]]
        else []
      let interrupted :=
        if status = "interrupted" ∨ status = "cancelled" ∨ status = "canceled" then
          [emit "turn_interrupted" known.turnPayload]
        else []
      (known, .ok { emits := failed ++ interrupted, course := .leaves })

/-- `turn/started`. -/
def reactStarted (params : Json) : Protocol × Except Exc Reaction :=
  match getOr params "turn" params with
  | .error error => (protocol, .error error)
  | .ok turn =>
      let known := noteTurn setup protocol params turn
      let started := emit "turn_started" known.turnPayload
      if (field turn "error").truthy then
        (known, .ok
          { emits := [started, emit "agent_error"
              (turnErrorReason setup (field turn "error") "turn/started")]
            course := .leaves })
      else (known, .ok { emits := [started] })

/-- `thread/status/changed`. -/
def reactStatusChanged (params : Json) : Except Exc Reaction := do
  let (status, activeFlags) ← statusPayload setup (← getOf params "status")
  let shown := emit "thread_status"
    [("status", .str status), ("active_flags", .arr activeFlags),
      ("thread_id", (field params "threadId").orElse (.ofOption protocol.threadId))]
  if status = "systemError" then
    return { emits := [shown, systemError "thread/status/changed"], course := .leaves }
  else return { emits := [shown] }

/-- `params.get("goal", params) if isinstance(params, dict) else {}`. -/
def goalOf (params : Json) : Json :=
  match params with
  | .obj entries => if Dict.has entries "goal" then Dict.get entries "goal" else params
  | _ => .obj []

/-- `thread/goal/updated`. -/
def reactGoalUpdated (params : Json) : Except Exc Reaction := do
  match ← goalCode (field (goalOf params) "status") with
  | some (status, code) =>
      return { emits := [goalError "thread/goal/updated" status code], course := .leaves }
  | none =>
      match goalOf params with
      | .obj entries =>
          return { emits := [emit "goal_status"
            [("source", .str "thread/goal/updated"), ("status", Dict.get entries "status"),
              ("thread_id", (Dict.get entries "threadId").orElse (.ofOption protocol.threadId)),
              ("updated_at", Dict.get entries "updatedAt"),
              ("token_budget", Dict.get entries "tokenBudget"),
              ("tokens_used", Dict.get entries "tokensUsed"),
              ("time_used_seconds", Dict.get entries "timeUsedSeconds")]] }
      | _ => return { emits := [emit "goal_status" [("source", .str "thread/goal/updated")]] }

/-- `error`. -/
def reactError (params : Json) : Except Exc Reaction := do
  let reason := turnErrorReason setup ((← getOf params "error").orElse params) "error"
  let willRetry := (field params "willRetry").truthy
  let payload := ("will_retry", .bool willRetry) :: reason
  return { emits := [emit (if willRetry then "agent_warning" else "agent_error") payload] }

/-- `warning`. -/
def reactWarning (method : String) (params : Json) : Reaction :=
  match params with
  | .obj entries => { emits := [emit "agent_warning" (entries ++ [("source", .str method)])] }
  | _ =>
      { emits := [emit "agent_warning"
          [("source", .str method), ("message", .str (setup.str params))]] }

/-- `"codexErrorInfo" in method`. -/
def namesErrorInfo (method : String) : Bool :=
  method.toList.tails.any fun tail => "codexErrorInfo".toList.isPrefixOf tail

/-- A method that names `codexErrorInfo`. -/
def reactErrorInfo (method : String) (params : Json) : Reaction :=
  let info : Dict := match params with
    | .obj entries => entries
    | _ => [("message", .str (setup.str params))]
  let named := ("codex_error_info",
    (Dict.get info "codexErrorInfo").orElse (Dict.get info "codex_error_info")) :: info
  let payload := named ++
    [("message", .str "Codex reported codexErrorInfo"), ("code", .str "codex_error_info"),
      ("source", .str method)]
  { emits := [emit "agent_error" payload] }

/-- `item/completed`. -/
def reactItemCompleted (params : Json) : Except Exc Reaction := do
  let item ← getOr params "item" (.obj [])
  let type ← getOf item "type"
  if type = .str "agentMessage" ∧ (field item "text").truthy then
    return { emits := [emit "assistant_text" [("text", field item "text")]] }
  else return {}

/-- `method.startswith(start)`. -/
def startsWith (method start : String) : Bool := start.toList.isPrefixOf method.toList

/-- A server request or a notification. -/
def reactMethod (method : String) (params : Json) : Protocol × Except Exc Reaction :=
  if method = "item/tool/call" then
    (protocol, .ok { calls := true, emits := [.event ⟨"tool_call", params⟩] })
  else if method = "turn/completed" then reactCompleted setup protocol params
  else if method = "turn/started" then reactStarted setup protocol params
  else if method = "thread/status/changed" then
    (protocol, reactStatusChanged setup protocol params)
  else if method = "thread/goal/updated" then (protocol, reactGoalUpdated protocol params)
  else if method = "error" then (protocol, reactError setup params)
  else if method = "warning" then (protocol, .ok (reactWarning setup method params))
  else if namesErrorInfo method then (protocol, .ok (reactErrorInfo setup method params))
  else if startsWith method "thread/" then
    (protocol, .ok { emits := [.event ⟨method, params⟩] })
  else if method = "item/completed" then (protocol, reactItemCompleted params)
  else if startsWith method "item/" || startsWith method "turn/" then
    (protocol, .ok { emits := [.event ⟨method, params⟩] })
  else (protocol, .ok {})

/-- What the loop makes of a message. -/
def react (turnRequestId : Nat) (message : Dict) : Protocol × Except Exc Reaction :=
  match route turnRequestId protocol message with
  | .turnStart =>
      let reacted := reactTurnStart setup now protocol message
      (reacted.1, .ok reacted.2)
  | .poll request => reactPoll setup now protocol request message
  | .unknown => (protocol, .ok {})
  | .method =>
      reactMethod setup (protocol.heartbeat now) (setup.str (Dict.get message "method"))
        (if Dict.has message "params" then Dict.get message "params" else .obj [])

end Reactions

end CodexTurn

end Loom
