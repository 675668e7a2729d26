import Loom.Observer.Readiness

/-!
# Lifecycle operations

Opening, talking about, cancelling, failing, resolving, closing and recovering a run.
-/

namespace Loom

open Coroutine

/-- The arguments of `open_run`. -/
structure OpenArgs where
  runId : Option String := none
  taskRef : String
  goal : String
  allowReassignment : Bool := false
  closureContract : Option ClosureContract := none
  userId : String := "user-default"
  workspaceId : String := "workspace-default"
  deriving Repr, DecidableEq, Inhabited

/-- The contract of a new run: the caller's, bound to its origin, or a minimal one. -/
def OpenArgs.contract (args : OpenArgs) : Except Exc ClosureContract :=
  match args.closureContract with
  | none =>
      .ok
        { closureId := args.taskRef, goal := args.goal, originConversationRef := args.taskRef
          userId := args.userId, workspaceId := args.workspaceId
          resourceBudget := [("max_node_concurrency", .int 1)]
          recoveryPolicy := [("allow_reassignment", .bool args.allowReassignment)]
          body := { closureId := args.taskRef, metadata := [("goal", .str args.goal)] } }
  | some contract =>
      if contract.goal ≠ args.goal then .error (.valueError "closure_goal_mismatch")
      else
        let metadata :=
          if Dict.has contract.body.metadata "goal" then contract.body.metadata
          else Dict.set contract.body.metadata "goal" (.str args.goal)
        .ok
          { contract with
            originConversationRef := args.taskRef
            userId := args.userId
            workspaceId := args.workspaceId
            body := { contract.body with closureId := contract.closureId, metadata } }

/-- The record of a new run. -/
def OpenArgs.newRecord (args : OpenArgs) (runId : String) (contract : ClosureContract)
    (draft : ClosureVersion) (createdAt : String) : RunRecord :=
  { runId, taskRef := args.taskRef, goal := args.goal, draft, closureContract := some contract
    allowReassignment := args.allowReassignment, events := [.runOpened runId createdAt] }

/-- The run-level fields that every outcome carries. -/
def outcomeOf (disposition : String) (decision terminalState terminalError : Json)
    (record : RunRecord) (more : Dict := []) : Dict :=
  [("disposition", .str disposition), ("decision", decision), ("terminal_state", terminalState),
    ("terminal_error", terminalError), ("execution_id", .ofOption record.executionId),
    ("execution_epoch", .int record.executionEpoch)] ++ more

/-- The outcome of a cancelled run. -/
def RunRecord.cancelOutcome (record : RunRecord) (reason : Json) : Dict :=
  let reported := match record.outcome with
    | some outcome => Dict.get outcome "terminal_state"
    | none => .null
  outcomeOf "cancelled" .null reported reason record [("reason", reason)]

/-- The outcome of a run that was failed by a call. -/
def RunRecord.failOutcome (record : RunRecord) (reason : Json) : Dict :=
  outcomeOf "failed" .null .null reason record [("reason", reason)]

/-- The outcome of an accepted attestation. -/
def acceptedOutcome (outcome : Dict) : Dict :=
  [("disposition", .str "completed"), ("decision", .null), ("terminal_error", .null)] ++ outcome

/-- The outcome of an abandoned decision. -/
def abandonedOutcome (outcome : Dict) : Dict :=
  [("disposition", .str "failed"), ("decision", .null)] ++ outcome

/-- The reason with which recovery replays an orchestration. -/
def replayReason : Json :=
  .obj [("code", .str "driver_restarted"), ("action", .str "replay_orchestration")]

/-- The reason with which recovery fails a run. -/
def RunRecord.restartReason (record : RunRecord) : Json :=
  let orchestrated := record.state = .running ∧ record.committed ≠ none ∧ record.isOrchestration
  .obj [("code", .str (if orchestrated then "orchestration_not_replayable"
    else "observer_restarted"))]

/-- The outcome of a run that recovery failed. -/
def RunRecord.restartOutcome (record : RunRecord) : Dict :=
  outcomeOf "failed" .null (.str "failed") record.restartReason record
    [("reason", record.restartReason)]

namespace Op

/-- `open_run`. -/
def openRun (env : Env) (args : OpenArgs) : Op Nat := do
  let runId ← match args.runId with
    | some runId => if runId = "" then (do .ret ("run-" ++ (← uuid env))) else .ret runId
    | none => (do .ret ("run-" ++ (← uuid env)))
  let contract ← Prog.ofExcept args.contract
  let versionId ← uuid env
  let digest ← Prog.ofExcept (env.closureDigest contract.body)
  let createdAt ← now env
  let address ← alloc (args.newRecord runId contract
    { versionId := "draft-" ++ versionId, closureId := contract.closureId
      snapshot := contract.body, snapshotDigest := digest } createdAt)
  Prog.tell (.install runId address)
  persist address
  .ret address

/-- `append_message`. -/
def appendMessage (env : Env) (runId role content : String) (requestId : Option String) :
    Op Event := do
  check (role = "user" ∨ role = "assistant") "unsupported_message_role"
  check (content ≠ "") "empty_message"
  let address ← load runId
  let record ← recordAt address
  let existing :=
    if requestId.getD "" = "" then none
    else record.events.find? fun
      | .message _ _ _ _ known => known = requestId
      | _ => false
  match existing with
  | some event => .ret event
  | none =>
      let message := Event.message ("message-" ++ (← uuid env)) role content runId
        (if requestId.getD "" = "" then none else requestId)
      appendEvent address message
      persist address
      .ret message

/-- `record_agent_signal`. -/
def recordAgentSignal (runId kind : String) (payload : Json) : Op Event := do
  let address ← load runId
  let event := Event.codingAgentSignal runId kind payload
  appendEvent address event
  persist address
  .ret event

/-- `begin_refinement`. -/
def beginRefinement (runId : String) : Op Nat := do
  let address ← load runId
  let record ← recordAt address
  if record.state = .opened then
    transition address .refinementStarted
    persist address
    .ret address
  else if record.state = .thinking then .ret address
  else fail "illegal_state_transition"

/-- `inspect_readiness`. -/
def inspectReadiness (env : Env) (runId : String) (versionId : Option String) : Op Readiness := do
  let address ← load runId
  let record ← recordAt address
  let inspected ←
    if versionId = none ∨ versionId = some record.draft.versionId then
      (.ret record.draft : Op ClosureVersion)
    else match record.committed with
      | some version =>
          if versionId = some version.versionId then .ret version else fail "version_conflict"
      | none => fail "version_conflict"
  let readiness ← evaluateReadiness env inspected.snapshot runId
  appendEvent address
    (.readinessInspected runId inspected.versionId readiness.ready readiness.blockers)
  persist address
  .ret readiness

/-- `cancel_run`. -/
def cancelRun (runId : String) (reason : Json) : Op Nat := do
  let address ← load runId
  let record ← recordAt address
  if record.state.isTerminal then .ret address
  else
    transition address .runCancelled (some reason)
    modify address (.setOutcome (some (record.cancelOutcome reason)))
    persist address
    .ret address

/-- `fail_run`. -/
def failRun (runId : String) (reason : Json) : Op Nat := do
  let address ← load runId
  let record ← recordAt address
  if record.state.isTerminal then .ret address
  else
    transition address .runFailed (some reason)
    modify address (.setOutcome (some (record.failOutcome reason)))
    persist address
    .ret address

/-- `close_run`. -/
def closeRun (runId : String) : Op Nat := do
  let address ← load runId
  let record ← recordAt address
  check (record.state = .completed ∨ record.state = .failed ∨ record.state = .cancelled)
    "run_not_terminal"
  transition address .runClosed
  appendEvent address (.runClosed record.executionId)
  persist address
  .ret address

/-- `resolve_run`. -/
def resolveRun (runId decision : String) : Op Nat := do
  let address ← load runId
  let record ← recordAt address
  if record.state = .completed ∧ decision = "accept" then .ret address
  else if record.state = .failed ∧ decision = "abandon" then .ret address
  else
    match record.state, record.outcome with
    | .awaitingDecision, some outcome =>
        if decision = "accept" then
          check (Dict.get outcome "decision" = .str "attestation") "invalid_decision"
          transition address .decisionAccepted
          modify address (.setOutcome (some (acceptedOutcome outcome)))
        else if decision = "abandon" then
          transition address .decisionAbandoned
          modify address (.setOutcome (some (abandonedOutcome outcome)))
        else fail "invalid_decision"
        let resolved ← recordAt address
        appendEvent address (.runDecisionResolved decision resolved.state)
        persist address
        .ret address
    | _, _ => fail "illegal_state_transition"

/-- Whether recovery can replay the orchestration of a running record. -/
def canReplay (address : Nat) : Op Bool :=
  .read fun repo =>
    let record := repo.heap address
    if record.state = .running ∧ record.executionId ≠ none ∧ record.isOrchestration then
      match record.snapshot.programSystems.packageRef.bind fun ref =>
          repo.findPackage ref (some record.runId) with
      | none => .ret false
      | some package => do
          let exported ← Prog.ofExcept (singleExport package)
          .ret (replayable package exported)
    else .ret false

/-- The recovery of one record; whether it was recovered. -/
def recoverRecord (owners : List String) (address : Nat) : Op Bool := do
  let record ← recordAt address
  if owners.contains record.runId ∨ (record.state ≠ .thinking ∧ record.state ≠ .running) then
    .ret false
  else if ← canReplay address then
    modify address (.setExecution record.executionId (record.executionEpoch + 1))
    modify address (.failActive none none replayReason)
    modify address .releaseNodes
    appendEvent address (.runRecovered record.runId record.executionId replayReason
      (some (record.executionEpoch + 1)))
    persist address
    .ret true
  else
    modify address (.failActive none none record.restartReason)
    transition address .runFailed (some record.restartReason)
    modify address (.setOutcome (some record.restartOutcome))
    appendEvent address
      (.runRecovered record.runId record.executionId record.restartReason none)
    persist address
    .ret true

/-- The recovery loop over the records. -/
def recoverRecords (owners : List String) : List Nat → Op (List Nat)
  | [] => .ret []
  | address :: rest => do
      let recovered ← recoverRecord owners address
      let more ← recoverRecords owners rest
      .ret (if recovered then address :: more else more)

/-- `recover_stale_runs`. -/
def recoverStaleRuns (owners : List String) : Op (List Nat) := do
  let addresses ← allRecords
  recoverRecords owners addresses

end Op

end Loom
