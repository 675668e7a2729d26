import Loom.Contracts.Refs

/-!
# Run records

`RunRecord`, the transition table `RUN_TRANSITIONS` and `_transition` of
`loom_v2/observer/repository.py`, and the elementary updates that the operations of the
Observer make to a record.

A record is mutable and shared by every operation that has loaded it, so the updates are
first-order values (`RecordWrite`): an operation is a sequence of reads, such writes and
awaits, and what happens to a record between two awaits is a list of writes.
-/

namespace Loom

inductive RunState where
  | opened
  | thinking
  | committed
  | running
  | awaitingDecision
  | completed
  | failed
  | cancelled
  | closed
  deriving Repr, DecidableEq, Inhabited

namespace RunState

/-- The state's name on the wire. -/
def text : RunState → String
  | .opened => "opened"
  | .thinking => "thinking"
  | .committed => "committed"
  | .running => "running"
  | .awaitingDecision => "awaiting_decision"
  | .completed => "completed"
  | .failed => "failed"
  | .cancelled => "cancelled"
  | .closed => "closed"

/-- `state in {"completed", "closed", "failed", "cancelled"}`. -/
def isTerminal : RunState → Bool
  | .completed | .failed | .cancelled | .closed => true
  | .opened | .thinking | .committed | .running | .awaitingDecision => false

end RunState

inductive RunEvent where
  | refinementStarted
  | committed
  | executionStarted
  | runSucceeded
  | runNeedsDecision
  | runFailed
  | runCancelled
  | decisionAccepted
  | decisionAbandoned
  | runClosed
  deriving Repr, DecidableEq, Inhabited

/-- `RUN_TRANSITIONS`. -/
def runTransitions : RunState → RunEvent → Option RunState
  | .opened, .refinementStarted => some .thinking
  | .opened, .runCancelled => some .cancelled
  | .thinking, .committed => some .committed
  | .thinking, .runFailed => some .failed
  | .thinking, .runCancelled => some .cancelled
  | .committed, .executionStarted => some .running
  | .committed, .runCancelled => some .cancelled
  | .running, .runSucceeded => some .completed
  | .running, .runNeedsDecision => some .awaitingDecision
  | .running, .runFailed => some .failed
  | .running, .runCancelled => some .cancelled
  | .awaitingDecision, .decisionAccepted => some .completed
  | .awaitingDecision, .decisionAbandoned => some .failed
  | .awaitingDecision, .refinementStarted => some .thinking
  | .awaitingDecision, .runCancelled => some .cancelled
  | .completed, .runClosed => some .closed
  | .failed, .runClosed => some .closed
  | .cancelled, .runClosed => some .closed
  | _, _ => none

section RunTransitions

variable (state : RunState)

@[simp]
theorem runTransitions_refinementStarted :
    runTransitions state .refinementStarted =
      if state = .opened ∨ state = .awaitingDecision then some .thinking else none := by
  cases state <;> rfl

@[simp]
theorem runTransitions_committed :
    runTransitions state .committed = if state = .thinking then some .committed else none := by
  cases state <;> rfl

@[simp]
theorem runTransitions_executionStarted :
    runTransitions state .executionStarted =
      if state = .committed then some .running else none := by
  cases state <;> rfl

@[simp]
theorem runTransitions_runSucceeded :
    runTransitions state .runSucceeded = if state = .running then some .completed else none := by
  cases state <;> rfl

@[simp]
theorem runTransitions_runNeedsDecision :
    runTransitions state .runNeedsDecision =
      if state = .running then some .awaitingDecision else none := by
  cases state <;> rfl

@[simp]
theorem runTransitions_runFailed :
    runTransitions state .runFailed =
      if state = .thinking ∨ state = .running then some .failed else none := by
  cases state <;> rfl

@[simp]
theorem runTransitions_decisionAccepted :
    runTransitions state .decisionAccepted =
      if state = .awaitingDecision then some .completed else none := by
  cases state <;> rfl

@[simp]
theorem runTransitions_runClosed :
    runTransitions state .runClosed =
      if state = .completed ∨ state = .failed ∨ state = .cancelled then some .closed else none := by
  cases state <;> rfl

end RunTransitions

inductive AttemptState where
  | created
  | running
  | completed
  | failed
  | decisionRequired
  | lost
  deriving Repr, DecidableEq, Inhabited

/-- `attempt.get("state") in {"created", "running"}`. -/
def AttemptState.isActive : AttemptState → Bool
  | .created | .running => true
  | .completed | .failed | .decisionRequired | .lost => false

/-- The terminal states a worker may report. -/
inductive TerminalState where
  | completed
  | failed
  | decisionRequired
  deriving Repr, DecidableEq, Inhabited

namespace TerminalState

def text : TerminalState → String
  | .completed => "completed"
  | .failed => "failed"
  | .decisionRequired => "decision_required"

def attemptState : TerminalState → AttemptState
  | .completed => .completed
  | .failed => .failed
  | .decisionRequired => .decisionRequired

def nodeState : TerminalState → NodeState
  | .completed => .completed
  | .failed => .failed
  | .decisionRequired => .decisionRequired

/-- `str(result.get("terminal_state") or "completed")`, `none` outside the three states. -/
def ofReport? (reported : Json) : Option TerminalState :=
  match reported.orElse (.str "completed") with
  | .str "completed" => some .completed
  | .str "failed" => some .failed
  | .str "decision_required" => some .decisionRequired
  | _ => none

end TerminalState

structure Attempt where
  attemptId : String
  nodeId : Option String := none
  target : String
  targetInstanceId : Option String := none
  targetAgentEpoch : Option Int := none
  state : AttemptState := .created
  executionEpoch : Nat
  replacesAttemptId : Option String := none
  replacedByAttemptId : Option String := none
  terminalError : Json := .null
  resultRef : Option ResourceRef := none
  value : Json := .null
  validationEvidence : List ValidationEvidence := []
  deriving Repr, DecidableEq, Inhabited

/-- `_orchestration_provenance`. -/
structure Provenance where
  parentExecutionRef : Option String
  closureVersionRef : String
  orchestrationPackageRef : Option ResourceRef
  orchestrationProgramRef : Option ResourceRef
  deriving Repr, DecidableEq, Inhabited

def Provenance.toJson (provenance : Provenance) : Json :=
  .obj [("parent_execution_ref", .ofOption provenance.parentExecutionRef),
    ("closure_version_ref", .str provenance.closureVersionRef),
    ("orchestration_package_ref",
      (provenance.orchestrationPackageRef.map ResourceRef.toJson).getD .null),
    ("orchestration_program_ref",
      (provenance.orchestrationProgramRef.map ResourceRef.toJson).getD .null)]

/-- One completed node in the lineage of an orchestration result. -/
structure LineageEntry where
  nodeId : String
  intentId : String
  packageRef : ResourceRef
  inputRefs : List ResourceRef
  attemptId : String
  target : String
  executionEpoch : Nat
  resultRef : ResourceRef
  provenance : Provenance
  deriving Repr, DecidableEq, Inhabited

def LineageEntry.toJson (entry : LineageEntry) : Json :=
  .obj [("node_id", .str entry.nodeId), ("intent_id", .str entry.intentId),
    ("package_ref", entry.packageRef.toJson),
    ("input_refs", .arr (entry.inputRefs.map ResourceRef.toJson)),
    ("attempt_id", .str entry.attemptId), ("target", .str entry.target),
    ("execution_epoch", .int entry.executionEpoch), ("result_ref", entry.resultRef.toJson),
    ("provenance", entry.provenance.toJson)]

/-- The phases under which `record_result` logs an accepted report. -/
inductive ResultPhase where
  | ioSchemaRejected
  | executionFailed
  | attestationRequired
  | ioSchemaValidated
  | executionCompleted
  deriving Repr, DecidableEq, Inhabited

/-- The entries of a record's event log, one constructor for each `phase`. -/
inductive Event where
  | runOpened (runId createdAt : String)
  | runTransition (event : RunEvent) (fromState toState : RunState) (reason : Option Json)
  | message (messageId role content runId : String) (requestId : Option String)
  | codingAgentSignal (runId kind : String) (payload : Json)
  | readinessInspected (runId version : String) (ready : Bool) (blockers : List Json)
  | draftPatched (operationId version : String)
  | packageCandidateMaterialized (operationId : String) (packageRefs : Json)
  | committed (version : String)
  | executionStarted (executionId : String) (executionEpoch : Nat)
  | orchestrationStarted (runId : String) (executionId : Option String) (executionEpoch : Nat)
      (packageRef : Option ResourceRef) (provenance : Provenance)
  | runRecovered (runId : String) (executionId : Option String) (reason : Json)
      (executionEpoch : Option Nat)
  | resultRecorded (phase : ResultPhase) (executionId : Option String) (attemptId : String)
      (executionEpoch : Int) (error resourceRef : Json) (evidenceId : Option String)
  | runClosed (executionId : Option String)
  | runDecisionResolved (decision : String) (toState : RunState)
  | nodeRequested (runId : String) (executionId : Option String) (executionEpoch : Nat)
      (intent : NodeIntent) (provenance : Provenance)
  | nodeAccepted (runId : String) (executionId : Option String) (executionEpoch : Nat)
      (nodeId intentId : String) (packageRef capabilityDescriptorRef : ResourceRef)
      (inputRefs : List ResourceRef) (selectedTarget : String) (provenance : Provenance)
  | nodeDispatched (runId : String) (executionId : Option String) (executionEpoch : Nat)
      (nodeId : String) (attempt : Attempt) (packageRef capabilityDescriptorRef : ResourceRef)
      (inputRefs : List ResourceRef) (provenance : Provenance)
  | nodeReassigned (runId : String) (executionId : Option String) (executionEpoch : Nat)
      (nodeId lostAttemptId replacementAttemptId fromTarget toTarget reason : String)
      (sourceLeaseState : Json) (packageRef : ResourceRef) (replaySafety : String)
      (inputRefs : List ResourceRef)
  | nodeCompleted (runId : String) (executionId : Option String) (nodeId : String)
      (attemptId : Option String) (target : Option String) (executionEpoch : Int)
      (packageRef : ResourceRef) (inputRefs : List ResourceRef) (resultRef : Option ResourceRef)
      (terminalState : TerminalState) (terminalError : Json)
      (validationEvidence : List ValidationEvidence) (provenance : Provenance)
  | orchestrationFailed (runId : String) (executionId : Option String) (executionEpoch : Nat)
      (nodeId : Option String) (error : Json) (provenance : Provenance)
  | orchestrationDecisionRequired (runId : String) (executionId : Option String)
      (executionEpoch : Nat) (resourceRef : ResourceRef) (provenance : Provenance)
  | orchestrationCompleted (runId : String) (executionId : Option String) (executionEpoch : Nat)
      (resourceRef : ResourceRef) (lineage : List LineageEntry) (provenance : Provenance)
  | capabilityPackageAbandoned (packageRef : String) (idempotencyKey : Option String)
  | capabilityPackagePromoted (packageRef derivedFrom derivedFromDigest : String)
      (idempotencyKey : Option String)
  | capabilityDesiredStateChanged (packageRef packageDigest targetSlave : String)
      (desiredState : DesiredState) (activationRevision : Nat) (idempotencyKey : String)
  | capabilityHealthReport (report : CapabilityHealthReport) (packageRef packageDigest : String)
      (desiredState : DesiredState)
  deriving Repr, DecidableEq, Inhabited

structure RunRecord where
  runId : String
  taskRef : String
  goal : String
  draft : ClosureVersion
  closureContract : Option ClosureContract := none
  allowReassignment : Bool := false
  committed : Option ClosureVersion := none
  executionId : Option String := none
  executionEpoch : Nat := 1
  state : RunState := .opened
  outcome : Option Dict := none
  events : List Event := []
  attempts : List Attempt := []
  capabilityPackages : List CapabilityPackageVersion := []
  capabilityActivations : List CapabilityPackageActivation := []
  dynamicNodes : List DynamicNode := []
  deriving Repr, DecidableEq, Inhabited

namespace RunRecord

/-- `record.outcome.get("decision")`, null where there is no outcome. -/
def decision (record : RunRecord) : Json :=
  match record.outcome with
  | some outcome => Dict.get outcome "decision"
  | none => .null

/-- The committed snapshot, or the draft's where nothing is committed. -/
def snapshot (record : RunRecord) : TaskClosure :=
  match record.committed with
  | some version => version.snapshot
  | none => record.draft.snapshot

/-- The closure version whose snapshot is used. -/
def closureVersionRef (record : RunRecord) : String :=
  match record.committed with
  | some version => version.versionId
  | none => record.draft.versionId

def workspaceId (record : RunRecord) : String :=
  match record.closureContract with
  | some contract => contract.workspaceId
  | none => "workspace-default"

/-- The snapshot in force asks for the driver orchestrator. -/
def isOrchestration (record : RunRecord) : Bool :=
  record.snapshot.programSystems.execution.isOrchestrator

/-- The state `_transition` moves a record to; `none` where it raises. -/
def transitionTarget (record : RunRecord) (event : RunEvent) : Option RunState :=
  match runTransitions record.state event with
  | none => none
  | some target =>
      if event = .refinementStarted ∧ record.state = .awaitingDecision ∧
          record.decision ≠ .str "repair" then none
      else if event = .decisionAccepted ∧ record.decision ≠ .str "attestation" then none
      else some target

end RunRecord

/-- The fields of an attempt that an operation overwrites. -/
structure AttemptUpdate where
  state : AttemptState
  terminalError : Option Json := none
  replacedByAttemptId : Option String := none
  result : Option (ResourceRef × Json × List ValidationEvidence) := none
  deriving Repr, DecidableEq, Inhabited

namespace Attempt

def update (attempt : Attempt) (change : AttemptUpdate) : Attempt :=
  { attempt with
    state := change.state
    terminalError := change.terminalError.getD attempt.terminalError
    replacedByAttemptId := change.replacedByAttemptId <|> attempt.replacedByAttemptId
    resultRef := (change.result.map fun result => result.1) <|> attempt.resultRef
    value := (change.result.map fun result => result.2.1).getD attempt.value
    validationEvidence := (change.result.map fun result => result.2.2).getD
      attempt.validationEvidence }

@[simp]
theorem update_attemptId (attempt : Attempt) (change : AttemptUpdate) :
    (attempt.update change).attemptId = attempt.attemptId := rfl

@[simp]
theorem update_nodeId (attempt : Attempt) (change : AttemptUpdate) :
    (attempt.update change).nodeId = attempt.nodeId := rfl

@[simp]
theorem update_executionEpoch (attempt : Attempt) (change : AttemptUpdate) :
    (attempt.update change).executionEpoch = attempt.executionEpoch := rfl

@[simp]
theorem update_state (attempt : Attempt) (change : AttemptUpdate) :
    (attempt.update change).state = change.state := rfl

end Attempt

/-- The elementary updates of a record.  Attempts and nodes are addressed by their position: both
lists only grow, so a position is the identity of the list's element.  Packages are addressed in the
same way, and `putActivation` takes the place of the activation of its package and Slave.
`failActive` and `releaseNodes` are the loops over all attempts and over all nodes, which no await
interrupts. -/
inductive RecordWrite where
  | transition (event : RunEvent) (reason : Option Json)
  | setOutcome (outcome : Option Dict)
  | appendEvent (event : Event)
  | setDraft (version : ClosureVersion)
  | setCommitted (version : ClosureVersion)
  | setExecution (executionId : Option String) (executionEpoch : Nat)
  | appendAttempt (attempt : Attempt)
  | updateAttempt (index : Nat) (change : AttemptUpdate)
  | failActive (nodeId attemptId : Option String) (reason : Json)
  | appendNode (node : DynamicNode)
  | setNodeState (index : Nat) (state : NodeState)
  | releaseNodes
  | appendPackage (package : CapabilityPackageVersion)
  | abandonPackage (index : Nat)
  | putActivation (activation : CapabilityPackageActivation)
  deriving Repr, DecidableEq, Inhabited

/-- The attempt belongs to the node and has the id, where these are given. -/
def Attempt.matches (attempt : Attempt) (nodeId attemptId : Option String) : Bool :=
  (nodeId = none ∨ attempt.nodeId = nodeId) ∧
    (attemptId = none ∨ some attempt.attemptId = attemptId)

/-- Mark an active attempt that matches as failed. -/
def Attempt.failIfActive (attempt : Attempt) (nodeId attemptId : Option String) (reason : Json) :
    Attempt :=
  if attempt.matches nodeId attemptId ∧ attempt.state.isActive then
    attempt.update { state := .failed, terminalError := some reason }
  else
    attempt

/-- Put a dispatched node back to `accepted`. -/
def DynamicNode.release (node : DynamicNode) : DynamicNode :=
  if node.state = .dispatched then { node with state := .accepted } else node

/-- The activations are of one package version on one Slave. -/
def CapabilityPackageActivation.sameSlot (item activation : CapabilityPackageActivation) : Bool :=
  item.packageVersionRef = activation.packageVersionRef ∧
    item.targetSlave = activation.targetSlave

namespace RecordWrite

/-- The effect of an update.  `transition` is performed only where `_transition` allows it. -/
def apply (update : RecordWrite) (record : RunRecord) : RunRecord :=
  match update with
  | .transition event reason =>
      match record.transitionTarget event with
      | some target =>
          { record with
            state := target
            events := record.events ++ [.runTransition event record.state target reason] }
      | none => record
  | .setOutcome outcome => { record with outcome }
  | .appendEvent event => { record with events := record.events ++ [event] }
  | .setDraft version => { record with draft := version }
  | .setCommitted version => { record with committed := some version }
  | .setExecution executionId executionEpoch => { record with executionId, executionEpoch }
  | .appendAttempt attempt => { record with attempts := record.attempts ++ [attempt] }
  | .updateAttempt index change =>
      { record with attempts := record.attempts.modify index fun attempt => attempt.update change }
  | .failActive nodeId attemptId reason =>
      { record with
        attempts := record.attempts.map fun attempt =>
          attempt.failIfActive nodeId attemptId reason }
  | .appendNode node => { record with dynamicNodes := record.dynamicNodes ++ [node] }
  | .setNodeState index state =>
      { record with
        dynamicNodes := record.dynamicNodes.modify index fun node => { node with state } }
  | .releaseNodes => { record with dynamicNodes := record.dynamicNodes.map DynamicNode.release }
  | .appendPackage package =>
      { record with capabilityPackages := record.capabilityPackages ++ [package] }
  | .abandonPackage index =>
      { record with
        capabilityPackages := record.capabilityPackages.modify index fun package =>
          { package with publicationState := .abandoned } }
  | .putActivation activation =>
      { record with
        capabilityActivations :=
          (record.capabilityActivations.filter fun item => !item.sameSlot activation) ++
            [activation] }

end RecordWrite

end Loom
