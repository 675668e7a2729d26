import Loom.Observer.Preludes

/-!
# What a segment of an operation can do

`Change` lists, for every operation, the write blocks it has: the updates of one record that a
segment makes, in their order, under the guards that the operation has checked by then.  The
guards speak of two moments: the record as it was loaded (`Site.loaded`) and as it is when the
segment starts (`Site.record`).  They differ when other operations ran in between.

`Block` adds the segments that are not updates of one record: those that touch no record, the
installation of a new run, the copy and the swap of a reassignment, and the segments of a patch.
-/

namespace Loom

open Coroutine

instance : Update RecordWrite RunRecord := ⟨RecordWrite.apply⟩

/-- The writes of a segment that touch a record, install one or store a receipt. -/
def effects (made : List Write) : List Write := made.filter fun write => !write.isMinor

/-- The event is neither a transition nor one of those that say what became of a node. -/
def Event.isLight : Event → Bool
  | .runTransition _ _ _ _ | .nodeAccepted _ _ _ _ _ _ _ _ _ _
  | .nodeDispatched _ _ _ _ _ _ _ _ _ | .nodeReassigned _ _ _ _ _ _ _ _ _ _ _ _ _
  | .nodeCompleted _ _ _ _ _ _ _ _ _ _ _ _ _ => false
  | _ => true

/-- Updates of the record at one address. -/
def writesAt (address : Nat) (updates : List RecordWrite) : List Write :=
  updates.map fun update => .record address update

/-- A segment that writes to the record at `address`: the state when the operation loaded that
record, the state when the segment starts, and the uuid counter when it stops. -/
structure Site where
  address : Nat
  before : Repo
  start : Repo
  uuids : Nat

namespace Site

/-- The record as the operation loaded it. -/
def loaded (site : Site) : RunRecord := site.before.heap site.address

/-- The record when the segment starts. -/
def record (site : Site) : RunRecord := site.start.heap site.address

/-- The uuid was drawn in this segment. -/
def Drawn (site : Site) (number : Nat) : Prop :=
  site.start.uuids ≤ number ∧ number < site.uuids

end Site

/-- How a segment with updates ends: at the storage call, or with an exception. -/
inductive Fate where
  | stored
  | raised (error : Exc)
  deriving Repr, DecidableEq, Inhabited

def illegalTransition : Exc := .valueError "illegal_state_transition"

/-- How `record_result` judged the schema of a fenced report. -/
structure Judged (env : Env) (ok : (query : Query) → Answer query → Prop) (record : RunRecord)
    (report : Report) where
  contract : Option IoContract
  schema : Option (ValidationEvidence × List SchemaError)
  contractLoaded : (Op.loadCommittedContract env record).Returns ok (.ok contract)
  schemaObserved : (Op.observeSchema env report contract
    (record.committed.bind fun version => version.snapshot.inputDigest)).Returns ok (.ok schema)

/-- How `record_result` settled a report whose value passed Observer's schema check. -/
structure Settled (env : Env) (ok : (query : Query) → Answer query → Prop) (record : RunRecord)
    (result : Dict) (report : Report) extends Judged env ok record report where
  validator : Option (ValidationEvidence × Option Json)
  terminalState : TerminalState
  terminalError : Json
  evidence : List ValidationEvidence
  schemaPassed : ∀ verdict, schema = some verdict → verdict.2 = []
  validatorObserved : (Op.observeValidator env report contract
    (record.committed.bind fun version => version.snapshot.inputDigest)).Returns ok
      (.ok validator)
  verdict : Op.terminalVerdict result (validator.bind fun verdict => verdict.2) =
    .ok (terminalState, terminalError)

/-- How `record_dynamic_node_result` judged a fenced report. -/
structure NodeSettled (env : Env) (ok : (query : Query) → Answer query → Prop) (runId : String)
    (report : NodeReport) where
  evidence : List ValidationEvidence
  errors : List SchemaError
  resultRef : ResourceRef
  judged : (Op.judgeNode env runId report).Returns ok (.ok (evidence, errors))
  stored : ∃ content, env.canonicalJsonBytes report.value = .ok content ∧
    (Op.contentPut env content "application/json").Returns ok (.ok resultRef)

namespace NodeSettled

variable {env : Env} {ok : (query : Query) → Answer query → Prop} {runId : String}
  {report : NodeReport}

def terminalState (settled : NodeSettled env ok runId report) : TerminalState :=
  (Op.nodeVerdict report settled.errors).1

def terminalError (settled : NodeSettled env ok runId report) : Json :=
  (Op.nodeVerdict report settled.errors).2

/-- The update of the attempt that a node report settles. -/
def attemptUpdate (settled : NodeSettled env ok runId report) : AttemptUpdate :=
  { state := settled.terminalState.attemptState, terminalError := some settled.terminalError
    result := some (settled.resultRef, report.value, settled.evidence) }

end NodeSettled

/-- How `complete_orchestration` judged the final value.  The lineage was read in the state
`middle`, after the final value was loaded and before the validator ran. -/
structure Final (env : Env) (ok : (query : Query) → Answer query → Prop)
    (rely : Repo → Repo → Prop) (site : Site) (finalRef : ResourceRef) where
  contractRef : ResourceRef
  value : FinalValue
  middle : Repo
  provenance : Provenance
  digest : String
  errors : List SchemaError
  fenced : fenceCompletion site.loaded = .ok contractRef
  loaded : (Op.loadFinal env finalRef contractRef).Returns ok (.ok value)
  digested : ∀ final, value.value = some final → env.resultDigest final = .ok digest
  middleAfter : rely site.before middle
  middleBefore : rely middle site.start
  validated : (Op.validateFinal env value (value.errors ++
    (if value.value.isSome then
      finalRefErrors finalRef digest ((middle.heap site.address).lineage provenance)
    else []))).Returns ok (.ok errors)

/-- The lineage that `complete_orchestration` read. -/
def Final.lineage {env : Env} {ok : (query : Query) → Answer query → Prop}
    {rely : Repo → Repo → Prop} {site : Site} {finalRef : ResourceRef}
    (final : Final env ok rely site finalRef) : List LineageEntry :=
  (final.middle.heap site.address).lineage final.provenance

/-- The draft that a patch makes of the operations' snapshot. -/
def Site.patched (site : Site) (versionId digest : String) (snapshot : TaskClosure) :
    ClosureVersion :=
  { versionId := "draft-" ++ versionId, closureId := site.record.draft.closureId
    parentVersion := some site.record.draft.versionId, snapshot, snapshotDigest := digest
    patchCursor := site.record.draft.patchCursor + 1 }

/-- The version that `commit` makes of the record's draft. -/
def Site.committed (site : Site) (committedId : String) : ClosureVersion :=
  { site.record.draft with kind := "committed", versionId := "committed-" ++ committedId }

/-- The epoch of the execution that `start` begins. -/
def Site.nextEpoch (site : Site) : Nat :=
  if site.record.executionId = none then 1 else site.record.executionEpoch + 1

/-- The attempt that `dispatch_dynamic_node` appends. -/
def Site.dispatch (site : Site) (env : Env) (number nodeIndex : Nat) (target instanceId : String)
    (agentEpoch : Int) : Attempt :=
  { attemptId := "attempt-" ++ env.hex number
    nodeId := some (site.loaded.dynamicNodes.getD nodeIndex default).nodeId, target
    targetInstanceId := some instanceId, targetAgentEpoch := some agentEpoch
    executionEpoch := site.record.executionEpoch }

/-- The write blocks of the operations: the updates a segment makes to the record it loaded. -/
inductive Change (env : Env) (ok : (query : Query) → Answer query → Prop)
    (rely : Repo → Repo → Prop) (site : Site) : Call → List RecordWrite → Fate → Prop where
  | message {runId role content : String} {requestId : Option String} (messageId : String) :
      Change env ok rely site (.appendMessage runId role content requestId)
        [.appendEvent (.message messageId role content runId
          (if requestId.getD "" = "" then none else requestId))] .stored
  | signal {runId kind : String} {payload : Json} :
      Change env ok rely site (.recordAgentSignal runId kind payload)
        [.appendEvent (.codingAgentSignal runId kind payload)] .stored
  | refined {runId : String} (opened : site.record.state = .opened) :
      Change env ok rely site (.beginRefinement runId)
        [.transition .refinementStarted none] .stored
  | inspected {runId : String} {versionId : Option String} (version : String)
      (readiness : Readiness) :
      Change env ok rely site (.inspectReadiness runId versionId)
        [.appendEvent (.readinessInspected runId version readiness.ready readiness.blockers)]
        .stored
  | cancelled {runId : String} {reason : Json} (live : site.record.state.isTerminal = false) :
      Change env ok rely site (.cancelRun runId reason)
        [.transition .runCancelled (some reason),
          .setOutcome (some (site.record.cancelOutcome reason))] .stored
  | failed {runId : String} {reason : Json}
      (live : site.record.state = .thinking ∨ site.record.state = .running) :
      Change env ok rely site (.failRun runId reason)
        [.transition .runFailed (some reason),
          .setOutcome (some (site.record.failOutcome reason))] .stored
  | closed {runId : String}
      (finished : site.record.state = .completed ∨ site.record.state = .failed ∨
        site.record.state = .cancelled) :
      Change env ok rely site (.closeRun runId)
        [.transition .runClosed none, .appendEvent (.runClosed site.record.executionId)] .stored
  | accepted {runId : String} {outcome : Dict}
      (awaiting : site.record.state = .awaitingDecision)
      (reported : site.record.outcome = some outcome)
      (asked : Dict.get outcome "decision" = .str "attestation") :
      Change env ok rely site (.resolveRun runId "accept")
        [.transition .decisionAccepted none, .setOutcome (some (acceptedOutcome outcome)),
          .appendEvent (.runDecisionResolved "accept" .completed)] .stored
  | abandoned {runId : String} {outcome : Dict}
      (awaiting : site.record.state = .awaitingDecision)
      (reported : site.record.outcome = some outcome) :
      Change env ok rely site (.resolveRun runId "abandon")
        [.transition .decisionAbandoned none, .setOutcome (some (abandonedOutcome outcome)),
          .appendEvent (.runDecisionResolved "abandon" .failed)] .stored
  | replayed {owners : List String} (unowned : owners.contains site.record.runId = false)
      (running : site.record.state = .running) (started : site.record.executionId ≠ none)
      (orchestrated : site.record.isOrchestration) :
      Change env ok rely site (.recoverStaleRuns owners)
        [.setExecution site.record.executionId (site.record.executionEpoch + 1),
          .failActive none none replayReason, .releaseNodes,
          .appendEvent (.runRecovered site.record.runId site.record.executionId replayReason
            (some (site.record.executionEpoch + 1)))] .stored
  | restarted {owners : List String} (unowned : owners.contains site.record.runId = false)
      (stale : site.record.state = .thinking ∨ site.record.state = .running) :
      Change env ok rely site (.recoverStaleRuns owners)
        [.failActive none none site.record.restartReason,
          .transition .runFailed (some site.record.restartReason),
          .setOutcome (some site.record.restartOutcome),
          .appendEvent (.runRecovered site.record.runId site.record.executionId
            site.record.restartReason none)] .stored
  | commitBlocked {runId versionId digest : String} (readiness : Readiness) :
      Change env ok rely site (.commit runId versionId digest)
        [.appendEvent (.readinessInspected runId site.record.draft.versionId readiness.ready
          readiness.blockers)] .stored
  | committed {runId versionId digest : String} (readiness : Readiness) (committedId : String)
      (thinking : site.loaded.state = .thinking)
      (inspected : site.loaded.draft.versionId = versionId ∧
        site.loaded.draft.snapshotDigest = digest)
      (legal : site.record.state = .thinking)
      (evaluated : (Op.evaluateReadiness env site.loaded.draft.snapshot runId).Returns ok
        (.ok readiness)) (isReady : readiness.ready) :
      Change env ok rely site (.commit runId versionId digest)
        [.appendEvent (.readinessInspected runId site.record.draft.versionId readiness.ready
            readiness.blockers),
          .setCommitted (site.committed committedId), .transition .committed none,
          .appendEvent (.committed (site.committed committedId).versionId)] .stored
  | commitLate {runId versionId digest : String} (readiness : Readiness) (committedId : String)
      (thinking : site.loaded.state = .thinking) (illegal : site.record.state ≠ .thinking) :
      Change env ok rely site (.commit runId versionId digest)
        [.appendEvent (.readinessInspected runId site.record.draft.versionId readiness.ready
            readiness.blockers),
          .setCommitted (site.committed committedId)] (.raised illegalTransition)
  | startBlocked {runId versionId : String} (readiness : Readiness)
      (fate : Fate) :
      Change env ok rely site (.start runId versionId)
        [.appendEvent (.readinessInspected runId site.record.closureVersionRef readiness.ready
          readiness.blockers)] fate
  | startedTask {runId versionId : String} (readiness : Readiness) (number attemptNumber : Nat)
      (target : String) (committed : site.loaded.state = .committed)
      (legal : site.record.state = .committed) (ordinary : site.record.isOrchestration = false)
      (budget : site.record.checkAttemptBudget = .ok ())
      (drawn : site.Drawn number) (attemptDrawn : site.Drawn attemptNumber) :
      Change env ok rely site (.start runId versionId)
        [.appendEvent (.readinessInspected runId site.record.closureVersionRef readiness.ready
            readiness.blockers),
          .setExecution (some ("execution-" ++ env.hex number)) site.nextEpoch,
          .setOutcome none, .transition .executionStarted none,
          .appendAttempt { attemptId := "attempt-" ++ env.hex attemptNumber, target
                           executionEpoch := site.nextEpoch },
          .appendEvent (.executionStarted ("execution-" ++ env.hex number) site.nextEpoch)] .stored
  | startedOrchestration {runId versionId : String} (readiness : Readiness) (number : Nat)
      (provenance : Provenance) (committed : site.loaded.state = .committed)
      (legal : site.record.state = .committed) (orchestrated : site.record.isOrchestration)
      (drawn : site.Drawn number) :
      Change env ok rely site (.start runId versionId)
        [.appendEvent (.readinessInspected runId site.record.closureVersionRef readiness.ready
            readiness.blockers),
          .setExecution (some ("execution-" ++ env.hex number)) site.nextEpoch,
          .setOutcome none, .transition .executionStarted none,
          .appendEvent (.executionStarted ("execution-" ++ env.hex number) site.nextEpoch),
          .appendEvent (.orchestrationStarted runId (some ("execution-" ++ env.hex number))
            site.nextEpoch site.record.snapshot.programSystems.packageRef provenance)] .stored
  | startUnresolved {runId versionId : String} (readiness : Readiness) (number : Nat)
      (error : Exc) (committed : site.loaded.state = .committed)
      (legal : site.record.state = .committed) (orchestrated : site.record.isOrchestration)
      (drawn : site.Drawn number) :
      Change env ok rely site (.start runId versionId)
        [.appendEvent (.readinessInspected runId site.record.closureVersionRef readiness.ready
            readiness.blockers),
          .setExecution (some ("execution-" ++ env.hex number)) site.nextEpoch,
          .setOutcome none, .transition .executionStarted none,
          .appendEvent (.executionStarted ("execution-" ++ env.hex number) site.nextEpoch)]
        (.raised error)
  | startLate {runId versionId : String} (readiness : Readiness) (number : Nat)
      (committed : site.loaded.state = .committed) (illegal : site.record.state ≠ .committed) :
      Change env ok rely site (.start runId versionId)
        [.appendEvent (.readinessInspected runId site.record.closureVersionRef readiness.ready
            readiness.blockers),
          .setExecution (some ("execution-" ++ env.hex number)) site.nextEpoch,
          .setOutcome none] (.raised illegalTransition)
  | rejected {runId : String} {result : Dict} {report : Report}
      (fenced : fenceReport env site.loaded result = .ok report)
      (judged : Judged env ok site.loaded report) (evidence : List ValidationEvidence)
      (rejection : ValidationEvidence) (running : site.record.state = .running) :
      Change env ok rely site (.recordResult runId result)
        [.updateAttempt report.attemptIndex { state := .failed },
          .setOutcome (some (repairOutcome (schemaMismatch rejection.errors) evidence result)),
          .transition .runNeedsDecision (some (schemaMismatch rejection.errors)),
          .appendEvent (.resultRecorded .ioSchemaRejected site.record.executionId
            report.attemptId report.executionEpoch (schemaMismatch rejection.errors) .null
            (some rejection.evidenceId))] .stored
  | rejectedLate {runId : String} {result : Dict} {report : Report}
      (fenced : fenceReport env site.loaded result = .ok report)
      (evidence : List ValidationEvidence) (rejection : ValidationEvidence)
      (illegal : site.record.state ≠ .running) :
      Change env ok rely site (.recordResult runId result)
        [.updateAttempt report.attemptIndex { state := .failed },
          .setOutcome (some (repairOutcome (schemaMismatch rejection.errors) evidence result))]
        (.raised illegalTransition)
  | settled {runId : String} {result : Dict} {report : Report}
      (fenced : fenceReport env site.loaded result = .ok report)
      (settled : Settled env ok site.loaded result report) (reason : Option Json)
      (phase : ResultPhase) (error resourceRef : Json) (evidenceId : Option String)
      (running : site.record.state = .running) :
      Change env ok rely site (.recordResult runId result)
        [.updateAttempt report.attemptIndex { state := settled.terminalState.attemptState },
          .setOutcome (some (resultOutcome settled.terminalState settled.terminalError
            settled.evidence result)),
          .transition settled.terminalState.runEvent reason,
          .appendEvent (.resultRecorded phase site.record.executionId report.attemptId
            report.executionEpoch error resourceRef evidenceId)] .stored
  | settledUnreadable {runId : String} {result : Dict} {report : Report}
      (fenced : fenceReport env site.loaded result = .ok report)
      (settled : Settled env ok site.loaded result report) (reason : Option Json) (error : Exc)
      (failed : settled.terminalState = .failed)
      (unreadable : failedPhase settled.terminalError = .error error)
      (running : site.record.state = .running) :
      Change env ok rely site (.recordResult runId result)
        [.updateAttempt report.attemptIndex { state := .failed },
          .setOutcome (some (resultOutcome .failed settled.terminalError settled.evidence result)),
          .transition .runNeedsDecision reason] (.raised error)
  | settledLate {runId : String} {result : Dict} {report : Report}
      (fenced : fenceReport env site.loaded result = .ok report)
      (settled : Settled env ok site.loaded result report)
      (illegal : site.record.state ≠ .running) :
      Change env ok rely site (.recordResult runId result)
        [.updateAttempt report.attemptIndex { state := settled.terminalState.attemptState },
          .setOutcome (some (resultOutcome settled.terminalState settled.terminalError
            settled.evidence result))] (.raised illegalTransition)
  | requested {runId target : String} {intent : NodeIntent} (provenance : Provenance)
      (running : site.record.state = .running)
      (execution : site.record.executionId = some intent.executionId) :
      Change env ok rely site (.acceptNodeIntent runId intent target)
        [.appendEvent (.nodeRequested runId site.record.executionId site.record.executionEpoch
          intent provenance)] .stored
  | installed {runId target : String} {intent : NodeIntent} (limits : OrchestrationLimits)
      (middle : Repo) (executionId selected : String) (provenance : Provenance)
      (running : site.loaded.state = .running)
      (execution : site.loaded.executionId = some intent.executionId)
      (orchestrated : site.loaded.isOrchestration)
      (middleAfter : rely site.before middle) (middleBefore : rely middle site.start)
      (unknown : (middle.heap site.address).nodeOfIntent intent.intentId = none)
      (limited : site.record.checkNodeLimits limits = .ok ())
      (current : site.record.executionId = some executionId) :
      Change env ok rely site (.acceptNodeIntent runId intent target)
        [.appendNode (intent.node executionId (site.record.dynamicNodes.length + 1)),
          .appendEvent (.nodeAccepted runId site.record.executionId site.record.executionEpoch
            (intent.node executionId (site.record.dynamicNodes.length + 1)).nodeId
            intent.intentId intent.packageRef intent.capabilityDescriptorRef intent.inputRefs
            selected provenance)] .stored
  | installUnresolved {runId target : String} {intent : NodeIntent} (limits : OrchestrationLimits)
      (middle : Repo) (executionId : String) (error : Exc)
      (running : site.loaded.state = .running)
      (execution : site.loaded.executionId = some intent.executionId)
      (orchestrated : site.loaded.isOrchestration)
      (middleAfter : rely site.before middle) (middleBefore : rely middle site.start)
      (unknown : (middle.heap site.address).nodeOfIntent intent.intentId = none)
      (limited : site.record.checkNodeLimits limits = .ok ())
      (current : site.record.executionId = some executionId) :
      Change env ok rely site (.acceptNodeIntent runId intent target)
        [.appendNode (intent.node executionId (site.record.dynamicNodes.length + 1))]
        (.raised error)
  | dispatched {runId nodeId target : String} (nodeIndex number : Nat) (normalized : String)
      (instanceId : String) (agentEpoch : Int) (provenance : Provenance)
      (running : site.loaded.state = .running)
      (found : firstIndex? (fun node => node.nodeId = nodeId) site.loaded.dynamicNodes =
        some nodeIndex)
      (accepted : (site.loaded.dynamicNodes.getD nodeIndex default).state = .accepted)
      (budget : site.record.checkAttemptBudget = .ok ()) (drawn : site.Drawn number) :
      Change env ok rely site (.dispatchDynamicNode runId nodeId target)
        [.appendAttempt (site.dispatch env number nodeIndex normalized instanceId agentEpoch),
          .setNodeState nodeIndex .dispatched,
          .appendEvent (.nodeDispatched runId site.record.executionId site.record.executionEpoch
            (site.loaded.dynamicNodes.getD nodeIndex default).nodeId
            (site.dispatch env number nodeIndex normalized instanceId agentEpoch)
            (site.loaded.dynamicNodes.getD nodeIndex default).packageRef
            (site.loaded.dynamicNodes.getD nodeIndex default).capabilityDescriptorRef
            (site.loaded.dynamicNodes.getD nodeIndex default).inputRefs provenance)] .stored
  | dispatchUnresolved {runId nodeId target : String} (nodeIndex number : Nat)
      (normalized : String) (instanceId : String) (agentEpoch : Int) (error : Exc)
      (unresolved : site.start.provenance env site.record none = .error error)
      (running : site.loaded.state = .running)
      (found : firstIndex? (fun node => node.nodeId = nodeId) site.loaded.dynamicNodes =
        some nodeIndex)
      (accepted : (site.loaded.dynamicNodes.getD nodeIndex default).state = .accepted)
      (budget : site.record.checkAttemptBudget = .ok ()) (drawn : site.Drawn number) :
      Change env ok rely site (.dispatchDynamicNode runId nodeId target)
        [.appendAttempt (site.dispatch env number nodeIndex normalized instanceId agentEpoch),
          .setNodeState nodeIndex .dispatched] (.raised error)
  | nodeCompleted {runId nodeId : String} {result : Json} {report : NodeReport}
      (fenced : fenceNodeReport env site.loaded nodeId result = .ok report)
      (settled : NodeSettled env ok runId report) (provenance : Provenance)
      (completed : settled.terminalState = .completed) :
      Change env ok rely site (.recordDynamicNodeResult runId nodeId result)
        [.updateAttempt report.attemptIndex settled.attemptUpdate,
          .setNodeState report.nodeIndex settled.terminalState.nodeState,
          .appendEvent (.nodeCompleted runId site.record.executionId report.node.nodeId
            (some report.attempt.attemptId) (some report.attempt.target) report.executionEpoch
            report.node.packageRef report.node.inputRefs (some settled.resultRef)
            settled.terminalState settled.terminalError settled.evidence provenance)] .stored
  | nodeCompletedUnresolved {runId nodeId : String} {result : Json} {report : NodeReport}
      (fenced : fenceNodeReport env site.loaded nodeId result = .ok report)
      (settled : NodeSettled env ok runId report) (error : Exc)
      (completed : settled.terminalState = .completed)
      (unresolved : site.start.provenance env site.record none = .error error) :
      Change env ok rely site (.recordDynamicNodeResult runId nodeId result)
        [.updateAttempt report.attemptIndex settled.attemptUpdate,
          .setNodeState report.nodeIndex settled.terminalState.nodeState] (.raised error)
  | nodeUndecided {runId nodeId : String} {result : Json} {report : NodeReport}
      (fenced : fenceNodeReport env site.loaded nodeId result = .ok report)
      (settled : NodeSettled env ok runId report) (provenance : Provenance)
      (reason : Option Json) (undecided : settled.terminalState ≠ .completed)
      (running : site.record.state = .running) :
      Change env ok rely site (.recordDynamicNodeResult runId nodeId result)
        [.updateAttempt report.attemptIndex settled.attemptUpdate,
          .setNodeState report.nodeIndex settled.terminalState.nodeState,
          .setOutcome (some (Op.nodeOutcome report site.record settled.resultRef
            settled.terminalState settled.terminalError)),
          .transition .runNeedsDecision reason,
          .appendEvent (.nodeCompleted runId site.record.executionId report.node.nodeId
            (some report.attempt.attemptId) (some report.attempt.target) report.executionEpoch
            report.node.packageRef report.node.inputRefs (some settled.resultRef)
            settled.terminalState settled.terminalError settled.evidence provenance)] .stored
  | nodeUndecidedUnresolved {runId nodeId : String} {result : Json} {report : NodeReport}
      (fenced : fenceNodeReport env site.loaded nodeId result = .ok report)
      (settled : NodeSettled env ok runId report) (reason : Option Json) (error : Exc)
      (undecided : settled.terminalState ≠ .completed)
      (running : site.record.state = .running)
      (unresolved : site.start.provenance env site.record none = .error error) :
      Change env ok rely site (.recordDynamicNodeResult runId nodeId result)
        [.updateAttempt report.attemptIndex settled.attemptUpdate,
          .setNodeState report.nodeIndex settled.terminalState.nodeState,
          .setOutcome (some (Op.nodeOutcome report site.record settled.resultRef
            settled.terminalState settled.terminalError)),
          .transition .runNeedsDecision reason] (.raised error)
  | nodeLate {runId nodeId : String} {result : Json} {report : NodeReport}
      (fenced : fenceNodeReport env site.loaded nodeId result = .ok report)
      (settled : NodeSettled env ok runId report)
      (undecided : settled.terminalState ≠ .completed) (illegal : site.record.state ≠ .running) :
      Change env ok rely site (.recordDynamicNodeResult runId nodeId result)
        [.updateAttempt report.attemptIndex settled.attemptUpdate,
          .setNodeState report.nodeIndex settled.terminalState.nodeState,
          .setOutcome (some (Op.nodeOutcome report site.record settled.resultRef
            settled.terminalState settled.terminalError))] (.raised illegalTransition)
  | nodeFailed {runId nodeId : String} {attemptId : Option String} {error : Option Json}
      (nodeIndex : Nat) (target : Option String) (provenance : Provenance)
      (found : firstIndex? (fun node => node.nodeId = nodeId) site.record.dynamicNodes =
        some nodeIndex) (isObject : isErrorObject error)
      (current : site.record.canFailAttempt nodeId attemptId)
      (running : site.record.state = .running) :
      Change env ok rely site (.failDynamicNode runId nodeId attemptId error)
        [.setNodeState nodeIndex .failed,
          .failActive (some nodeId) attemptId (failureReason error),
          .transition .runNeedsDecision (some (failureReason error)),
          .setOutcome (some (site.record.nodeFailureOutcome (failureReason error))),
          .appendEvent (.nodeCompleted runId site.record.executionId nodeId attemptId target
            site.record.executionEpoch (site.record.dynamicNodes.getD nodeIndex default).packageRef
            (site.record.dynamicNodes.getD nodeIndex default).inputRefs none .failed
            (failureReason error) [] provenance),
          .appendEvent (.orchestrationFailed runId site.record.executionId
            site.record.executionEpoch (some nodeId) (failureReason error) provenance)] .stored
  | nodeFailedUnresolved {runId nodeId : String} {attemptId : Option String}
      {error : Option Json} (nodeIndex : Nat) (unknown : Exc)
      (found : firstIndex? (fun node => node.nodeId = nodeId) site.record.dynamicNodes =
        some nodeIndex) (isObject : isErrorObject error)
      (current : site.record.canFailAttempt nodeId attemptId)
      (running : site.record.state = .running)
      (unresolved : site.start.provenance env site.record none = .error unknown) :
      Change env ok rely site (.failDynamicNode runId nodeId attemptId error)
        [.setNodeState nodeIndex .failed,
          .failActive (some nodeId) attemptId (failureReason error),
          .transition .runNeedsDecision (some (failureReason error)),
          .setOutcome (some (site.record.nodeFailureOutcome (failureReason error)))]
        (.raised unknown)
  | nodeFailedLate {runId nodeId : String} {attemptId : Option String} {error : Option Json}
      (nodeIndex : Nat)
      (found : firstIndex? (fun node => node.nodeId = nodeId) site.record.dynamicNodes =
        some nodeIndex) (isObject : isErrorObject error)
      (current : site.record.canFailAttempt nodeId attemptId)
      (illegal : site.record.state ≠ .running) :
      Change env ok rely site (.failDynamicNode runId nodeId attemptId error)
        [.setNodeState nodeIndex .failed,
          .failActive (some nodeId) attemptId (failureReason error)] (.raised illegalTransition)
  | finalRejected {runId : String} {finalRef : ResourceRef}
      (final : Final env ok rely site finalRef) (rejected : final.errors ≠ [])
      (running : site.record.state = .running) :
      Change env ok rely site (.completeOrchestration runId finalRef)
        [.transition .runNeedsDecision (some (completionError final.errors)),
          .setOutcome (some (site.record.finalRepair final.errors final.provenance)),
          .appendEvent (.orchestrationFailed runId site.record.executionId
            site.record.executionEpoch none (completionError final.errors) final.provenance)]
        .stored
  | finalUndecided {runId : String} {finalRef : ResourceRef}
      (final : Final env ok rely site finalRef) (valid : final.errors = [])
      (asks : (final.value.contract.map IoContract.asksAttestation).getD false)
      (running : site.record.state = .running) :
      Change env ok rely site (.completeOrchestration runId finalRef)
        [.transition .runNeedsDecision none,
          .setOutcome (some (site.record.finalAttestation finalRef
            (final.value.value.getD .null) final.provenance)),
          .appendEvent (.orchestrationDecisionRequired runId site.record.executionId
            site.record.executionEpoch finalRef final.provenance)] .stored
  | finalCompleted {runId : String} {finalRef : ResourceRef}
      (final : Final env ok rely site finalRef) (valid : final.errors = [])
      (asksNot : (final.value.contract.map IoContract.asksAttestation).getD false = false)
      (running : site.record.state = .running) :
      Change env ok rely site (.completeOrchestration runId finalRef)
        [.transition .runSucceeded none,
          .setOutcome (some (site.record.finalOutcome finalRef
            (final.value.value.getD .null) final.lineage final.provenance)),
          .appendEvent (.orchestrationCompleted runId site.record.executionId
            site.record.executionEpoch finalRef final.lineage final.provenance)] .stored

/-- The updates that `apply_patch` makes once its operations are through. -/
inductive DraftChange (env : Env) (ok : (query : Query) → Answer query → Prop) (site : Site)
    (operations : List Dict) : List RecordWrite → Prop where
  | refined (number : Nat) (digest : String) (snapshot : TaskClosure)
      (applied : (Op.applyOperations env site.address operations
        site.loaded.draft.snapshot).Returns ok (.ok snapshot))
      (drawn : site.Drawn number) (thinking : site.loaded.state = .thinking) :
      DraftChange env ok site operations
        [.setDraft (site.patched (env.hex number) digest snapshot)]
  | begun (number : Nat) (digest : String) (snapshot : TaskClosure)
      (applied : (Op.applyOperations env site.address operations
        site.loaded.draft.snapshot).Returns ok (.ok snapshot))
      (drawn : site.Drawn number) (opened : site.loaded.state = .opened)
      (legal : site.record.transitionTarget .refinementStarted ≠ none) :
      DraftChange env ok site operations
        [.setDraft (site.patched (env.hex number) digest snapshot),
          .transition .refinementStarted none]
  | repaired (number : Nat) (digest : String) (snapshot : TaskClosure)
      (applied : (Op.applyOperations env site.address operations
        site.loaded.draft.snapshot).Returns ok (.ok snapshot))
      (drawn : site.Drawn number) (awaiting : site.loaded.state = .awaitingDecision)
      (legal : site.record.transitionTarget .refinementStarted ≠ none) :
      DraftChange env ok site operations
        [.setDraft (site.patched (env.hex number) digest snapshot),
          .transition .refinementStarted none, .setOutcome none]
  | late (number : Nat) (digest : String) (snapshot : TaskClosure)
      (applied : (Op.applyOperations env site.address operations
        site.loaded.draft.snapshot).Returns ok (.ok snapshot))
      (drawn : site.Drawn number)
      (undecided : site.loaded.state = .opened ∨ site.loaded.state = .awaitingDecision)
      (illegal : site.record.transitionTarget .refinementStarted = none) :
      DraftChange env ok site operations
        [.setDraft (site.patched (env.hex number) digest snapshot)]

namespace Site

/-- The site belongs to a segment of a call: the call loaded the record at this address, and
either nothing was awaited since, or the environment moved along `rely` at a service await.
A recovery names no run and checks each record in the segment that writes to it. -/
structure Place (site : Site) (rely : Repo → Repo → Prop) (call : Call)
    (origin : Origin Repo Query) (made : List Write) : Prop where
  start : site.start = origin.start
  uuids : site.uuids = (applyAll made origin.start).uuids
  loaded : ∀ runId, call.runId? = some runId → site.before.address? runId = some site.address
  since : (site.before = site.start ∧
      (call.runId? = none ∨ ∃ runId, origin.query = some (.load runId))) ∨
    (rely site.before site.start ∧ ∃ query, origin.query = some query ∧ query.isService)

/-- Where a segment with updates stops. -/
def stop (site : Site) (updates : List RecordWrite) : Fate → Stop Exc Query Reply
  | .stored => .awaits (.persist (applyAll updates site.record))
  | .raised error => .raises error

end Site

/-- The operations with one write block: after its storage call they only return or raise. -/
def Call.isSingle : Call → Bool
  | .openRun _ | .applyPatch _ _ _ _ _ | .acceptNodeIntent _ _ _ | .reassignDynamicNode _
  | .recoverStaleRuns _ => false
  | _ => true

/-- The operations that raise after their storage call only where storage raises. -/
def Call.storesLast : Call → Bool
  | .recordResult _ _ | .recordDynamicNodeResult _ _ _ | .failDynamicNode _ _ _ _ => true
  | _ => false

def Call.isPatch : Call → Bool
  | .applyPatch _ _ _ _ _ => true
  | _ => false

/-- The segment stops at the storage of a record. -/
def stopsAtStorage {α : Type} : Stop Exc Query α → Bool
  | .awaits (.persist _) => true
  | _ => false

/-- How a segment that touches no record ends. -/
structure Silent (ok : (query : Query) → Answer query → Prop) (call : Call)
    (origin : Origin Repo Query) {α : Type} (stop : Stop Exc Query α) : Prop where
  unasked : call.isPatch = false → stopsAtStorage stop = false
  final : call.isSingle → ∀ record, origin.query = some (.persist record) → stop.isFinal
  stored : call.storesLast → ∀ record error, origin.query = some (.persist record) →
    stop = .raises error → ok (.persist record) (.error error)

/-- The attempt that replaces a lost one. -/
def Site.replacement (site : Site) (env : Env) (number : Nat) (args : ReassignArgs)
    (lost : Attempt) (target instanceId : String) (agentEpoch : Int) : Attempt :=
  { attemptId := "attempt-" ++ env.hex number, nodeId := some args.nodeId, target
    targetInstanceId := some instanceId, targetAgentEpoch := some agentEpoch
    executionEpoch := site.record.executionEpoch, replacesAttemptId := some lost.attemptId }

/-- A reassignment that copies the record: what it has found and checked.  The attempt budget was
checked in the state `middle`, before the Slaves were refreshed. -/
structure Reassignment (env : Env) (rely : Repo → Repo → Prop) (site : Site)
    (args : ReassignArgs) where
  node : DynamicNode
  lost : Attempt
  lease : Json
  replaySafety : String
  attemptIndex : Nat
  nodeIndex : Nat
  number : Nat
  target : String
  instanceId : String
  agentEpoch : Int
  middle : Repo
  fenced : fenceReassign site.loaded args = .ok (.lost node lost)
  middleAfter : rely site.before middle
  middleBefore : rely middle site.start
  budget : (middle.heap site.address).checkAttemptBudget = .ok ()
  attemptFound : firstIndex? (fun attempt => attempt.attemptId = args.lostAttemptId)
    site.record.attempts = some attemptIndex
  nodeFound : firstIndex? (fun node => node.nodeId = args.nodeId)
    site.record.dynamicNodes = some nodeIndex
  drawn : site.Drawn number
  elsewhere : target ≠ lost.target

namespace Reassignment

variable {env : Env} {rely : Repo → Repo → Prop} {site : Site} {args : ReassignArgs}

def replacement (move : Reassignment env rely site args) : Attempt :=
  site.replacement env move.number args move.lost move.target move.instanceId move.agentEpoch

/-- The updates that a reassignment makes to its copy of the record. -/
def updates (move : Reassignment env rely site args) : List RecordWrite :=
  [.updateAttempt move.attemptIndex
      { state := .lost
        terminalError := some (.obj [("code", .str "worker_lost"), ("lease_state", move.lease)])
        replacedByAttemptId := some move.replacement.attemptId },
    .appendAttempt move.replacement, .setNodeState move.nodeIndex .dispatched,
    .appendEvent (.nodeReassigned args.runId site.record.executionId site.record.executionEpoch
      args.nodeId args.lostAttemptId move.replacement.attemptId move.lost.target
      move.replacement.target args.reason move.lease move.node.packageRef move.replaySafety
      move.node.inputRefs)]

end Reassignment

/-- The writes that conclude a patch: its receipt, and light events. -/
def IsReceipt (operationId : String) (address : Nat) (writes : List Write) : Prop :=
  ∃ (receipt : PatchReceipt) (events : List Event),
    (∀ event ∈ events, event.isLight) ∧
    writes = .storeReceipt operationId receipt :: writesAt address (events.map .appendEvent)

/-- The id that `open_run` gives a run when so many uuids are drawn. -/
def OpenArgs.newRunId (args : OpenArgs) (env : Env) (uuids : Nat) : String :=
  match args.runId with
  | some runId => if runId = "" then "run-" ++ env.hex uuids else runId
  | none => "run-" ++ env.hex uuids

/-- What a segment of a call can do. -/
inductive Block (env : Env) (ok : (query : Query) → Answer query → Prop)
    (rely : Repo → Repo → Prop) (call : Call) (origin : Origin Repo Query) (made : List Write)
    (stop : Stop Exc Query Reply) : Prop where
  | quiet (untouched : effects made = []) (silent : Silent ok call origin stop)
  | change (site : Site) (updates : List RecordWrite) (fate : Fate)
      (place : site.Place rely call origin made)
      (writes : effects made = writesAt site.address updates)
      (ends : stop = site.stop updates fate)
      (change : Change env ok rely site call updates fate)
  | opened (args : OpenArgs) (record : RunRecord) (contract : ClosureContract)
      (isOpen : call = .openRun args) (first : origin.query = none)
      (writes : effects made = [.alloc record, .install record.runId origin.start.next])
      (named : record.runId = args.newRunId env origin.start.uuids)
      (contracted : args.contract = .ok contract)
      (isNew : ∃ createdAt, record = args.newRecord record.runId contract record.draft createdAt)
      (ends : stop = .awaits (.persist record)) (number : Nat)
      (drawn : origin.start.uuids ≤ number ∧ number < (applyAll made origin.start).uuids)
      (drafted : record.draft.versionId = "draft-" ++ env.hex number)
      (body : record.draft.snapshot = contract.body)
  | copied (site : Site) (args : ReassignArgs) (move : Reassignment env rely site args)
      (isReassign : call = .reassignDynamicNode args)
      (place : site.Place rely call origin made)
      (writes : effects made = .alloc site.record :: writesAt site.start.next move.updates)
      (ends : stop = .awaits (.persist (applyAll move.updates site.record)))
  | copyFailed (site : Site) (args : ReassignArgs) (error : Exc)
      (isReassign : call = .reassignDynamicNode args)
      (place : site.Place rely call origin made)
      (writes : effects made = [.alloc site.record]) (ends : stop = .raises error)
  | swapped (args : ReassignArgs) (copied : Repo) (copy : RunRecord) (address : Nat)
      (isReassign : call = .reassignDynamicNode args)
      (query : origin.query = some (.persist copy))
      (isCopy : copied.heap address = copy) (allocated : address + 1 = copied.next)
      (moved : rely copied origin.start)
      (writes : effects made = [.install args.runId address])
      (ends : ∃ attempt, stop = .returns (.attempt attempt))
  | patched (site : Site) (runId baseVersion baseDigest operationId : String)
      (operations : List Dict) (packages : List CapabilityPackageVersion)
      (draft : List RecordWrite) (receipt : List Write)
      (isPatch : call = .applyPatch runId baseVersion baseDigest operationId operations)
      (place : site.Place rely call origin made)
      (admitted : site.loaded.draft.versionId = baseVersion ∧
        site.loaded.draft.snapshotDigest = baseDigest)
      (editable : site.loaded.state = .opened ∨ site.loaded.state = .thinking ∨
        site.loaded.state = .awaitingDecision ∧ site.loaded.decision = .str "repair")
      (writes : effects made =
        writesAt site.address (packages.map .appendPackage ++ draft) ++ receipt)
      (drafted : draft = [] ∨ DraftChange env ok site operations draft)
      (concluded : receipt = [] ∨ IsReceipt operationId site.address receipt)
  | concluded (runId baseVersion baseDigest operationId : String) (operations : List Dict)
      (address : Nat) (before middle : Repo) (earlier receipt : List Write)
      (updates : List RecordWrite)
      (isPatch : call = .applyPatch runId baseVersion baseDigest operationId operations)
      (found : before.address? runId = some address) (moved : rely before middle)
      (wrote : effects earlier = writesAt address updates)
      (movedAgain : rely (applyAll earlier middle) origin.start)
      (late : ∃ query, origin.query = some query ∧ query.isService)
      (writes : effects made = receipt) (isReceipt : IsReceipt operationId address receipt)

end Loom
