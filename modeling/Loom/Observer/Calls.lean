import Loom.Observer.Completion

/-!
# Calls

The operations of the Observer as one type of calls, and the program of each call.
-/

namespace Loom

open Coroutine

/-- A call of an operation with its arguments. -/
inductive Call where
  | openRun (args : OpenArgs)
  | appendMessage (runId role content : String) (requestId : Option String)
  | recordAgentSignal (runId kind : String) (payload : Json)
  | beginRefinement (runId : String)
  | inspectReadiness (runId : String) (versionId : Option String)
  | applyPatch (runId baseDraftVersion baseSnapshotDigest operationId : String)
      (operations : List Dict)
  | commit (runId versionId digest : String)
  | start (runId versionId : String)
  | recordResult (runId : String) (result : Dict)
  | acceptNodeIntent (runId : String) (intent : NodeIntent) (selectedTarget : String)
  | dispatchDynamicNode (runId nodeId target : String)
  | reassignDynamicNode (args : ReassignArgs)
  | recordDynamicNodeResult (runId nodeId : String) (result : Json)
  | failDynamicNode (runId nodeId : String) (attemptId : Option String) (error : Option Json)
  | completeOrchestration (runId : String) (finalRef : ResourceRef)
  | cancelRun (runId : String) (reason : Json)
  | failRun (runId : String) (reason : Json)
  | resolveRun (runId decision : String)
  | closeRun (runId : String)
  | recoverStaleRuns (owners : List String)
  deriving Repr, DecidableEq, Inhabited

/-- What a call returns. -/
inductive Reply where
  | run (address : Nat)
  | event (event : Event)
  | readiness (readiness : Readiness)
  | receipt (receipt : PatchReceipt)
  | version (version : ClosureVersion)
  | started (started : Op.Started)
  | node (node : DynamicNode)
  | attempt (attempt : Attempt)
  | recovered (addresses : List Nat)

namespace Call

/-- The run that a call names. -/
def runId? : Call → Option String
  | .openRun _ | .recoverStaleRuns _ => none
  | .appendMessage runId _ _ _ | .recordAgentSignal runId _ _ | .beginRefinement runId
  | .inspectReadiness runId _ | .applyPatch runId _ _ _ _ | .commit runId _ _ | .start runId _
  | .recordResult runId _ | .acceptNodeIntent runId _ _ | .dispatchDynamicNode runId _ _
  | .recordDynamicNodeResult runId _ _ | .failDynamicNode runId _ _ _
  | .completeOrchestration runId _ | .cancelRun runId _ | .failRun runId _ | .resolveRun runId _
  | .closeRun runId => some runId
  | .reassignDynamicNode args => some args.runId

/-- The program of a call. -/
def prog (env : Env) : Call → Op Reply
  | .openRun args => (Op.openRun env args).map .run
  | .appendMessage runId role content requestId =>
      (Op.appendMessage env runId role content requestId).map .event
  | .recordAgentSignal runId kind payload => (Op.recordAgentSignal runId kind payload).map .event
  | .beginRefinement runId => (Op.beginRefinement runId).map .run
  | .inspectReadiness runId versionId => (Op.inspectReadiness env runId versionId).map .readiness
  | .applyPatch runId base digest operationId operations =>
      (Op.applyPatch env runId base digest operationId operations).map .receipt
  | .commit runId versionId digest => (Op.commit env runId versionId digest).map .version
  | .start runId versionId => (Op.start env runId versionId).map .started
  | .recordResult runId result => (Op.recordResult env runId result).map .run
  | .acceptNodeIntent runId intent target =>
      (Op.acceptNodeIntent env runId intent target).map .node
  | .dispatchDynamicNode runId nodeId target =>
      (Op.dispatchDynamicNode env runId nodeId target).map .attempt
  | .reassignDynamicNode args => (Op.reassignDynamicNode env args).map .attempt
  | .recordDynamicNodeResult runId nodeId result =>
      (Op.recordDynamicNodeResult env runId nodeId result).map .node
  | .failDynamicNode runId nodeId attemptId error =>
      (Op.failDynamicNode env runId nodeId attemptId error).map .node
  | .completeOrchestration runId finalRef =>
      (Op.completeOrchestration env runId finalRef).map .run
  | .cancelRun runId reason => (Op.cancelRun runId reason).map .run
  | .failRun runId reason => (Op.failRun runId reason).map .run
  | .resolveRun runId decision => (Op.resolveRun runId decision).map .run
  | .closeRun runId => (Op.closeRun runId).map .run
  | .recoverStaleRuns owners => (Op.recoverStaleRuns owners).map .recovered

end Call

end Loom
