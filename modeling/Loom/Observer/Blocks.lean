import Loom.Observer.LifecycleBlocks
import Loom.Observer.NodeBlocks
import Loom.Observer.NodeResultBlocks
import Loom.Observer.PatchBlocks
import Loom.Observer.ResultBlocks

/-!
# The segments of every call
-/

namespace Loom

open Coroutine
open Prog (Does)

variable {env : Env} {ok : (query : Query) → Answer query → Prop} {rely : Repo → Repo → Prop}

/-- Every segment of every call is one of its blocks. -/
theorem Call.does (tolerant : Tolerant rely) (call : Call) (state : Repo) :
    Does ok rely (Block env ok rely call) (call.prog env) ⟨none, state⟩ [] := by
  cases call with
  | openRun args => exact Does.map_iff.2 (Op.openRun_does args state)
  | appendMessage runId role content requestId =>
      exact Does.map_iff.2 (Op.appendMessage_does runId role content requestId state)
  | recordAgentSignal runId kind payload =>
      exact Does.map_iff.2 (Op.recordAgentSignal_does runId kind payload state)
  | beginRefinement runId => exact Does.map_iff.2 (Op.beginRefinement_does runId state)
  | inspectReadiness runId versionId =>
      exact Does.map_iff.2 (Op.inspectReadiness_does tolerant runId versionId state)
  | applyPatch runId base digest operationId operations =>
      exact Does.map_iff.2 (Op.applyPatch_does tolerant state)
  | commit runId versionId digest =>
      exact Does.map_iff.2 (Op.commit_does tolerant runId versionId digest state)
  | start runId versionId => exact Does.map_iff.2 (Op.start_does tolerant runId versionId state)
  | recordResult runId result =>
      exact Does.map_iff.2 (Op.recordResult_does tolerant runId result state)
  | acceptNodeIntent runId intent target =>
      exact Does.map_iff.2 (Op.acceptNodeIntent_does tolerant runId intent target state)
  | dispatchDynamicNode runId nodeId target =>
      exact Does.map_iff.2 (Op.dispatchDynamicNode_does tolerant runId nodeId target state)
  | reassignDynamicNode args =>
      exact Does.map_iff.2 (Op.reassignDynamicNode_does tolerant args state)
  | recordDynamicNodeResult runId nodeId result =>
      exact Does.map_iff.2 (Op.recordDynamicNodeResult_does tolerant runId nodeId result state)
  | failDynamicNode runId nodeId attemptId error =>
      exact Does.map_iff.2 (Op.failDynamicNode_does runId nodeId attemptId error state)
  | completeOrchestration runId finalRef =>
      exact Does.map_iff.2 (Op.completeOrchestration_does tolerant runId finalRef state)
  | cancelRun runId reason => exact Does.map_iff.2 (Op.cancelRun_does runId reason state)
  | failRun runId reason => exact Does.map_iff.2 (Op.failRun_does runId reason state)
  | resolveRun runId decision => exact Does.map_iff.2 (Op.resolveRun_does runId decision state)
  | closeRun runId => exact Does.map_iff.2 (Op.closeRun_does runId state)
  | recoverStaleRuns owners =>
      exact Does.map_iff.2 (Op.recoverStaleRuns_does tolerant owners state)

end Loom
