import Loom.Observer.Completion

/-!
# What the fences of reports guarantee

The checks that an operation makes on the record it has loaded, as facts about that record.
-/

namespace Loom

/-- A position that `firstIndex?` returns holds an element that passes the test. -/
theorem firstIndex?_some {α : Type} {test : α → Bool} {items : List α} {index : Nat}
    (found : firstIndex? test items = some index) :
    ∃ item, items[index]? = some item ∧ test item := by
  unfold firstIndex? at found
  obtain ⟨bound, holds, -⟩ := List.findIdx?_eq_some_iff_getElem.1 found
  exact ⟨items[index], List.getElem?_eq_getElem bound, holds⟩

theorem lastIndex?_some {α : Type} {test : α → Bool} {items : List α} {index : Nat}
    (found : lastIndex? test items = some index) :
    ∃ item, items[index]? = some item ∧ test item := by
  unfold lastIndex? at found
  obtain ⟨position, reversed, rfl⟩ := Option.map_eq_some_iff.1 found
  obtain ⟨bound, holds, -⟩ := List.findIdx?_eq_some_iff_getElem.1 reversed
  rw [List.length_reverse] at bound
  refine ⟨_, List.getElem?_eq_getElem (by omega), ?_⟩
  simpa [List.getElem_reverse] using holds

/-- The facts that `record_result` has checked when it accepts a report. -/
structure Fenced (env : Env) (record : RunRecord) (result : Dict) (report : Report)
    (attempt : Attempt) : Prop where
  running : record.state = .running
  execution : Dict.get result "execution_id" = .ofOption record.executionId
  epoch : (Dict.get result "execution_epoch").toInt? = some (record.executionEpoch : Int)
  found : record.attempts[report.attemptIndex]? = some attempt
  named : Json.str attempt.attemptId = Dict.get result "attempt_id"
  attemptEpoch : attempt.executionEpoch = record.executionEpoch
  active : attempt.state.isActive
  attemptId : report.attemptId = attempt.attemptId
  executionEpoch : report.executionEpoch = record.executionEpoch
  value : result.lookup "value" = some report.value
  digest : env.resultDigest report.value = .ok report.digest

theorem fenceReport_ok {env : Env} {record : RunRecord} {result : Dict} {report : Report}
    (fenced : fenceReport env record result = .ok report) :
    ∃ attempt, Fenced env record result report attempt := by
  simp only [fenceReport, bind, Except.bind] at fenced
  split at fenced
  · cases fenced
  rename_i running
  split at fenced
  · cases fenced
  rename_i attemptIndex found
  obtain ⟨attempt, isAttempt, named⟩ := firstIndex?_some found
  have same : record.attempts.getD attemptIndex default = attempt := by
    rw [List.getD_eq_getElem?_getD, isAttempt]
    rfl
  rw [same] at fenced
  split at fenced
  · cases fenced
  rename_i epoch isEpoch
  split at fenced
  · cases fenced
  rename_i current
  split at fenced
  · cases fenced
  rename_i attemptEpoch
  split at fenced
  · cases fenced
  rename_i active
  split at fenced
  · cases fenced
  rename_i execution
  split at fenced
  · cases fenced
  rename_i value isValue
  split at fenced
  · cases fenced
  split at fenced
  · cases fenced
  rename_i digest isDigest
  split at fenced
  · cases fenced
  split at fenced
  · split at fenced
    · cases fenced
    · cases fenced
      have current : epoch = record.executionEpoch := not_not.1 current
      subst current
      exact ⟨attempt, not_not.1 running, not_not.1 execution, isEpoch, isAttempt,
        by simpa using named, Int.ofNat_inj.1 (not_not.1 attemptEpoch), by simpa using active, rfl,
        rfl, isValue, isDigest⟩
  · cases fenced

/-- The facts that `record_dynamic_node_result` has checked when it accepts a report. -/
structure NodeFenced (env : Env) (record : RunRecord) (nodeId : String) (result : Json)
    (report : NodeReport) : Prop where
  running : record.state = .running
  started : record.executionId ≠ none
  execution : Dict.get result.entries "execution_id" = .ofOption record.executionId
  epoch : (Dict.get result.entries "execution_epoch").toInt? =
    some (record.executionEpoch : Int)
  nodeFound : firstIndex? (fun node => node.nodeId = nodeId) record.dynamicNodes =
    some report.nodeIndex
  node : record.dynamicNodes[report.nodeIndex]? = some report.node
  nodeNamed : report.node.nodeId = nodeId
  found : record.attempts[report.attemptIndex]? = some report.attempt
  named : Json.str report.attempt.attemptId = Dict.get result.entries "attempt_id"
  attemptNode : report.attempt.nodeId = some nodeId
  attemptEpoch : report.attempt.executionEpoch = record.executionEpoch
  active : report.attempt.state.isActive
  executionEpoch : report.executionEpoch = record.executionEpoch
  value : result.entries.lookup "value" = some report.value
  digest : env.resultDigest report.value = .ok report.digest

theorem fenceNodeReport_ok {env : Env} {record : RunRecord} {nodeId : String} {result : Json}
    {report : NodeReport} (fenced : fenceNodeReport env record nodeId result = .ok report) :
    NodeFenced env record nodeId result report := by
  simp only [fenceNodeReport, bind, Except.bind] at fenced
  split at fenced
  · cases fenced
  rename_i running
  have running := not_not.1 running
  split at fenced
  · split at fenced
    · cases fenced
    rename_i entries _ nodeIndex nodeFound
    obtain ⟨node, isNode, nodeNamed⟩ := firstIndex?_some nodeFound
    have sameNode : record.dynamicNodes.getD nodeIndex default = node := by
      rw [List.getD_eq_getElem?_getD, isNode]
      rfl
    rw [sameNode] at fenced
    split at fenced
    · cases fenced
    rename_i execution
    split at fenced
    · cases fenced
    rename_i epoch isEpoch
    split at fenced
    · cases fenced
    rename_i current
    split at fenced
    · cases fenced
    rename_i attemptIndex found
    obtain ⟨attempt, isAttempt, named⟩ := lastIndex?_some found
    have same : record.attempts.getD attemptIndex default = attempt := by
      rw [List.getD_eq_getElem?_getD, isAttempt]
      rfl
    rw [same] at fenced
    split at fenced
    · cases fenced
    rename_i attemptEpoch
    split at fenced
    · cases fenced
    rename_i active
    split at fenced
    · cases fenced
    rename_i value isValue
    split at fenced
    · cases fenced
    split at fenced
    · cases fenced
    rename_i digest isDigest
    split at fenced
    · cases fenced
    rename_i reported _
    have current : epoch = record.executionEpoch := not_not.1 current
    subst current
    have named : Json.str attempt.attemptId = Dict.get entries "attempt_id" ∧
        attempt.nodeId = some nodeId := by simpa using named
    have checked : ∀ evidence terminalError, NodeFenced env record nodeId (.obj entries)
        ⟨nodeIndex, node, attemptIndex, attempt, record.executionEpoch, value, digest, reported,
          terminalError, evidence⟩ :=
      fun evidence terminalError => ⟨running.1, running.2, not_not.1 execution, isEpoch, nodeFound,
        isNode, by simpa using nodeNamed, isAttempt, named.1, named.2,
        Int.ofNat_inj.1 (not_not.1 attemptEpoch), by simpa using active, rfl, isValue, isDigest⟩
    split at fenced
    · cases fenced
      exact checked _ _
    · split at fenced
      · cases fenced
      · cases fenced
        exact checked _ _
    · cases fenced
  · cases fenced

/-- The facts that `reassign_dynamic_node` has checked on the record it loaded. -/
structure ReassignFenced (record : RunRecord) (args : ReassignArgs) (node : DynamicNode)
    (lost : Attempt) : Prop where
  running : record.state = .running
  execution : record.executionId = some args.expectedExecutionId
  epoch : args.expectedExecutionEpoch = record.executionEpoch
  nodeFound : record.dynamicNodes.find? (fun node => node.nodeId = args.nodeId) = some node
  found : record.attempts.find? (fun attempt =>
    attempt.attemptId = args.lostAttemptId ∧ attempt.nodeId = some args.nodeId) = some lost
  dispatched : node.state = .dispatched
  active : record.activeAttempts args.nodeId = [lost]
  attemptEpoch : lost.executionEpoch = record.executionEpoch

theorem fenceReassign_ok {record : RunRecord} {args : ReassignArgs} {node : DynamicNode}
    {lost : Attempt} (fenced : fenceReassign record args = .ok (.lost node lost)) :
    ReassignFenced record args node lost := by
  simp only [fenceReassign, bind, Except.bind] at fenced
  split at fenced
  · cases fenced
  rename_i running
  have running := not_not.1 running
  split at fenced
  · cases fenced
  rename_i execution
  split at fenced
  · cases fenced
  rename_i epoch
  split at fenced
  · cases fenced
  rename_i foundNode isNode
  split at fenced
  · cases fenced
  rename_i foundAttempt isAttempt
  split at fenced
  · split at fenced
    · cases fenced
    · cases fenced
  split at fenced
  · cases fenced
  rename_i dispatched
  split at fenced
  · cases fenced
  rename_i active
  split at fenced
  · cases fenced
  rename_i attemptEpoch
  obtain ⟨rfl, rfl⟩ : node = foundNode ∧ lost = foundAttempt := by
    split at fenced
    · split at fenced
      · cases fenced
      · cases fenced
        exact ⟨rfl, rfl⟩
    · split at fenced
      · cases fenced
      · cases fenced
        exact ⟨rfl, rfl⟩
  exact ⟨running.1, (not_not.1 execution).symm, not_not.1 epoch, isNode, isAttempt,
    not_not.1 dispatched, not_not.1 active, not_not.1 attemptEpoch⟩

end Loom
