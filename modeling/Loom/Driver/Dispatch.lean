import Loom.Contracts.Refs
import Loom.Slave.App

/-!
# What the Driver dispatches and reports

The operation, the input and the compute binding with which the Driver asks a Slave to run a
committed closure (`_dispatch_remote_execution`) or a dynamic node (`_execute_attempt`), and what it
reports of the result.
-/

namespace Loom

namespace TaskClosure

variable (closure : TaskClosure)

/-- The operation of a closure. -/
def dispatchedOperation : String :=
  let operation := operationName closure.operationRef
  if operation = "" then "run_code" else operation

/-- The binding that `_execution_payload` resolves. -/
def payloadBinding : Option NodeInputBinding := inputBindingFor closure closure.operationRef

/-- The compute binding that is dispatched. -/
def dispatchedBinding : Option ComputeBinding := closure.computeBindings.head?

end TaskClosure

/-- The compute binding of a node's attempt. -/
def DynamicNode.dispatchedBinding (node : DynamicNode) (target : String) : ComputeBinding :=
  { bindingId := "binding-" ++ node.nodeId, holeId := node.nodeId
    capabilityDescriptorRef := node.capabilityDescriptorRef
    capabilityPackageRef := some node.packageRef
    targetResourceRef := { resourceId := target } }

/-- The closure of a node's attempt. -/
def DynamicNode.dispatchedClosure (node : DynamicNode) (exported : CapabilityExport)
    (inputRef : ResourceRef) : TaskClosure :=
  let operationRef := node.capabilityDescriptorRef.resourceId
  { closureId := node.nodeId
    program := { operationRef, ioContractRef := some exported.ioContractRef }
    nodeInputBindings := [{ nodeId := operationRef, inputRef }] }

namespace ExecutionResult

variable (result : ExecutionResult) (attemptId executionId : String) (executionEpoch : Int)

/-- The result that `_dispatch_remote_execution` reports. -/
def report : Dict :=
  [("attempt_id", .str attemptId), ("execution_id", .str executionId),
    ("execution_epoch", .int executionEpoch), ("resource_ref", result.resourceRef.toJson),
    ("value", result.value), ("terminal_state", .str result.terminalState),
    ("terminal_error", result.terminalError),
    ("validation_evidence", .arr result.validationEvidence), ("provenance", result.provenance)]

/-- The result that `_execute_attempt` reports. -/
def nodeReport : Dict :=
  [("attempt_id", .str attemptId), ("execution_id", .str executionId),
    ("execution_epoch", .int executionEpoch), ("value", result.value),
    ("terminal_state", .str result.terminalState), ("terminal_error", result.terminalError),
    ("validation_evidence", .arr result.validationEvidence)]

end ExecutionResult

end Loom
