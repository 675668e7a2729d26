import Loom.Contracts.Types
import Loom.Coroutine.Basic

/-!
# The worker endpoints of a Slave

The endpoints of `loom_v2/slave/app.py` through which Drivers start work on a Slave, with the
driver epochs that the process remembers.  What the endpoints hand to `SlaveService` (`run`,
`provision` and `deprovision`) is a query; any answer and any exception may come back.
-/

namespace Loom

open Coroutine

/-- `SlaveDispatchRequest`. -/
structure SlaveDispatchRequest where
  attemptId : String
  executionId : String
  executionEpoch : Int := 1
  workspaceId : Option String := none
  operation : String
  payload : Dict := []
  closure : Option TaskClosure := none
  binding : Option ComputeBinding := none
  driverId : Option String := none
  driverEpoch : Option Int := none
  deriving Repr, DecidableEq, Inhabited

/-- `SlaveProvisionRequest`. -/
structure SlaveProvisionRequest where
  command : CapabilityProvisionCommand
  package : CapabilityPackageVersion
  driverId : Option String := none
  driverEpoch : Option Int := none
  deriving Repr, DecidableEq, Inhabited

/-- `SlaveDeprovisionRequest`. -/
structure SlaveDeprovisionRequest where
  command : CapabilityDeprovisionCommand
  package : Option CapabilityPackageVersion := none
  driverId : Option String := none
  driverEpoch : Option Int := none
  deriving Repr, DecidableEq, Inhabited

/-- The fields of `ExecutionResult` that a dispatch answers with. -/
structure ExecutionResult where
  resourceRef : ResourceRef
  value : Json
  terminalState : String
  terminalError : Json
  validationEvidence : List Json
  provenance : Json
  replaySafety : String
  deriving Repr, DecidableEq, Inhabited

/-- The settings of a Slave, and the identity of its service. -/
structure SlaveEnv where
  internalApiSecret : String
  slaveId : String
  workspaceId : String := "workspace-default"

/-- `app.state`: the highest epoch seen of each driver. -/
structure SlaveApp where
  driverEpochs : List (String × Int) := []
  deriving Repr, DecidableEq, Inhabited

/-- What the endpoints ask of the service. -/
inductive ServiceQuery where
  | run (request : SlaveDispatchRequest)
  | provision (command : CapabilityProvisionCommand) (package : CapabilityPackageVersion)
  | deprovision (command : CapabilityDeprovisionCommand)
      (package : Option CapabilityPackageVersion)
  deriving Repr, DecidableEq, Inhabited

def ServiceAnswer : ServiceQuery → Type
  | .run _ => Except Exc ExecutionResult
  | .provision _ _ => Except Exc CapabilityHealthReport
  | .deprovision _ _ => Except Exc CapabilityHealthReport

/-- `app.state.driver_epochs[driver_id] = epoch`. -/
structure EpochWrite where
  driverId : String
  epoch : Int
  deriving Repr, DecidableEq, Inhabited

instance : Update EpochWrite SlaveApp where
  apply update app :=
    { app with driverEpochs := (update.driverId, update.epoch) ::
        app.driverEpochs.filter fun entry => entry.1 ≠ update.driverId }

abbrev SlaveOp (α : Type) := Prog SlaveApp Exc EpochWrite ServiceAnswer α

/-- What an endpoint answers: its result, or the status and the detail of an `HTTPException`. -/
inductive SlaveReply where
  | dispatched (request : SlaveDispatchRequest) (result : ExecutionResult)
  | reported (report : CapabilityHealthReport)
  | refused (status : Nat) (detail : String)
  deriving Repr, DecidableEq, Inhabited

/-- The headers that `InternalAuth` reads. -/
structure AuthHeaders where
  internalToken : String := ""
  authorization : String := ""
  deriving Repr, DecidableEq, Inhabited

/-- The token that a request provides. -/
def AuthHeaders.provided (headers : AuthHeaders) : String :=
  if headers.internalToken ≠ "" then headers.internalToken
  else if "bearer ".toList.isPrefixOf (lower headers.authorization).toList then
    String.ofList (headers.authorization.toList.drop 7)
  else ""

/-- Whether `InternalAuth` lets a request through. -/
def SlaveEnv.admits (env : SlaveEnv) (headers : AuthHeaders) : Bool :=
  strip env.internalApiSecret = "" || headers.provided = strip env.internalApiSecret

namespace SlaveOp

/-- `record_driver_epoch`. -/
def recordDriverEpoch (env : SlaveEnv) (driverId : Option String) (driverEpoch : Option Int) :
    SlaveOp Unit :=
  if strip env.internalApiSecret = "" then .ret ()
  else
    match driverId, driverEpoch with
    | some driverId, some driverEpoch =>
        if strip driverId = "" then .raise (.valueError "driver_identity_required")
        else .read fun app =>
          match app.driverEpochs.lookup driverId with
          | none => Prog.tell ⟨driverId, driverEpoch⟩
          | some previous =>
              if driverEpoch < previous then .raise (.valueError "stale_driver_epoch")
              else Prog.tell
                ⟨driverId, max driverEpoch (if previous = 0 then driverEpoch else previous)⟩
    | _, _ => .raise (.valueError "driver_identity_required")

/-- Whether the target of a binding names this Slave. -/
def isOwnTarget (env : SlaveEnv) (binding : ComputeBinding) : Bool :=
  let target :=
    (binding.targetResourceRef.resourceId.toList.reverse.dropWhile fun char => char = '/').reverse
  target = env.slaveId.toList || ('/' :: env.slaveId.toList).isSuffixOf target ||
    (':' :: env.slaveId.toList).isSuffixOf target

/-- The `try` block of `dispatch`. -/
def dispatchBody (env : SlaveEnv) (request : SlaveDispatchRequest) : SlaveOp ExecutionResult := do
  recordDriverEpoch env request.driverId request.driverEpoch
  let workspaceId :=
    if request.workspaceId.getD "" = "" then env.workspaceId else request.workspaceId.getD ""
  Prog.guard (workspaceId = env.workspaceId) (Exc.valueError "workspace_binding_mismatch")
  Prog.guard (request.binding.all (isOwnTarget env)) (Exc.valueError "target_slave_mismatch")
  .await (.run request) Prog.ofExcept

/-- The answer of `dispatch` to the outcome of its `try` block. -/
def dispatchAnswer (request : SlaveDispatchRequest) : Except Exc ExecutionResult →
    SlaveOp SlaveReply
  | .ok result => .ret (.dispatched request result)
  | .error error =>
      match error.kind with
      | .keyError => .ret (.refused 400 ("missing_field:" ++ error.text))
      | .valueError => .ret (.refused 422 error.text)
      | .runtimeError | .domainError => .ret (.refused 409 error.text)
      | _ => .raise error

/-- `dispatch`. -/
def dispatch (env : SlaveEnv) (request : SlaveDispatchRequest) : SlaveOp SlaveReply := do
  let outcome ← (dispatchBody env request).attempt
  dispatchAnswer request outcome

/-- The `try` block that `provision` and `deprovision` share: the checks, then the service. -/
def commandBody (env : SlaveEnv) (driverId : Option String) (driverEpoch : Option Int)
    (workspaceId targetSlave : String) (service : SlaveOp CapabilityHealthReport) :
    SlaveOp CapabilityHealthReport := do
  recordDriverEpoch env driverId driverEpoch
  Prog.guard (workspaceId = env.workspaceId) (Exc.valueError "workspace_binding_mismatch")
  Prog.guard (targetSlave = env.slaveId) (Exc.valueError "target_slave_mismatch")
  service

/-- The answer of `provision` and `deprovision` to the outcome of their `try` block. -/
def commandAnswer : Except Exc CapabilityHealthReport → SlaveOp SlaveReply
  | .ok report => .ret (.reported report)
  | .error error =>
      match error.kind with
      | .valueError | .runtimeError | .domainError => .ret (.refused 409 error.text)
      | _ => .raise error

/-- `provision`. -/
def provision (env : SlaveEnv) (request : SlaveProvisionRequest) : SlaveOp SlaveReply := do
  let outcome ← (commandBody env request.driverId request.driverEpoch request.command.workspaceId
    request.command.targetSlave
    (.await (.provision request.command request.package) Prog.ofExcept)).attempt
  commandAnswer outcome

/-- `deprovision`. -/
def deprovision (env : SlaveEnv) (request : SlaveDeprovisionRequest) : SlaveOp SlaveReply := do
  let outcome ← (commandBody env request.driverId request.driverEpoch request.command.workspaceId
    request.command.targetSlave
    (.await (.deprovision request.command request.package) Prog.ofExcept)).attempt
  commandAnswer outcome

end SlaveOp

/-- A request to one of the endpoints that start work. -/
inductive WorkerRequest where
  | dispatch (headers : AuthHeaders) (request : SlaveDispatchRequest)
  | provision (headers : AuthHeaders) (request : SlaveProvisionRequest)
  | deprovision (headers : AuthHeaders) (request : SlaveDeprovisionRequest)
  deriving Repr, DecidableEq, Inhabited

namespace WorkerRequest

def headers : WorkerRequest → AuthHeaders
  | .dispatch headers _ | .provision headers _ | .deprovision headers _ => headers

def driverId : WorkerRequest → Option String
  | .dispatch _ request => request.driverId
  | .provision _ request => request.driverId
  | .deprovision _ request => request.driverId

def driverEpoch : WorkerRequest → Option Int
  | .dispatch _ request => request.driverEpoch
  | .provision _ request => request.driverEpoch
  | .deprovision _ request => request.driverEpoch

/-- The endpoint of a request, behind its authentication. -/
def prog (env : SlaveEnv) (request : WorkerRequest) : SlaveOp SlaveReply :=
  if env.admits request.headers then
    match request with
    | .dispatch _ request => SlaveOp.dispatch env request
    | .provision _ request => SlaveOp.provision env request
    | .deprovision _ request => SlaveOp.deprovision env request
  else .ret (.refused 401 "invalid_internal_token")

end WorkerRequest

end Loom
