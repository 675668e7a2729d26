import Loom.Coroutine.Traced
import Loom.Slave.Service

/-!
# The client of a plugin process

`ProcessRuntimePlugin` of `loom_v2/slave/runtime_plugins.py`: the calls of Slave Core to a plugin
that runs in a process of its own, and the restart of a process that has died.  Whether the process
is alive is asked anew at every check, so that it may die at any time.  The lock of the restart is
left out, since calls do not overlap here.
-/

namespace Loom

open Coroutine

/-- A request to the plugin process. -/
inductive PluginRequest where
  | provision (package : CapabilityPackageVersion) (command : CapabilityProvisionCommand)
  | invoke (package : CapabilityPackageVersion) (capabilityExport : CapabilityExport)
      (payload : Json) (activation : Dict) (attemptId : String) (deadlineSeconds : Option ℚ)
  | inspect (activation : Dict)
  | deprovision (command : CapabilityDeprovisionCommand)
  | reconcile (activations : List Dict)
  deriving Repr, DecidableEq, Inhabited

/-- What the client awaits.  `launch` is the start of a process up to its valid descriptor, and
`replay` is the request to reconcile that follows a restart. -/
inductive ProcessQuery where
  | alive
  | backoff (attempt : Nat)
  | launch
  | request (request : PluginRequest)
  | replay (activations : List Dict)
  | shutdown
  deriving Repr, DecidableEq, Inhabited

/-- How a request can fail: by a timeout, by a transport or protocol error with its code, after
which the process is closed, by an error that the plugin reports, or by another exception. -/
inductive RequestTrouble where
  | timeout
  | broken (code : String)
  | refused (code : String)
  | raised (error : Exc)
  deriving Repr, DecidableEq, Inhabited

def ProcessAnswer : ProcessQuery → Type
  | .alive => Bool
  | .backoff _ => Unit
  | .launch => Except Exc Unit
  | .request _ => Except RequestTrouble Dict
  | .replay _ => Except RequestTrouble Dict
  | .shutdown => Unit

/-- The state of `ProcessRuntimePlugin`. -/
structure ProcessClient where
  isOpen : Bool := false
  restartAttempt : Nat := 0
  desiredActivations : List Dict := []
  deriving Repr, DecidableEq, Inhabited

inductive ProcessWrite where
  | isOpen (isOpen : Bool)
  | restartAttempt (attempt : Nat)
  | desired (activations : List Dict)
  deriving Repr, DecidableEq, Inhabited

instance : Update ProcessWrite ProcessClient where
  apply update client :=
    match update with
    | .isOpen isOpen => { client with isOpen }
    | .restartAttempt attempt => { client with restartAttempt := attempt }
    | .desired activations => { client with desiredActivations := activations }

abbrev ProcessOp (α : Type) := Prog ProcessClient Exc ProcessWrite ProcessAnswer α

namespace ProcessOp

/-- `close`. -/
def close : ProcessOp Unit := do
  Prog.tell (.isOpen false)
  .await .shutdown fun _ => .ret ()

/-- The process is there and has not ended. -/
def isAlive : ProcessOp Bool := do
  let client ← Prog.get
  if client.isOpen then .await .alive .ret else .ret false

def closeOpen : ProcessOp Unit := do
  let client ← Prog.get
  if client.isOpen then close else .ret ()

/-- `start`. -/
def start : ProcessOp Unit := do
  closeOpen
  .await .launch fun
    | .ok () => do
        Prog.tell (.isOpen true)
        Prog.tell (.restartAttempt 0)
    | .error error => .raise error

/-- What `_request_once` makes of the answer of the process. -/
def concludeRequest : Except RequestTrouble Dict → ProcessOp Dict
  | .ok result => .ret result
  | .error .timeout => .raise (runtimeError "runtime_plugin_timeout")
  | .error (.broken code) => do
      close
      .raise (runtimeError code)
  | .error (.refused code) => .raise (runtimeError code)
  | .error (.raised error) => .raise error

/-- `_request_once`. -/
def requestOnce (request : PluginRequest) : ProcessOp Dict := do
  let alive ← isAlive
  Prog.guard (alive = true) (runtimeError "runtime_plugin_unavailable")
  .await (.request request) concludeRequest

/-- `_request_once` on the activations that are replayed. -/
def replayOnce (activations : List Dict) : ProcessOp Dict := do
  let alive ← isAlive
  Prog.guard (alive = true) (runtimeError "runtime_plugin_unavailable")
  .await (.replay activations) concludeRequest

/-- Replay the desired activations to a process that has just been started. -/
def replayDesired : ProcessOp Unit := do
  let client ← Prog.get
  if client.desiredActivations = [] then .ret ()
  else (replayOnce client.desiredActivations).attempt.bind fun
    | .ok _ => .ret ()
    | .error error =>
        if error.kind = .runtimeError then do
          close
          .raise (runtimeError "runtime_plugin_unavailable")
        else .raise error

/-- `_restart_if_needed`. -/
def restartIfNeeded : ProcessOp Unit := do
  let alive ← isAlive
  if alive then .ret ()
  else do
    let client ← Prog.get
    Prog.tell (.restartAttempt (client.restartAttempt + 1))
    .await (.backoff client.restartAttempt) fun _ =>
      start.attempt.bind fun
        | .ok () => replayDesired
        | .error error => if error.kind = .runtimeError then .ret () else .raise error

/-- `_request`. -/
def request (request : PluginRequest) : ProcessOp Dict := do
  let alive ← isAlive
  if alive then requestOnce request
  else do
    restartIfNeeded
    requestOnce request

/-- `provision`. -/
def provision (package : CapabilityPackageVersion) (command : CapabilityProvisionCommand) :
    ProcessOp Dict :=
  request (.provision package command)

/-- `invoke`. -/
def invoke (package : CapabilityPackageVersion) (capabilityExport : CapabilityExport)
    (payload : Json) (activation : Dict) (attemptId : String) (deadlineSeconds : Option ℚ) :
    ProcessOp Dict :=
  request (.invoke package capabilityExport payload activation attemptId deadlineSeconds)

/-- `inspect`. -/
def inspect (activation : Dict) : ProcessOp Dict := request (.inspect activation)

/-- `deprovision`. -/
def deprovision (command : CapabilityDeprovisionCommand) : ProcessOp Dict :=
  request (.deprovision command)

/-- `reconcile`. -/
def reconcile (activations : List Dict) : ProcessOp Dict := do
  Prog.tell (.desired activations)
  request (.reconcile activations)

end ProcessOp

end Loom
