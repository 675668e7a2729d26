import Loom.Coroutine.Traced
import Loom.Keyed
import Loom.Slave.Service

/-!
# The lifecycle of an activation on a Slave

`SlaveService.provision`, `deprovision`, `inspect_activation_health` and
`acknowledge_health_report` of `loom_v2/slave/service.py`.  A lifecycle operation holds the lock of
its package coordinate from its first read of the activation to its end.  `inspectActivationHealth`
takes that lock anew for every coordinate, and once more for every pending report; the parts under a
lock are `reviewPending` and `inspectActivation`.

The content store and the caches are those of `SlaveService.run`.
-/

namespace Loom

open Coroutine

/-- `ResourceEventFrame`, with the type and the payload that the Slave leaves at their defaults. -/
structure ResourceEventFrame where
  eventId : String
  resourceRef : String
  eventType : String
  packageDigest : String
  targetSlave : String
  evidenceRefs : List String
  deriving Repr, DecidableEq, Inhabited

/-- What the lifecycle operations await.  `statProgram` is the check of the program by which a
package that runs in a process becomes ready. -/
inductive LifecycleQuery where
  | content (query : RunQuery)
  | statProgram (package : CapabilityPackageVersion) (command : CapabilityProvisionCommand)
      (digest : String)
  | persist (package : CapabilityPackageVersion) (activation : CapabilityPackageActivation)
      (runtimePluginId : String) (runtimeHandle : Dict) (lastErrorCode : String)
  | provision (package : CapabilityPackageVersion) (command : CapabilityProvisionCommand)
  | deprovision (package : CapabilityPackageVersion) (command : CapabilityDeprovisionCommand)
  | inspect (package : CapabilityPackageVersion) (activation : CapabilityPackageActivation)
  deriving Repr, DecidableEq, Inhabited

def LifecycleAnswer : LifecycleQuery → Type
  | .content query => RunAnswer query
  | .statProgram _ _ _ => Except Exc (Option ContentStat)
  | .persist _ _ _ _ _ => Except Exc Unit
  | .provision _ _ => Except Exc Dict
  | .deprovision _ _ => Except Exc Dict
  | .inspect _ _ => Except Exc Dict

/-- The state of a Slave that the lifecycle operations use. -/
structure SlaveLifecycle where
  slave : SlaveState := {}
  pendingHealthReports : List (String × CapabilityHealthReport) := []
  lastReportedHealth : List (String × (Nat × HealthState)) := []
  resourceEvents : List ResourceEventFrame := []
  deriving Repr, DecidableEq, Inhabited

inductive LifecycleWrite where
  | slave (update : RunWrite)
  | cachePackage (package : CapabilityPackageVersion) (commandRef : String)
  | setActivation (key : String) (activation : CapabilityPackageActivation)
  | pend (key : String) (report : CapabilityHealthReport)
  | unpend (key : String)
  | reported (key : String) (revision : Nat) (state : HealthState)
  | event (frame : ResourceEventFrame)
  deriving Repr, DecidableEq, Inhabited

/-- `table[key] = value`. -/
def setKey {α : Type} (table : List (String × α)) (key : String) (value : α) :
    List (String × α) :=
  Keyed.put Prod.fst table (key, value)

/-- `_cache_package`. -/
def cachePackage (cache : List (String × CapabilityPackageVersion))
    (package : CapabilityPackageVersion) (commandRef : String) :
    List (String × CapabilityPackageVersion) :=
  [commandRef, package.versionRef].dedup.foldl (fun cache ref =>
    setKey (setKey cache (packageCacheKey ref package.packageDigest) package) ref package) cache

instance : Update LifecycleWrite SlaveLifecycle where
  apply update state :=
    match update with
    | .slave update => { state with slave := apply update state.slave }
    | .cachePackage package commandRef =>
        { state with slave.packageCache :=
          cachePackage state.slave.packageCache package commandRef }
    | .setActivation key activation =>
        { state with slave.activations := setKey state.slave.activations key activation }
    | .pend key report =>
        { state with pendingHealthReports := setKey state.pendingHealthReports key report }
    | .unpend key =>
        { state with
          pendingHealthReports := state.pendingHealthReports.filter fun entry => entry.1 ≠ key }
    | .reported key revision health =>
        { state with lastReportedHealth := setKey state.lastReportedHealth key (revision, health) }
    | .event frame => { state with resourceEvents := state.resourceEvents ++ [frame] }

abbrev LifecycleOp (α : Type) := Prog SlaveLifecycle Exc LifecycleWrite LifecycleAnswer α

/-- A Slave: its id, and whether it has a host for runtime plugins. -/
structure SlaveSettings where
  slaveId : String
  hasPluginHost : Bool := true
  deriving Repr, DecidableEq, Inhabited

def HealthState.toActivation : HealthState → ActivationState
  | .ready => .ready
  | .degraded => .degraded
  | .failed => .failed
  | .stopped => .stopped

/-- The state that a desired state leads to. -/
def DesiredState.terminal : DesiredState → ActivationState
  | .running => .ready
  | .stopped => .stopped

/-- `_lifecycle_retry`. -/
def lifecycleRetry (existing : Option CapabilityPackageActivation) (desiredState : DesiredState)
    (packageDigest : String) (activationRevision : Nat) (idempotencyKey : String) :
    Except Exc Bool :=
  match existing with
  | none => .ok false
  | some existing =>
      if lower existing.packageDigest ≠ lower packageDigest then
        .error (runtimeError "capability_package_identity_conflict")
      else if activationRevision < existing.activationRevision then
        .error (runtimeError "stale_activation_revision")
      else if activationRevision = existing.activationRevision then
        if existing.desiredState ≠ desiredState then
          .error (runtimeError "activation_revision_conflict")
        else if existing.lastIdempotencyKey ≠ idempotencyKey ∧
            existing.activationState ≠ desiredState.terminal then
          .error (runtimeError "activation_revision_conflict")
        else .ok true
      else .ok false

/-! ### The answers of the runtime -/

/-- What iterating over a value yields. -/
def Json.iterate : Json → Except Exc (List Json)
  | .arr items => .ok items
  | .obj entries => .ok (entries.map fun entry => .str entry.1)
  | .str text => .ok (text.toList.map fun char => .str (String.singleton char))
  | _ => .error (.typeError "object is not iterable")

/-- `dict(value or {})`. -/
def Env.dictOr (env : Env) (value : Json) : Except Exc Dict :=
  match value.orElse (.obj []) with
  | .obj entries => .ok entries
  | other => env.dictOf other

/-- The state that the runtime reports after `provision`, where it is one of the known ones. -/
def provisionedState (env : Env) (response : Dict) : Option HealthState :=
  let text := env.str ((Dict.get response "activation_state").orElse
    ((Dict.get response "state").orElse (.str "ready")))
  if text = "ready" then some .ready
  else if text = "degraded" then some .degraded
  else if text = "failed" then some .failed
  else none

/-- The state that `inspect` finds. -/
def inspectedState (inspected : Dict) : HealthState :=
  if (Dict.get inspected "identity_match").truthy && (Dict.get inspected "healthy").truthy then
    .ready
  else if (Dict.get inspected "exists").truthy && (Dict.get inspected "running").truthy then
    .degraded
  else .failed

/-- The program is there as its reference declares it. -/
def ContentStat.verifies (stat : Option ContentStat) (programRef : ResourceRef) : Bool :=
  stat.any fun stat => stat.integrityVerified && stat.declaredDigest = programRef.digest

/-- `getattr(exc, "code", None) or str(exc) or "runtime_plugin_unavailable"`. -/
def failureCode (error : Exc) : String :=
  if error.text = "" then "runtime_plugin_unavailable" else error.text

/-- `response.get("evidence_refs", [])` as texts. -/
def responseEvidence (env : Env) (response : Dict) : Except Exc (List String) :=
  (((response.lookup "evidence_refs").getD (.arr [])).iterate).map fun items =>
    (items.filter fun item => item ≠ .null).map env.str

/-- `(response.get("details") or {}).get("code") or ""`. -/
def responseCode (env : Env) (response : Dict) : Except Exc String :=
  match (Dict.get response "details").orElse (.obj []) with
  | .obj entries => .ok (env.str ((Dict.get entries "code").orElse (.str "")))
  | _ => .error ⟨.attributeError, "get"⟩

def responsePluginId (env : Env) (response : Dict) : String :=
  env.str ((Dict.get response "runtime_plugin_id").orElse (.str ""))

/-- `digest[:16]`. -/
def digestHead (digest : String) : String := String.ofList (digest.toList.take 16)

/-! ### Reports -/

namespace LifecycleOp

/-- A program of `run` on the same Slave. -/
def ofRun {α : Type} : RunOp α → LifecycleOp α
  | .ret value => .ret value
  | .raise error => .raise error
  | .read next => .read fun state => ofRun (next state.slave)
  | .write update next => .write (.slave update) (ofRun next)
  | .await query next => .await (.content query) fun answer => ofRun (next answer)

variable (env : Env) (settings : SlaveSettings)

def healthReport (package : CapabilityPackageVersion) (state : HealthState) (revision : Nat)
    (evidenceRefs : List String) (details : Dict) : LifecycleOp CapabilityHealthReport := do
  let id ← ofRun (RunOp.uuid env)
  .ret { reportId := "health-" ++ id, packageVersionRef := package.versionRef
         packageDigest := package.packageDigest, targetSlave := settings.slaveId
         activationState := state, evidenceRefs, details, activationRevision := revision }

/-- `_remember_health_report`. -/
def rememberHealthReport (key : String) (report : CapabilityHealthReport) :
    LifecycleOp CapabilityHealthReport := do
  Prog.tell (.reported key report.activationRevision report.activationState)
  .ret report

/-- A report with its entry in `resource_events`. -/
def announce (eventType : String) (package : CapabilityPackageVersion)
    (report : CapabilityHealthReport) : LifecycleOp CapabilityHealthReport := do
  Prog.tell (.event
    { eventId := "resource-" ++ report.reportId, resourceRef := package.versionRef, eventType
      packageDigest := package.packageDigest, targetSlave := settings.slaveId
      evidenceRefs := report.evidenceRefs })
  rememberHealthReport package.versionRef report

/-- `_accept_activation_revision`. -/
def acceptActivationRevision (key : String) (retry : Bool) : LifecycleOp Unit :=
  if retry then .ret () else Prog.tell (.unpend key)

/-- `self.activations[key] = activation` and `_persist_activation`. -/
def storeActivation (package : CapabilityPackageVersion) (activation : CapabilityPackageActivation)
    (runtimePluginId : String := "") (runtimeHandle : Dict := []) (lastErrorCode : String := "") :
    LifecycleOp Unit := do
  Prog.tell (.setActivation package.versionRef activation)
  .await (.persist package activation runtimePluginId runtimeHandle lastErrorCode) Prog.ofExcept

/-! ### Provisioning -/

/-- The `except` of the checks of an export. -/
def orInvalid {α : Type} (caught : Exc → Bool) (program : LifecycleOp α) : LifecycleOp α := do
  match ← program.attempt with
  | .ok value => .ret value
  | .error error =>
      if caught error then .raise (runtimeError "io_contract_invalid") else .raise error

/-- The check of a schema of a contract. -/
def validateSchemaRef (schemaRef : Option ResourceRef) : LifecycleOp Unit :=
  match schemaRef with
  | none => .ret ()
  | some schemaRef => orInvalid Exc.isContentError (do
      let schema ← ofRun (RunOp.loadJson env schemaRef)
      Prog.ofExcept (env.validateSchema schema))

/-- The body of the loop of `_validate_package_exports`. -/
def validateExport (exported : CapabilityExport) : LifecycleOp Unit := do
  let contract ← ofRun (RunOp.loadIoContract env exported.ioContractRef)
  validateSchemaRef env contract.inputSchemaRef
  validateSchemaRef env contract.outputSchemaRef
  match contract.successValidatorRef with
  | none => .ret ()
  | some validatorRef =>
      orInvalid (fun error => error.kind = .fileNotFound ∨ error.kind = .valueError) (do
        let _ ← ofRun (RunOp.contentGet env validatorRef)
        .ret ())

/-- `_validate_package_exports`. -/
def validatePackageExports : List CapabilityExport → LifecycleOp Unit
  | [] => .ret ()
  | exported :: exports => do
      validateExport env exported
      validatePackageExports exports

/-- The activation that `provision` writes before it touches the runtime. -/
def provisioningActivation (command : CapabilityProvisionCommand)
    (package : CapabilityPackageVersion) (existing : Option CapabilityPackageActivation) :
    CapabilityPackageActivation :=
  let base := existing.getD
    { packageVersionRef := package.versionRef, packageDigest := package.packageDigest
      targetSlave := settings.slaveId, activationClosureVersionRef := "", computeBindingRef := ""
      desiredState := .running, activationRevision := command.activationRevision
      lastIdempotencyKey := command.idempotencyKey }
  { base with
    activationClosureVersionRef :=
      if command.activationClosureVersionRef = "" then package.packageClosureVersionRef
      else command.activationClosureVersionRef
    computeBindingRef := (command.computeBinding.map ComputeBinding.bindingId).getD ""
    desiredState := .running, activationRevision := command.activationRevision
    lastIdempotencyKey := command.idempotencyKey, activationState := .provisioning }

/-- The part that both ways of provisioning share: the fence, the answer to a repeated command, and
the activation with which `work` goes on. -/
def acceptProvision (command : CapabilityProvisionCommand) (package : CapabilityPackageVersion)
    (work : CapabilityPackageActivation → LifecycleOp CapabilityHealthReport) :
    LifecycleOp CapabilityHealthReport := do
  let state ← Prog.get
  let existing := state.slave.activations.lookup package.versionRef
  let retry ← Prog.ofExcept (lifecycleRetry existing .running package.packageDigest
    command.activationRevision command.idempotencyKey)
  acceptActivationRevision package.versionRef retry
  match existing.filter fun existing => retry && existing.activationState = .ready with
  | some existing => do
      let report ← healthReport env settings package .ready command.activationRevision
        existing.evidenceRefs [("idempotent", .bool true)]
      rememberHealthReport package.versionRef report
  | none => do
      let pending := provisioningActivation settings command package existing
      Prog.tell (.cachePackage package command.packageVersionRef)
      storeActivation package pending
      work pending

/-- What `_provision_runtime_locked` makes of the response of the runtime. -/
def finishRuntime (command : CapabilityProvisionCommand) (package : CapabilityPackageVersion)
    (pending : CapabilityPackageActivation) (response : Dict) :
    LifecycleOp CapabilityHealthReport :=
  match provisionedState env response with
  | none => .raise (runtimeError "runtime_plugin_protocol_error")
  | some state => do
      let evidenceRefs ← Prog.ofExcept (responseEvidence env response)
      let runtimeProfile ← Prog.ofExcept (env.dictOr (Dict.get response "runtime_profile"))
      let activation :=
        { pending with activationState := state.toActivation, evidenceRefs, runtimeProfile }
      Prog.tell (.setActivation package.versionRef activation)
      let runtimeHandle ← Prog.ofExcept (env.dictOr (Dict.get response "runtime_handle"))
      let lastErrorCode ←
        if state = .failed then Prog.ofExcept (responseCode env response) else .ret ""
      .await (.persist package activation (responsePluginId env response) runtimeHandle
        lastErrorCode) Prog.ofExcept
      let details ← Prog.ofExcept (env.dictOr (Dict.get response "details"))
      let report ← healthReport env settings package state command.activationRevision evidenceRefs
        (details ++ [("runtime_plugin_id", .str (responsePluginId env response)),
          ("package_version_ref", .str package.versionRef),
          ("package_digest", .str package.packageDigest)])
      announce settings (match state with
        | .ready => "activation_ready"
        | .degraded => "activation_degraded"
        | .failed => "activation_failed"
        | .stopped => "activation_stopped") package report

/-- `_provision_runtime_locked`. -/
def provisionRuntimeLocked (command : CapabilityProvisionCommand)
    (package : CapabilityPackageVersion) : LifecycleOp CapabilityHealthReport := do
  Prog.guard (settings.hasPluginHost = true) (runtimeError "runtime_plugin_not_found")
  Prog.guard (lower package.packageDigest = lower command.packageDigest)
    (runtimeError "capability_package_digest_mismatch")
  validatePackageExports env package.capabilityExports
  let state ← Prog.get
  Prog.guard (state.slave.activations.all fun entry =>
      !(entry.2.packageVersionRef = package.versionRef &&
        lower entry.2.packageDigest ≠ lower package.packageDigest))
    (runtimeError "capability_package_identity_conflict")
  acceptProvision env settings command package fun pending =>
    .await (.provision package command) fun
      | .ok response => finishRuntime env settings command package pending response
      | .error error =>
          if error.kind = .runtimeError then do
            storeActivation package { pending with activationState := .failed } "" []
              (failureCode error)
            .raise (runtimeError (failureCode error))
          else .raise error

/-- The fillable holes of a package ask for a profile of the binding. -/
def checkFillable (package : CapabilityPackageVersion) (profile : Option Dict) :
    Except Exc Unit :=
  match ((Dict.get package.body "provider_fillable_hole_refs").orElse (.arr [])).iterate with
  | .error error => .error error
  | .ok holes =>
      if holes ≠ [] ∧ profile.getD [] = [] then
        .error (runtimeError "provider_fillable_binding_required")
      else .ok ()

/-- What `_provision_executor_locked` does once the program has been looked up. -/
def finishExecutor (command : CapabilityProvisionCommand) (package : CapabilityPackageVersion)
    (pending : CapabilityPackageActivation) (verified : Bool) :
    LifecycleOp CapabilityHealthReport :=
  if verified = false then do
    storeActivation package { pending with activationState := .failed } "" []
      "program_content_unavailable"
    .raise (runtimeError "program_content_unavailable")
  else do
    let evidenceRefs :=
      ["package-test:" ++ digestHead package.packageDigest,
        "health:" ++ digestHead package.packageDigest]
    storeActivation package { pending with activationState := .ready, evidenceRefs }
    match package.capabilityExports with
    | [] => .raise ⟨.other, "list index out of range"⟩
    | exported :: _ => do
        let report ← healthReport env settings package .ready command.activationRevision
          evidenceRefs
          [("operation", .str exported.capabilityDescriptorRef.resourceId),
            ("execution", .obj [("kind", .str package.execution.kind),
              ("version", .str package.execution.version)]),
            ("executor_descriptor_ref", .str "executor://function/process:json_stdio/1"),
            ("package_version_ref", .str package.versionRef),
            ("package_digest", .str package.packageDigest)]
        announce settings "activation_ready" package report

/-- `_provision_executor_locked`.  `profile` is the runtime profile of the command's binding. -/
def provisionExecutorLocked (command : CapabilityProvisionCommand) (profile : Option Dict)
    (package : CapabilityPackageVersion) : LifecycleOp CapabilityHealthReport := do
  orInvalid (fun error => error.isContentError || error.kind = .runtimeError)
    (validatePackageExports env package.capabilityExports)
  Prog.guard (lower package.packageDigest = lower command.packageDigest)
    (runtimeError "capability_package_digest_mismatch")
  Prog.ofExcept (checkFillable package profile)
  acceptProvision env settings command package fun pending =>
    match packageBodyRef env package "program_content_ref" with
    | .error error => .raise (runtimeError error.text)
    | .ok programRef =>
        match Op.digestFromRef programRef with
        | .error error => .raise error
        | .ok digest => .await (.statProgram package command digest) fun
            | .error error => .raise error
            | .ok stat =>
                finishExecutor env settings command package pending
                  (ContentStat.verifies stat programRef)

/-- The package of a command: the one that comes with it, or the cached one. -/
def commandPackage (package : Option CapabilityPackageVersion) (packageVersionRef : String)
    (packageDigest : String) : LifecycleOp CapabilityPackageVersion := do
  let state ← Prog.get
  match package.or (state.slave.findCachedPackage packageVersionRef (some packageDigest)) with
  | none => .raise (runtimeError "capability_package_not_found")
  | some package => do
      let package ← Prog.ofExcept (RunOp.revalidate env package)
      Prog.guard (packageVersionRef = package.versionRef)
        (runtimeError "capability_package_ref_mismatch")
      .ret package

/-- `provision`. -/
def provision (command : CapabilityProvisionCommand) (profile : Option Dict)
    (package : Option CapabilityPackageVersion) : LifecycleOp CapabilityHealthReport := do
  Prog.guard (command.targetSlave = settings.slaveId) (runtimeError "provision_target_mismatch")
  Prog.guard (command.computeBinding.all fun binding =>
      binding.targetResourceRef.resourceId = settings.slaveId)
    (runtimeError "binding_target_mismatch")
  let package ← commandPackage env package command.packageVersionRef command.packageDigest
  Prog.guard (package.isOrchestrator = false) (runtimeError "driver_side_executor_required")
  if package.usesRuntimePlugin then provisionRuntimeLocked env settings command package
  else provisionExecutorLocked env settings command profile package

/-! ### Deprovisioning -/

/-- The activation that `deprovision` writes before it touches the runtime. -/
def stoppingActivation (command : CapabilityDeprovisionCommand) (package : CapabilityPackageVersion)
    (existing : Option CapabilityPackageActivation) : CapabilityPackageActivation :=
  let base := existing.getD
    { packageVersionRef := package.versionRef, packageDigest := package.packageDigest
      targetSlave := settings.slaveId
      activationClosureVersionRef := package.packageClosureVersionRef, computeBindingRef := ""
      desiredState := .stopped, activationRevision := command.activationRevision
      lastIdempotencyKey := command.idempotencyKey
      evidenceRefs := ["deprovision:" ++ digestHead package.packageDigest] }
  { base with
    desiredState := .stopped, activationRevision := command.activationRevision
    lastIdempotencyKey := command.idempotencyKey }

/-- Another activation is served by the runtime of the same package. -/
def sharesRuntime (state : SlaveLifecycle) (package : CapabilityPackageVersion) : Bool :=
  state.slave.activations.any fun entry =>
    lower entry.2.packageDigest = lower package.packageDigest &&
      entry.2.desiredState = .running &&
      (entry.2.activationState = .ready || entry.2.activationState = .degraded ||
        entry.2.activationState = .provisioning)

/-- `_deprovision_locked`. -/
def deprovisionLocked (command : CapabilityDeprovisionCommand)
    (package : CapabilityPackageVersion) : LifecycleOp CapabilityHealthReport := do
  Prog.guard (lower package.packageDigest = lower command.packageDigest)
    (runtimeError "capability_package_digest_mismatch")
  Prog.guard (settings.hasPluginHost = true) (runtimeError "runtime_plugin_not_found")
  let state ← Prog.get
  let existing := state.slave.activations.lookup package.versionRef
  let retry ← Prog.ofExcept (lifecycleRetry existing .stopped package.packageDigest
    command.activationRevision command.idempotencyKey)
  acceptActivationRevision package.versionRef retry
  let desired := stoppingActivation settings command package existing
  Prog.tell (.cachePackage package command.packageVersionRef)
  storeActivation package desired
  if retry && existing.any fun existing => existing.activationState = .stopped then do
    let report ← healthReport env settings package .stopped command.activationRevision
      desired.evidenceRefs [("idempotent", .bool true)]
    rememberHealthReport package.versionRef report
  else do
    let state ← Prog.get
    if sharesRuntime state package then do
      storeActivation package { desired with activationState := .stopped }
      let report ← healthReport env settings package .stopped command.activationRevision
        desired.evidenceRefs [("shared_runtime_preserved", .bool true)]
      rememberHealthReport package.versionRef report
    else
      .await (.deprovision package command) fun
        | .error error =>
            if error.kind = .runtimeError then do
              .await (.persist package desired "" [] (failureCode error)) Prog.ofExcept
              .raise (runtimeError (failureCode error))
            else .raise error
        | .ok response => do
            storeActivation package { desired with activationState := .stopped }
              (responsePluginId env response)
            let report ← healthReport env settings package .stopped command.activationRevision
              desired.evidenceRefs
              [("runtime_plugin_id", .str (responsePluginId env response)),
                ("idempotent", .bool
                  ((response.lookup "idempotent").getD (.bool false)).truthy)]
            announce settings "activation_stopped" package report

/-- `deprovision`. -/
def deprovision (command : CapabilityDeprovisionCommand)
    (package : Option CapabilityPackageVersion) : LifecycleOp CapabilityHealthReport := do
  Prog.guard (command.targetSlave = settings.slaveId) (runtimeError "provision_target_mismatch")
  let package ← commandPackage env package command.packageVersionRef command.packageDigest
  Prog.guard (package.usesRuntimePlugin = true) (runtimeError "unsupported_deprovision_contract")
  deprovisionLocked env settings command package

/-! ### Health -/

/-- The part of `inspect_activation_health` on one pending report, under the lock of its key. -/
def reviewPending (key : String) (pending : CapabilityHealthReport) :
    LifecycleOp (Option CapabilityHealthReport) := do
  let state ← Prog.get
  match state.slave.activations.lookup key with
  | some activation =>
      if activation.desiredState ≠ .running ∨
          activation.activationRevision ≠ pending.activationRevision then do
        Prog.tell (.unpend key)
        .ret none
      else .ret (some pending)
  | none => do
      Prog.tell (.unpend key)
      .ret none

/-- Ask the runtime for the state of an activation, with the details of the report. -/
def inspectState (package : CapabilityPackageVersion) (activation : CapabilityPackageActivation) :
    LifecycleOp (HealthState × Dict) :=
  if activation.activationState = .failed then .ret (.failed, [])
  else if settings.hasPluginHost = false then
    .ret (.failed, [("code", .str "runtime_plugin_not_found")])
  else
    .await (.inspect package activation) fun
      | .ok inspected => .ret (inspectedState inspected, [("inspect", .obj inspected)])
      | .error error =>
          if error.kind = .runtimeError then .ret (.failed, [("code", .str error.text)])
          else .raise error

/-- What `inspect_activation_health` makes of the state that it has found.  A report that has been
made before is left out. -/
def concludeInspection (key : String) (package : CapabilityPackageVersion)
    (activation : CapabilityPackageActivation) (found : HealthState × Dict) :
    LifecycleOp (Option CapabilityHealthReport) := do
  let (health, details) := found
  let state ← Prog.get
  if state.lastReportedHealth.lookup key = some (activation.activationRevision, health) then
    .ret none
  else do
    if activation.activationState ≠ health.toActivation then do
      Prog.tell (.setActivation key { activation with activationState := health.toActivation })
      .await (.persist package { activation with activationState := health.toActivation } "" [] "")
        Prog.ofExcept
    else .ret ()
    let id ← ofRun (RunOp.uuid env)
    let report : CapabilityHealthReport :=
      { reportId := "health-" ++ id, packageVersionRef := activation.packageVersionRef
        packageDigest := activation.packageDigest, targetSlave := settings.slaveId
        activationState := health, evidenceRefs := activation.evidenceRefs, details
        activationRevision := activation.activationRevision }
    Prog.tell (.pend key report)
    .ret (some report)

/-- The part of `inspect_activation_health` on one activation, under the lock of its key. -/
def inspectActivation (key : String) : LifecycleOp (Option CapabilityHealthReport) := do
  let state ← Prog.get
  match state.slave.activations.lookup key with
  | none => .ret none
  | some activation =>
      if (state.pendingHealthReports.lookup key).isSome ∨ activation.desiredState ≠ .running then
        .ret none
      else
        match state.slave.findCachedPackage activation.packageVersionRef
            (some activation.packageDigest) with
        | none => .ret none
        | some package =>
            if package.usesRuntimePlugin = false then .ret none
            else do
              let found ← inspectState settings package activation
              concludeInspection env settings key package activation found

def reviewAll : List (String × CapabilityHealthReport) → LifecycleOp (List CapabilityHealthReport)
  | [] => .ret []
  | entry :: entries => do
      let report ← reviewPending entry.1 entry.2
      let reports ← reviewAll entries
      .ret (report.toList ++ reports)

def inspectAll : List String → LifecycleOp (List CapabilityHealthReport)
  | [] => .ret []
  | key :: keys => do
      let report ← inspectActivation env settings key
      let reports ← inspectAll keys
      .ret (report.toList ++ reports)

/-- `inspect_activation_health`. -/
def inspectActivationHealth : LifecycleOp (List CapabilityHealthReport) := do
  let state ← Prog.get
  let pending ← reviewAll state.pendingHealthReports
  let state ← Prog.get
  let reports ← inspectAll env settings (state.slave.activations.map Prod.fst)
  .ret (pending ++ reports)

/-- `acknowledge_health_report`. -/
def acknowledgeHealthReport (reportId : String) : LifecycleOp Unit := do
  let state ← Prog.get
  match state.pendingHealthReports.find? fun entry => entry.2.reportId = reportId with
  | none => .ret ()
  | some entry => do
      Prog.tell (.reported entry.1 entry.2.activationRevision entry.2.activationState)
      Prog.tell (.unpend entry.1)

end LifecycleOp

end Loom
