import Loom.Slave.Lifecycle

/-!
# Persisted activations and their reconciliation

The persisted records of activations and `reconcile_activations` of `loom_v2/slave/service.py`.

`reconcile_activations` holds no lock.  The activation of an entry is looked up after the answer of
the runtime, and changed before the next await.
-/

namespace Loom

open Coroutine

/-- A record of `capability_activations`, without the time of its update. -/
structure ActivationRecord where
  activationKey : String
  workspaceId : String
  slaveId : String
  packageVersionRef : String
  packageDigest : String
  packagePayload : CapabilityPackageVersion
  runtimePluginId : String
  desiredState : DesiredState
  activationState : ActivationState
  activationClosureVersionRef : String
  computeBindingRef : String
  activationRevision : Nat
  evidenceRefs : List String
  runtimeProfile : Dict
  runtimeHandle : Dict
  lastIdempotencyKey : String
  lastErrorCode : String
  deriving Repr, DecidableEq, Inhabited

/-- A Slave with its workspace, which may have a database. -/
structure SlaveHost extends SlaveSettings where
  workspaceId : String
  hasDatabase : Bool := true
  deriving Repr, DecidableEq, Inhabited

/-- An entry of `reconcile_activations`. -/
structure ReconcileEntry where
  activationKey : String
  workspaceId : String
  slaveId : String
  packageVersionRef : String
  packageDigest : String
  packagePayload : CapabilityPackageVersion
  desiredState : DesiredState
  activationRevision : Nat
  runtimeProfile : Dict
  deriving Repr, DecidableEq, Inhabited

/-- What the parts of a Slave await that use its activations.  `replicaRow` reads the persisted
activations. -/
inductive ActivationQuery where
  | lifecycle (query : LifecycleQuery)
  | replicaRow
  | reconcile (entries : List ReconcileEntry)
  deriving Repr, DecidableEq, Inhabited

def ActivationAnswer : ActivationQuery → Type
  | .lifecycle query => LifecycleAnswer query
  | .replicaRow => Except Exc (List ActivationRecord)
  | .reconcile _ => Except Exc Dict

abbrev ActivationOp (α : Type) := Prog SlaveLifecycle Exc LifecycleWrite ActivationAnswer α

/-- `CapabilityPackageVersion.model_validate(payload)`, where `except (TypeError, ValueError)`
leaves a record out. -/
def validPayload (env : Env) (payload : CapabilityPackageVersion) :
    Except Exc (Option CapabilityPackageVersion) :=
  match env.packageDigest payload with
  | .ok packageDigest => .ok (some { payload with packageDigest })
  | .error error =>
      if error.kind = .typeError ∨ error.kind = .valueError then .ok none else .error error

/-! ### The entries -/

/-- The entry of a record, with its package. -/
def ActivationRecord.entry (env : Env) (record : ActivationRecord) :
    Except Exc (Option (ReconcileEntry × CapabilityPackageVersion)) :=
  (validPayload env record.packagePayload).map fun package =>
    (package.filter CapabilityPackageVersion.usesRuntimePlugin).map fun package =>
      ({ activationKey := package.versionRef, workspaceId := record.workspaceId
         slaveId := record.slaveId, packageVersionRef := package.versionRef
         packageDigest := package.packageDigest, packagePayload := record.packagePayload
         desiredState := record.desiredState, activationRevision := record.activationRevision
         runtimeProfile := record.runtimeProfile }, package)

/-- The entries of the persisted records, with the packages by their keys. -/
def recordEntries (env : Env) : List ActivationRecord →
    Except Exc (List (ReconcileEntry × CapabilityPackageVersion))
  | [] => .ok []
  | record :: records => do
      let entry ← record.entry env
      let entries ← recordEntries env records
      .ok (entry.toList ++ entries)

/-- The entries of the activations in memory. -/
def SlaveState.entries (host : SlaveHost) (state : SlaveState) : List ReconcileEntry :=
  state.activations.filterMap fun entry =>
    ((state.findCachedPackage entry.2.packageVersionRef (some entry.2.packageDigest)).filter
      CapabilityPackageVersion.usesRuntimePlugin).map fun package =>
        { activationKey := entry.1, workspaceId := host.workspaceId, slaveId := host.slaveId
          packageVersionRef := package.versionRef, packageDigest := package.packageDigest
          packagePayload := package, desiredState := entry.2.desiredState
          activationRevision := entry.2.activationRevision
          runtimeProfile := entry.2.runtimeProfile }

/-! ### The response of the runtime -/

/-- The first item of a group with a key. -/
def keyedItem (key : String) : List Json → Except Exc (Option Dict)
  | [] => .ok none
  | .obj item :: items =>
      if Dict.get item "activation_key" = .str key then .ok (some item) else keyedItem key items
  | _ :: _ => .error ⟨.attributeError, "get"⟩

/-- The first item of the response with a key. -/
def responseItem (key : String) : Dict → Except Exc (Option Dict)
  | [] => .ok none
  | (_, .obj group) :: groups => do
      let items ← ((group.lookup "activations").getD (.arr [])).iterate
      match ← keyedItem key items with
      | some item => .ok (some item)
      | none => responseItem key groups
  | _ :: groups => responseItem key groups

/-- The states that `reconcile_activations` takes over. -/
def ActivationState.ofReconciled (text : String) : Option ActivationState :=
  if text = "ready" then some .ready
  else if text = "degraded" then some .degraded
  else if text = "failed" then some .failed
  else if text = "stopped" then some .stopped
  else if text = "lost" then some .lost
  else none

/-- `bool((item.get("inspect") or {}).get("running"))`. -/
def itemRunning (item : Dict) : Except Exc Bool :=
  match (Dict.get item "inspect").orElse (.obj []) with
  | .obj inspected => .ok (Dict.get inspected "running").truthy
  | _ => .error ⟨.attributeError, "get"⟩

/-- The state of an activation after its item of the response. -/
def reconciledState (env : Env) (item : Dict) (activation : CapabilityPackageActivation) :
    Except Exc ActivationState := do
  if (Dict.get item "activation_state").truthy then
    .ok ((ActivationState.ofReconciled (env.str (Dict.get item "activation_state"))).getD
      activation.activationState)
  else do
    let running ← itemRunning item
    .ok (if running then .ready else activation.activationState)

/-- The activation after its item of the response. -/
def reconciledActivation (env : Env) (item : Dict) (activation : CapabilityPackageActivation) :
    Except Exc CapabilityPackageActivation :=
  (reconciledState env item activation).map fun activationState =>
    { activation with
      activationState
      runtimeProfile :=
        match Dict.get item "runtime_profile" with
        | .obj profile => profile
        | _ => activation.runtimeProfile }

namespace ActivationOp

/-- A lifecycle operation of the Slave. -/
def ofLifecycle {α : Type} : LifecycleOp α → ActivationOp α
  | .ret value => .ret value
  | .raise error => .raise error
  | .read next => .read fun state => ofLifecycle (next state)
  | .write update next => .write update (ofLifecycle next)
  | .await query next => .await (.lifecycle query) fun answer => ofLifecycle (next answer)

variable (env : Env) (host : SlaveHost)

/-! ### Reconciliation -/

/-- `_persist_activation` of the package of an entry, or of the cached one. -/
def persistReconciled (packages : List (ReconcileEntry × CapabilityPackageVersion)) (key : String)
    (activation : CapabilityPackageActivation) (runtimePluginId lastErrorCode : String) :
    ActivationOp Unit := do
  let state ← Prog.get
  let listed := (packages.reverse.find? fun item => item.1.activationKey = key).map Prod.snd
  match listed.or (state.slave.findCachedPackage activation.packageVersionRef
      (some activation.packageDigest)) with
  | none => .ret ()
  | some package =>
      .await (.lifecycle (.persist package activation runtimePluginId [] lastErrorCode))
        Prog.ofExcept

/-- The body of the loop of `reconcile_activations`. -/
def settleEntry (packages : List (ReconcileEntry × CapabilityPackageVersion)) (response : Dict)
    (entry : ReconcileEntry) : ActivationOp Unit := do
  let state ← Prog.get
  match state.slave.activations.lookup entry.activationKey with
  | none => .ret ()
  | some activation => do
      match ← Prog.ofExcept (responseItem entry.activationKey response) with
      | none =>
          if entry.desiredState = .stopped then .ret ()
          else do
            Prog.tell (.setActivation entry.activationKey
              { activation with activationState := .lost })
            persistReconciled packages entry.activationKey
              { activation with activationState := .lost } "" "runtime_plugin_not_found"
      | some item => do
          let updated ← Prog.ofExcept (reconciledActivation env item activation)
          Prog.tell (.setActivation entry.activationKey updated)
          persistReconciled packages entry.activationKey updated
            (env.str ((Dict.get item "runtime_plugin_id").orElse (.str ""))) ""

def settleEntries (packages : List (ReconcileEntry × CapabilityPackageVersion)) (response : Dict) :
    List ReconcileEntry → ActivationOp Unit
  | [] => .ret ()
  | entry :: entries => do
      settleEntry env packages response entry
      settleEntries packages response entries

/-- What `reconcile_activations` does with its entries.  Where the runtime fails, no activation has
an item. -/
def reconcileEntries (packages : List (ReconcileEntry × CapabilityPackageVersion))
    (entries : List ReconcileEntry) : ActivationOp Dict :=
  .await (.reconcile entries) fun
    | .ok response => do
        settleEntries env packages response entries
        .ret response
    | .error error =>
        if error.kind = .runtimeError then do
          settleEntries env packages [] entries
          .ret []
        else .raise error

/-- `reconcile_activations`. -/
def reconcileActivations : ActivationOp Dict := do
  let state ← Prog.get
  if host.hasPluginHost = false ∨ state.slave.activations = [] then .ret []
  else if host.hasDatabase then
    .await .replicaRow fun
      | .error error => .raise error
      | .ok records => do
          let listed ← Prog.ofExcept (recordEntries env records)
          reconcileEntries env listed (listed.map Prod.fst)
  else reconcileEntries env [] (state.slave.entries host)

end ActivationOp

end Loom
