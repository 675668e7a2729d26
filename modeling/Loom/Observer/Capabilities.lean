import Loom.Observer.Calls

/-!
# Packages and activations

`abandon_capability_package`, `promote_capability_package`, `set_capability_desired` and
`record_capability_health`.  A package is an object in the list of a record: `_find_package` hands
out the object, so the model keeps its place (`PackagePlace`) and reads it again where the code
reads a field after an await.
-/

namespace Loom

open Coroutine

/-- A package version as it was found, and the place of the object. -/
structure PackagePlace where
  address : Nat
  index : Nat
  package : CapabilityPackageVersion
  deriving Repr, DecidableEq, Inhabited

namespace Repo

/-- The packages of all records with their places. -/
def packagePlaces (repo : Repo) : List PackagePlace :=
  repo.runs.flatMap fun entry =>
    (repo.heap entry.2).capabilityPackages.zipIdx.map fun item => ⟨entry.2, item.2, item.1⟩

/-- `_find_package`, with the place of the package. -/
def locatePackage (repo : Repo) (ref : ResourceRef) (runId : Option String) :
    Option PackagePlace :=
  let digest := ref.digest.getD ""
  let candidates := repo.packagePlaces.filter fun place =>
    repo.packageVisible place.package runId ∧ ref.resourceId = place.package.versionRef ∧
      (digest = "" ∨ digest = lower place.package.packageDigest)
  match candidates with
  | [] => none
  | first :: rest =>
      some (rest.foldl (fun best item =>
        if prefers item.package best.package then item else best) first)

theorem packages_places (repo : Repo) :
    repo.packagePlaces.map PackagePlace.package =
      repo.records.flatMap fun record => record.capabilityPackages := by
  unfold packagePlaces records
  rw [List.map_flatMap, List.flatMap_map]
  congr 1
  funext entry
  rw [List.map_map]
  exact List.zipIdx_map_fst 0 _

theorem foldl_prefers (rest : List PackagePlace) (first : PackagePlace) :
    (rest.foldl (fun best item =>
        if prefers item.package best.package then item else best) first).package =
      (rest.map PackagePlace.package).foldl (fun best item =>
        if prefers item best then item else best) first.package := by
  induction rest generalizing first with
  | nil => rfl
  | cons place rest ih =>
      rw [List.foldl_cons, List.map_cons, List.foldl_cons, ih]
      congr 1
      split
      · rfl
      · rfl

/-- The package at the place is the one that `findPackage` finds. -/
theorem locatePackage_package (repo : Repo) (ref : ResourceRef) (runId : Option String) :
    (repo.locatePackage ref runId).map PackagePlace.package = repo.findPackage ref runId := by
  unfold locatePackage findPackage
  dsimp only
  rw [← packages_places, List.filter_map]
  dsimp only [Function.comp_def]
  split
  · rename_i empty
    rw [empty]
    rfl
  · rename_i first rest found
    rw [found, Option.map_some, foldl_prefers]
    rfl

/-- `_project_ready_capabilities(slave_id)`. -/
def projectedView (repo : Repo) (slaveId : String) : SlaveView :=
  match repo.slaves.agents.lookup slaveId with
  | none => repo.slaves
  | some agent =>
      { repo.slaves with
        operations := repo.slaves.operations.map fun entry =>
          if entry.1 = slaveId then (slaveId, baseOperations agent ++ repo.readyOperations slaveId)
          else entry }

end Repo

/-- `_reusable_matches_candidate`. -/
def reusableMatchesCandidate (reusable candidate : CapabilityPackageVersion) : Bool :=
  if reusable.scope ≠ .workspaceReusable ∨ reusable.publicationState ≠ .published then false
  else if reusable.packageId ≠ candidate.packageId then false
  else if reusable.provenance.any fun entry =>
      Dict.get entry.entries "derived_from" = .str candidate.versionRef &&
        Dict.get entry.entries "derived_from_digest" = .str candidate.packageDigest then true
  else
    reusable.packageVersion = candidate.packageVersion ++ "-reusable" ∧
      reusable.packageType = candidate.packageType ∧
      reusable.packageDigest = candidate.packageDigest ∧
      reusable.sourceRunRef = candidate.sourceRunRef ∧
      reusable.sourceClosureVersionRef = candidate.sourceClosureVersionRef

/-- The reusable version of a candidate before it gets its digest. -/
def reusableVersion (candidate : CapabilityPackageVersion) (idempotencyKey : Option String) :
    CapabilityPackageVersion :=
  { candidate with
    packageVersion := candidate.packageVersion ++ "-reusable"
    scope := .workspaceReusable
    publicationState := .published
    provenance := candidate.provenance ++
      [.obj [("derived_from", .str candidate.versionRef),
        ("derived_from_digest", .str candidate.packageDigest),
        ("idempotency_key", .ofOption idempotencyKey)]]
    packageDigest := "" }

/-- What keeps an orchestrator package from being promoted. -/
def promotionDenied (candidate : CapabilityPackageVersion) : Option String :=
  if !candidate.isOrchestrator then none
  else if Dict.has candidate.body "semantic_closed" &&
      !(Dict.get candidate.body "semantic_closed").truthy then
    some "package_promotion_denied:semantic_not_closed"
  else if (Dict.get candidate.body "captures_run_state").truthy ||
      (Dict.get candidate.body "captured_secret_refs").truthy ||
      (Dict.get candidate.body "captured_path_refs").truthy then
    some "package_captures_run_state"
  else none

/-- The packages have one coordinate. -/
def CapabilityPackageVersion.sameCoordinate (item package : CapabilityPackageVersion) : Bool :=
  item.packageId = package.packageId ∧ item.packageVersion = package.packageVersion

/-- `desired_state in {"running", "stopped"}`. -/
def DesiredState.ofText? : String → Option DesiredState
  | "running" => some .running
  | "stopped" => some .stopped
  | _ => none

/-- The state of an activation that is reported. -/
def HealthState.activationState : HealthState → ActivationState
  | .ready => .ready
  | .degraded => .degraded
  | .failed => .failed
  | .stopped => .stopped

/-- `allowed_transitions`. -/
def ActivationState.allows : ActivationState → HealthState → Bool
  | .notInstalled, .ready | .notInstalled, .failed | .notInstalled, .stopped => true
  | .provisioning, _ | .ready, _ | .degraded, _ | .lost, _ => true
  | .failed, .failed | .failed, .stopped => true
  | .stopped, .stopped => true
  | _, _ => false

/-- The arguments of `set_capability_desired`. -/
structure DesiredArgs where
  packageRef : ResourceRef
  targetSlave : String
  desiredState : String
  idempotencyKey : String
  runId : Option String := none
  workspaceId : Option String := none
  activationClosureVersionRef : String := ""
  computeBindingRef : String := ""
  rebuild : Bool := false
  deriving Repr, DecidableEq, Inhabited

/-- The first text that is not empty. -/
def orText (text other : String) : String := if text = "" then other else text

/-- The activation that a changed desired state asks for. -/
def DesiredArgs.activation (args : DesiredArgs) (package : CapabilityPackageVersion)
    (current : Option CapabilityPackageActivation) (desired : DesiredState) :
    CapabilityPackageActivation :=
  { packageVersionRef := package.versionRef
    packageDigest := package.packageDigest
    targetSlave := args.targetSlave
    activationClosureVersionRef := orText args.activationClosureVersionRef
      (match current with
        | some activation => activation.activationClosureVersionRef
        | none => package.packageClosureVersionRef)
    computeBindingRef := orText args.computeBindingRef
      (match current with
        | some activation => activation.computeBindingRef
        | none => "")
    desiredState := desired
    activationRevision := match current with
      | some activation => activation.activationRevision + 1
      | none => 1
    lastIdempotencyKey := args.idempotencyKey
    evidenceRefs := (current.map fun activation => activation.evidenceRefs).getD []
    activationState := match desired, current with
      | .running, _ => .provisioning
      | .stopped, some activation => activation.activationState
      | .stopped, none => .stopped
    runtimeProfile := (current.map fun activation => activation.runtimeProfile).getD [] }

/-- The current activation of a package version on a Slave. -/
def RunRecord.activation? (record : RunRecord) (versionRef targetSlave : String) :
    Option CapabilityPackageActivation :=
  record.capabilityActivations.find? fun item =>
    item.packageVersionRef = versionRef ∧ item.targetSlave = targetSlave

/-- The report that was logged under a report id. -/
def RunRecord.healthReport? (record : RunRecord) (reportId : String) :
    Option CapabilityHealthReport :=
  record.events.findSome? fun
    | .capabilityHealthReport report _ _ _ =>
        if report.reportId = reportId then some report else none
    | _ => none

namespace Op

/-- `get_capability_package`, with the place of the package. -/
def locateCapabilityPackage (ref : ResourceRef) (runId : Option String) : Op PackagePlace := do
  let _ ← allRecords
  let repo ← Prog.get
  match repo.locatePackage ref runId with
  | some place => .ret place
  | none => .raise (.keyError ref.resourceId)

/-- The package object at a place, as it is now. -/
def packageNow (place : PackagePlace) : Op CapabilityPackageVersion :=
  .read fun repo => .ret
    (((repo.heap place.address).capabilityPackages[place.index]?).getD place.package)

/-- The first record, in the order of `runs`, that a condition holds of. -/
def firstRecord (condition : RunRecord → Bool) : Op (Option Nat) :=
  .read fun repo => .ret
    ((repo.runs.find? fun entry => condition (repo.heap entry.2)).map fun entry => entry.2)

/-- The first package of some records that a condition holds of. -/
def firstPackage (addresses : List Nat) (condition : CapabilityPackageVersion → Bool) :
    Op (Option CapabilityPackageVersion) :=
  .read fun repo => .ret
    (addresses.findSome? fun address => (repo.heap address).capabilityPackages.find? condition)

/-- `abandon_capability_package`. -/
def abandonCapabilityPackage (packageRef : String) (idempotencyKey : Option String) :
    Op CapabilityPackageVersion := do
  let place ← locateCapabilityPackage { resourceId := packageRef } none
  if place.package.publicationState = .abandoned then .ret place.package
  else
    modify place.address (.abandonPackage place.index)
    match ← firstRecord fun record =>
        record.capabilityPackages.any fun item => item.sameCoordinate place.package with
    | none => packageNow place
    | some address =>
        appendEvent address
          (.capabilityPackageAbandoned place.package.versionRef idempotencyKey)
        persist address
        packageNow place

/-- The new reusable version, unless one has been stored under its coordinate. -/
def storeReusable (address : Nat) (candidate reusable : CapabilityPackageVersion)
    (idempotencyKey : Option String) : Op CapabilityPackageVersion := do
  let addresses ← allRecords
  match ← firstPackage addresses fun item => item.sameCoordinate reusable with
  | some conflicting =>
      check (conflicting.packageDigest = reusable.packageDigest)
        "capability_package_identity_conflict"
      .ret conflicting
  | none =>
      modify address (.appendPackage reusable)
      appendEvent address (.capabilityPackagePromoted reusable.versionRef candidate.versionRef
        candidate.packageDigest idempotencyKey)
      persist address
      .ret reusable

/-- The checks on a candidate that has no reusable version, and its promotion. -/
def promoteCandidate (env : Env) (ref : ResourceRef) (candidate : CapabilityPackageVersion)
    (idempotencyKey approvedDigest : Option String) : Op CapabilityPackageVersion := do
  check (candidate.publicationState ≠ .abandoned) "capability_package_abandoned"
  check (approvedDigest.getD "" = "" ∨ approvedDigest = some candidate.packageDigest)
    "promotion_digest_mismatch"
  match promotionDenied candidate with
  | some reason => fail reason
  | none =>
      validatePackageExports env candidate.capabilityExports
      match ← firstRecord fun record => record.capabilityPackages.any fun item =>
          item.sameCoordinate candidate && item.packageDigest = candidate.packageDigest with
      | none => .raise (.keyError ref.resourceId)
      | some address =>
          let source ← recordAt address
          check source.state.isTerminal "run_not_terminal"
          let reusable := reusableVersion candidate idempotencyKey
          let packageDigest ← Prog.ofExcept (env.packageDigest reusable)
          storeReusable address candidate { reusable with packageDigest } idempotencyKey

/-- `promote_capability_package`. -/
def promoteCapabilityPackage (env : Env) (ref : ResourceRef)
    (idempotencyKey approvedDigest : Option String) : Op CapabilityPackageVersion :=
  withCapabilityLock .promotion do
    let place ← locateCapabilityPackage ref none
    if place.package.publicationState = .published ∧
        place.package.scope = .workspaceReusable then
      .ret place.package
    else
      let addresses ← allRecords
      match ← firstPackage addresses fun item => reusableMatchesCandidate item place.package with
      | some reusable => .ret reusable
      | none =>
          let candidate ← packageNow place
          promoteCandidate env ref candidate idempotencyKey approvedDigest

/-- `_activation_record`. -/
def activationRecord (package : CapabilityPackageVersion) : Op Nat := do
  let addresses ← allRecords
  let repo ← Prog.get
  match addresses.find? fun address => (repo.heap address).capabilityPackages.any fun item =>
      item.versionRef = package.versionRef && item.packageDigest = package.packageDigest with
  | some address => .ret address
  | none => .raise (.keyError package.versionRef)

/-- `_project_ready_capabilities(slave_id)`. -/
def projectReadyCapabilities (slaveId : String) : Op Unit :=
  .read fun repo => Prog.tell (.storeSlaves (repo.projectedView slaveId))

/-- The part of `set_capability_desired` under the lock of the activation. -/
def changeDesired (args : DesiredArgs) (package : CapabilityPackageVersion)
    (desired : DesiredState) : Op CapabilityPackageActivation := do
  let address ← activationRecord package
  let record ← recordAt address
  let current := record.activation? package.versionRef args.targetSlave
  check (current.all fun activation => activation.packageDigest = package.packageDigest)
    "capability_package_identity_conflict"
  let activation := args.activation package current desired
  let change : Op CapabilityPackageActivation := do
    modify address (.putActivation activation)
    appendEvent address (.capabilityDesiredStateChanged package.versionRef package.packageDigest
      args.targetSlave desired activation.activationRevision args.idempotencyKey)
    persist address
    projectReadyCapabilities args.targetSlave
    .ret activation
  match current with
  | none => change
  | some existing =>
      if existing.lastIdempotencyKey = args.idempotencyKey then
        check (existing.desiredState = desired) "idempotency_key_reused"
        .ret existing
      else if existing.desiredState = desired ∧ args.rebuild = false then .ret existing
      else change

/-- `set_capability_desired`. -/
def setCapabilityDesired (args : DesiredArgs) : Op CapabilityPackageActivation := do
  match DesiredState.ofText? args.desiredState with
  | none => fail "activation_desired_state_invalid"
  | some desired =>
      check (args.targetSlave ≠ "") "target_slave_required"
      check (args.idempotencyKey ≠ "") "idempotency_key_required"
      let place ← locateCapabilityPackage args.packageRef args.runId
      check (place.package.publicationState ≠ .abandoned) "capability_package_abandoned"
      let address ← activationRecord place.package
      let record ← recordAt address
      check (args.workspaceId.all fun workspaceId => workspaceId = record.workspaceId)
        "workspace_binding_mismatch"
      withCapabilityLock
        (.activation record.workspaceId place.package.versionRef args.targetSlave)
        (changeDesired args place.package desired)

/-- The activation after a report. -/
def reported (env : Env) (report : CapabilityHealthReport)
    (current : CapabilityPackageActivation) : Except Exc (Option CapabilityPackageActivation) := do
  let runtimeProfile ← match (Dict.get report.details "runtime_profile").orElse (.obj []) with
    | .obj entries => .ok entries
    | value => env.dictOf value
  if report.activationState.activationState ≠ current.activationState ∨
      report.evidenceRefs ≠ current.evidenceRefs ∨ runtimeProfile ≠ [] then
    .ok (some { current with
      activationState := report.activationState.activationState
      evidenceRefs := report.evidenceRefs
      runtimeProfile := if runtimeProfile = [] then current.runtimeProfile else runtimeProfile })
  else .ok none

/-- The part of `_record_capability_health_locked` after the revision has been compared. -/
def recordHealth (env : Env) (address : Nat) (package : CapabilityPackageVersion)
    (report : CapabilityHealthReport) (current : CapabilityPackageActivation) :
    Op CapabilityPackageActivation := do
  let record ← recordAt address
  match record.healthReport? report.reportId with
  | some previous =>
      check (previous.packageDigest = report.packageDigest ∧
        previous.targetSlave = report.targetSlave ∧
        previous.activationRevision = report.activationRevision ∧
        previous.activationState = report.activationState ∧
        previous.evidenceRefs = report.evidenceRefs ∧ previous.details = report.details)
        "health_report_id_reused"
      .ret current
  | none =>
      check (current.activationState.allows report.activationState)
        "activation_state_transition_invalid"
      let changed ← Prog.ofExcept (reported env report current)
      match changed with
      | some activation => modify address (.putActivation activation)
      | none => .ret ()
      let activation := changed.getD current
      appendEvent address (.capabilityHealthReport report package.versionRef
        package.packageDigest activation.desiredState)
      persist address
      projectReadyCapabilities report.targetSlave
      .ret activation

/-- `_record_capability_health_locked`. -/
def recordCapabilityHealthLocked (env : Env) (report : CapabilityHealthReport)
    (runId : Option String) : Op CapabilityPackageActivation := do
  let place ← locateCapabilityPackage { resourceId := report.packageVersionRef } runId
  check (place.package.packageDigest = report.packageDigest) "capability_package_digest_mismatch"
  let address ← activationRecord place.package
  let record ← recordAt address
  match record.activation? place.package.versionRef report.targetSlave with
  | none => fail "activation_desired_state_missing"
  | some current =>
      check (current.activationRevision ≤ report.activationRevision) "stale_activation_revision"
      check (report.activationRevision ≤ current.activationRevision) "future_activation_revision"
      recordHealth env address place.package report current

/-- `record_capability_health`. -/
def recordCapabilityHealth (env : Env) (report : CapabilityHealthReport) (runId : Option String) :
    Op CapabilityPackageActivation := do
  let place ← locateCapabilityPackage { resourceId := report.packageVersionRef } runId
  let address ← activationRecord place.package
  let record ← recordAt address
  withCapabilityLock
    (.activation record.workspaceId place.package.versionRef report.targetSlave)
    (recordCapabilityHealthLocked env report runId)

end Op

/-- A call of an operation on packages and activations. -/
inductive CapabilityCall where
  | abandon (packageRef : String) (idempotencyKey : Option String)
  | promote (packageRef : ResourceRef) (idempotencyKey approvedDigest : Option String)
  | setDesired (args : DesiredArgs)
  | recordHealth (report : CapabilityHealthReport) (runId : Option String)
  deriving Repr, DecidableEq, Inhabited

/-- What such a call returns. -/
inductive CapabilityReply where
  | package (package : CapabilityPackageVersion)
  | activation (activation : CapabilityPackageActivation)

/-- The program of such a call. -/
def CapabilityCall.prog (env : Env) : CapabilityCall → Op CapabilityReply
  | .abandon packageRef idempotencyKey =>
      (Op.abandonCapabilityPackage packageRef idempotencyKey).map .package
  | .promote packageRef idempotencyKey approvedDigest =>
      (Op.promoteCapabilityPackage env packageRef idempotencyKey approvedDigest).map .package
  | .setDesired args => (Op.setCapabilityDesired args).map .activation
  | .recordHealth report runId => (Op.recordCapabilityHealth env report runId).map .activation

/-- The operations that write run records. -/
inductive Operation where
  | call (call : Call)
  | capability (call : CapabilityCall)
  deriving Repr, DecidableEq, Inhabited

/-- The program of an operation. -/
def Operation.prog (env : Env) : Operation → Op (Reply ⊕ CapabilityReply)
  | .call made => (made.prog env).map .inl
  | .capability made => (made.prog env).map .inr

end Loom
