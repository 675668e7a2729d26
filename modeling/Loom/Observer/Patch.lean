import Loom.Observer.Lifecycle

/-!
# Patch, commit and start

`apply_patch` with its ten operation kinds, `commit` and `start`.  All patch kinds but
`materialize_capability_package_candidate` change only the copied snapshot; that one awaits
content and appends the new package to the live record.
-/

namespace Loom

open Coroutine

/-- `str(value)`. -/
def Env.str (env : Env) : Json → String
  | .str text => text
  | value => env.text value

/-- `operation[key]`. -/
def Dict.required (entries : Dict) (key : String) : Except Exc Json :=
  match entries.lookup key with
  | some value => .ok value
  | none => .error (.keyError key)

/-- `entries.get("value", {})`. -/
def Dict.valueOrObject (entries : Dict) : Json := (entries.lookup "value").getD (.obj [])

/-- `metadata.setdefault(key, []).append(item)`. -/
def appendMetadata (metadata : Dict) (key : String) (item : Json) : Except Exc Dict :=
  match metadata.lookup key with
  | none => .ok (Dict.set metadata key (.arr [item]))
  | some (.arr items) => .ok (Dict.set metadata key (.arr (items ++ [item])))
  | some _ => .error (.attributeError "object has no attribute 'append'")

/-- The kind under which a patch operation is dispatched. -/
def patchKind (operation : Dict) : Json :=
  ((Dict.get operation "kind").orElse (Dict.get operation "op")).orElse
    (Dict.get operation "operation")

/-- Bind the first hole with an id. -/
def bindHole (holes : List TypedHole) (binding : ComputeBinding) : List TypedHole :=
  match holes with
  | [] => []
  | hole :: rest =>
      if hole.holeId = binding.holeId then
        { hole with status := "bound", bindingRef := some binding.bindingId } :: rest
      else hole :: bindHole rest binding

/-- The patch kinds that change only the snapshot. -/
def patchSnapshot (env : Env) (view : SlaveView) (operation : Dict) (snapshot : TaskClosure) :
    Except Exc TaskClosure :=
  match patchKind operation with
  | .str "set_result_expectation" =>
      .ok { snapshot with
        metadata := Dict.set snapshot.metadata "result_expectation" (Dict.valueOrObject operation) }
  | .str "set_compute_spec" => do
      let compute ← env.computeSpec (← Dict.required operation "value")
      .ok { snapshot with compute }
  | .str "add_constraint" => do
      let added ← env.constraint (← Dict.required operation "value")
      .ok { snapshot with constraints := snapshot.constraints ++ [added] }
  | .str "tighten_constraint" => do
      match ← Dict.required operation "value" with
      | .obj value =>
          let parent ← Dict.required value "parent"
          let child ← Dict.required value "child"
          if ← isMonotonicTightening parent child then
            let metadata ← appendMetadata snapshot.metadata "refined_constraints" child
            .ok { snapshot with metadata }
          else .error (.valueError "constraint_not_monotonic")
      | _ => .error (.typeError "indices must be integers")
  | .str "set_program_ref" =>
      let value := match Dict.get operation "value" with
        | .obj entries => ((Dict.get entries "program_ref").orElse
            (Dict.get entries "operation_ref")).orElse (Dict.get entries "ref")
        | other => other
      match value with
      | .str text =>
          if text = "" then .error (.valueError "invalid_program_ref")
          else .ok { snapshot with program := { snapshot.program with operationRef := text } }
      | _ => .error (.valueError "invalid_program_ref")
  | .str "set_io_contract_ref" =>
      let value := match Dict.get operation "value" with
        | .obj entries => (entries.lookup "io_contract_ref").getD (.obj entries)
        | other => other
      match env.resourceRef value with
      | .ok ref =>
          .ok { snapshot with program := { snapshot.program with ioContractRef := some ref } }
      | .error _ => .error (.valueError "io_contract_ref_required")
  | .str "add_typed_hole" => do
      let hole ← env.typedHole (← Dict.required operation "value")
      if snapshot.compute.typedHoles.any fun existing => existing.holeId = hole.holeId then
        .error (.valueError ("duplicate_typed_hole:" ++ hole.holeId))
      else
        .ok { snapshot with
          compute := { snapshot.compute with typedHoles := snapshot.compute.typedHoles ++ [hole] } }
  | .str "bind_compute_hole" => do
      let value := match Dict.valueOrObject operation with
        | .obj entries => (entries.lookup "binding").getD (.obj entries)
        | other => other
      let given ← env.computeBinding value
      let target := view.canonicalTarget given.targetResourceRef.resourceId
      let binding := { given with
        targetResourceRef := { given.targetResourceRef with resourceId := target } }
      if snapshot.compute.typedHoles.any fun hole => hole.holeId = binding.holeId then
        .ok { snapshot with
          computeBindings := (snapshot.computeBindings.filter fun item =>
            item.holeId ≠ binding.holeId) ++ [binding]
          compute := { snapshot.compute with
            typedHoles := bindHole snapshot.compute.typedHoles binding } }
      else .error (.valueError ("typed_hole_not_found:" ++ binding.holeId))
  | .str "set_execution_payload" =>
      match Dict.valueOrObject operation with
      | .obj value =>
          match value.lookup "input_ref" with
          | none => .error (.valueError "input_ref_required")
          | some raw =>
              match env.resourceRef raw with
              | .error _ => .error (.valueError "input_ref_required")
              | .ok inputRef =>
                  let fallback :=
                    if snapshot.operationRef ≠ "" then snapshot.operationRef else "default"
                  let nodeId := env.str ((Dict.get value "node_id").orElse (.str fallback))
                  let provenance : Except Exc (List Json) := match value.lookup "provenance" with
                    | none => .ok []
                    | some (.arr items) => .ok items
                    | some _ => .error (.typeError "provenance is not a list")
                  provenance.map fun provenance =>
                    { snapshot with
                      nodeInputBindings := (snapshot.nodeInputBindings.filter fun item =>
                        item.nodeId ≠ nodeId) ++ [{ nodeId, inputRef, provenance }] }
      | _ => .error (.valueError "input_ref_required")
  | kind => .error (.valueError ("unsupported_patch:" ++ env.str kind))

/-- `dict(operation.get("value") or {})`. -/
def packageHeader (operation : Dict) : Except Exc Dict :=
  match (Dict.get operation "value").orElse (.obj []) with
  | .obj entries => .ok entries
  | .arr items =>
      if items.all fun item => match item with
          | .arr [.str _, _] => true
          | _ => false
      then
        .ok ((items.filterMap fun item => match item with
          | .arr [.str key, value] => some (key, value)
          | _ => none).reverse)
      else .error (.typeError "cannot convert to a dictionary")
  | _ => .error (.typeError "cannot convert to a dictionary")

/-- The keys a package header may and must have. -/
def headerIsValid (header : Dict) : Bool :=
  (header.all fun entry => ["package_id", "package_version", "package_type", "execution",
    "capability_exports", "body", "package_digest"].contains entry.1) &&
  ["package_type", "execution", "capability_exports", "body"].all fun key => Dict.has header key

/-- The package that a valid header describes. -/
def packageFromHeader (env : Env) (header : Dict) (packageId closureRef : String)
    (record : RunRecord) : Except Exc CapabilityPackageVersion := do
  let execution ← env.executionContract (Dict.get header "execution")
  let capabilityExports ← match Dict.get header "capability_exports" with
    | .arr items => validateEach env.capabilityExport items
    | _ => .error (.valueError "capability_package_invalid")
  let body ← match Dict.get header "body" with
    | .obj entries => .ok entries
    | _ => .error (.valueError "capability_package_invalid")
  let package : CapabilityPackageVersion :=
    { packageType := env.str (Dict.get header "package_type")
      packageId
      packageVersion := env.str ((Dict.get header "package_version").orElse (.str "v1"))
      packageClosureVersionRef := "package-closure-" ++ closureRef
      sourceRunRef := record.runId
      sourceClosureVersionRef := record.draft.versionId
      execution, capabilityExports, body
      packageDigest := env.str ((Dict.get header "package_digest").orElse (.str ""))
      provenance := [.obj [("source", .str "coding_agent"), ("run_id", .str record.runId)]] }
  let packageDigest ← env.packageDigest package
  .ok { package with packageDigest }

/-- The snapshot after a package has been materialized. -/
def bindPackage (package : CapabilityPackageVersion) (snapshot : TaskClosure) :
    Except Exc TaskClosure := do
  let systems ←
    if package.isOrchestrator then do
      let exported ← singleExport package
      .ok { snapshot.programSystems with
        execution := package.execution
        packageRef := some
          { resourceId := package.versionRef, versionOrDigest := some package.packageDigest }
        replaySafety := exported.replaySafety }
    else .ok snapshot.programSystems
  let metadata ←
    appendMetadata snapshot.metadata "capability_package_refs" (.str package.versionRef)
  .ok { snapshot with programSystems := systems, metadata }

/-- The package of a run with the same coordinate. -/
def RunRecord.packageAt (record : RunRecord) (package : CapabilityPackageVersion) :
    Option CapabilityPackageVersion :=
  record.capabilityPackages.find? fun item =>
    item.packageId = package.packageId ∧ item.packageVersion = package.packageVersion

namespace Op

/-- The package that a `materialize_capability_package_candidate` operation describes. -/
def preparePackage (env : Env) (address : Nat) (operation : Dict) :
    Op CapabilityPackageVersion := do
  let header ← Prog.ofExcept (packageHeader operation)
  check (headerIsValid header) "capability_package_header_invalid"
  let given := Dict.get header "package_id"
  let packageId ←
    if given.truthy then (.ret (env.str given) : Op String)
    else do .ret ("package-" ++ (← uuid env))
  let closureRef ← uuid env
  let record ← recordAt address
  match packageFromHeader env header packageId closureRef record with
  | .ok package =>
      validatePackageExports env package.capabilityExports
      .ret package
  | .error error =>
      if error.kind = .typeError ∨ error.kind = .valueError then
        fail (if error.text = "" then "capability_package_invalid" else error.text)
      else .raise error

/-- The `materialize_capability_package_candidate` branch. -/
def materializePackage (env : Env) (address : Nat) (operation : Dict) (snapshot : TaskClosure) :
    Op TaskClosure := do
  let package ← preparePackage env address operation
  let record ← recordAt address
  match record.packageAt package with
  | none =>
      modify address (.appendPackage package)
      Prog.ofExcept (bindPackage package snapshot)
  | some existing =>
      check (existing.packageDigest = package.packageDigest) "capability_package_identity_conflict"
      Prog.ofExcept (bindPackage existing snapshot)

/-- One operation of a patch. -/
def applyOperation (env : Env) (address : Nat) (operation : Dict) (snapshot : TaskClosure) :
    Op TaskClosure :=
  if patchKind operation = .str "materialize_capability_package_candidate" then
    materializePackage env address operation snapshot
  else
    .read fun repo => Prog.ofExcept (patchSnapshot env repo.slaves operation snapshot)

/-- The loop over the operations of a patch. -/
def applyOperations (env : Env) (address : Nat) : List Dict → TaskClosure → Op TaskClosure
  | [], snapshot => .ret snapshot
  | operation :: rest, snapshot => do
      let snapshot ← applyOperation env address operation snapshot
      applyOperations env address rest snapshot

/-- The checks of `apply_patch` before its loop. -/
def admitPatch (runId baseDraftVersion baseSnapshotDigest : String) : Op (Nat × RunRecord) := do
  let address ← load runId
  let record ← recordAt address
  check (record.draft.versionId = baseDraftVersion ∧
    record.draft.snapshotDigest = baseSnapshotDigest) "version_conflict"
  check (record.state = .opened ∨ record.state = .thinking ∨ record.state = .awaitingDecision)
    "illegal_state_transition"
  check (record.state = .awaitingDecision → record.decision = .str "repair")
    "illegal_state_transition"
  .ret (address, record)

/-- The new draft of a patch, written to the live record. -/
def installDraft (env : Env) (address : Nat) (admitted : RunState) (snapshot : TaskClosure) :
    Op ClosureVersion := do
  let versionId ← uuid env
  let record ← recordAt address
  let snapshotDigest ← Prog.ofExcept (env.closureDigest snapshot)
  let version : ClosureVersion :=
    { versionId := "draft-" ++ versionId, closureId := record.draft.closureId
      parentVersion := some record.draft.versionId, snapshot, snapshotDigest
      patchCursor := record.draft.patchCursor + 1 }
  modify address (.setDraft version)
  if admitted = .opened then
    transition address .refinementStarted
  else if admitted = .awaitingDecision then
    transition address .refinementStarted
    modify address (.setOutcome none)
  else .ret ()
  .ret version

/-- Readiness, receipt and events of a patch whose draft is installed. -/
def concludePatch (env : Env) (address : Nat) (runId operationId : String)
    (version : ClosureVersion) : Op PatchReceipt := do
  let receiptId ← uuid env
  let readiness ← evaluateReadiness env version.snapshot runId
  let receipt : PatchReceipt :=
    { receipt := "receipt-" ++ receiptId, runId, draftVersion := version.versionId
      draftDigest := version.snapshotDigest, snapshot := version.snapshot
      patchCursor := version.patchCursor, ready := readiness.ready
      blockers := readiness.blockers }
  Prog.tell (.storeReceipt operationId receipt)
  appendEvent address (.draftPatched operationId version.versionId)
  let packageRefs := Dict.get version.snapshot.metadata "capability_package_refs"
  if packageRefs.truthy then
    appendEvent address (.packageCandidateMaterialized operationId packageRefs)
  else .ret ()
  (.await (.storeReceipt operationId) Prog.ofExcept : Op Unit)
  persist address
  .ret receipt

/-- `apply_patch`. -/
def applyPatch (env : Env) (runId baseDraftVersion baseSnapshotDigest operationId : String)
    (operations : List Dict) : Op PatchReceipt := do
  let repo ← Prog.get
  match repo.idempotency.lookup operationId with
  | some receipt => .ret receipt
  | none =>
      let (address, record) ← admitPatch runId baseDraftVersion baseSnapshotDigest
      let snapshot ← applyOperations env address operations record.draft.snapshot
      let version ← installDraft env address record.state snapshot
      concludePatch env address runId operationId version

/-- `commit`. -/
def commit (env : Env) (runId versionId digest : String) : Op ClosureVersion := do
  let address ← load runId
  let record ← recordAt address
  check (record.state = .thinking) "illegal_state_transition"
  check (record.draft.versionId = versionId ∧ record.draft.snapshotDigest = digest)
    "version_conflict"
  let readiness ← evaluateReadiness env record.draft.snapshot runId
  let record ← recordAt address
  appendEvent address
    (.readinessInspected runId record.draft.versionId readiness.ready readiness.blockers)
  if readiness.ready then
    let committedId ← uuid env
    let committed := { record.draft with
      kind := "committed", versionId := "committed-" ++ committedId }
    modify address (.setCommitted committed)
    transition address .committed
    appendEvent address (.committed committed.versionId)
    persist address
    .ret committed
  else
    persist address
    .raise ⟨.domainError, "readiness_blocked"⟩

/-- What `start` returns. -/
structure Started where
  executionId : Option String
  state : RunState
  executionEpoch : Nat
  deriving Repr, DecidableEq, Inhabited

/-- The writes of `start`, from the new execution id on. -/
def beginExecution (env : Env) (address : Nat) (runId : String) (snapshot : TaskClosure) :
    Op Started := do
  let record ← recordAt address
  let executionEpoch := if record.executionId = none then 1 else record.executionEpoch + 1
  let executionId := "execution-" ++ (← uuid env)
  modify address (.setExecution (some executionId) executionEpoch)
  modify address (.setOutcome none)
  transition address .executionStarted
  if snapshot.programSystems.execution.isOrchestrator then .ret ()
  else
    let repo ← Prog.get
    let target := match snapshot.computeBindings with
      | [] => "slave-a"
      | binding :: _ => repo.slaves.canonicalTarget binding.targetResourceRef.resourceId
    let attemptId ← uuid env
    modify address (.appendAttempt
      { attemptId := "attempt-" ++ attemptId, target, executionEpoch })
  appendEvent address (.executionStarted executionId executionEpoch)
  if snapshot.programSystems.execution.isOrchestrator then
    let provenance ← provenance env address
    appendEvent address (.orchestrationStarted runId (some executionId) executionEpoch
      snapshot.programSystems.packageRef provenance)
  else .ret ()
  persist address
  let record ← recordAt address
  .ret { executionId := record.executionId, state := record.state
         executionEpoch := record.executionEpoch }

/-- `start`. -/
def start (env : Env) (runId versionId : String) : Op Started := do
  let address ← load runId
  let record ← recordAt address
  let isCommitted := (record.committed.map ClosureVersion.versionId) = some versionId
  if record.state = .running ∧ record.executionId ≠ none then
    check isCommitted "closure_not_committed"
    .ret { executionId := record.executionId, state := record.state
           executionEpoch := record.executionEpoch }
  else
    check (record.state = .committed) "illegal_state_transition"
    check isCommitted "closure_not_committed"
    let readiness ← evaluateReadiness env record.snapshot runId
    let record ← recordAt address
    appendEvent address
      (.readinessInspected runId record.closureVersionRef readiness.ready readiness.blockers)
    if readiness.ready then
      if record.isOrchestration then .ret ()
      else Prog.ofExcept record.checkAttemptBudget
      beginExecution env address runId record.snapshot
    else
      persist address
      .raise ⟨.domainError, "readiness_blocked"⟩

end Op

end Loom
