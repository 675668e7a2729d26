import Loom.Observer.Result
import Loom.Slave.App

/-!
# Running an operation on a Slave

`SlaveService.run` of `loom_v2/slave/service.py` with the checks around it: admission of the input,
execution by the process executor or a runtime plugin, and `_validate_terminal_result`.  The
registry holds the one executor that the repository has, `process:json_stdio`.
-/

namespace Loom

open Coroutine

/-- What `SlaveService` awaits when it runs an operation. -/
inductive RunQuery where
  | contentGet (digest : String)
  | contentPut (content : Bytes) (mediaType : String)
  | storedAttempt (attemptId : String)
  | storeAttempt (attemptId : String) (result : ExecutionResult)
  | runProgram (program : Bytes) (payload : Json)
  | invokePlugin (package : CapabilityPackageVersion) (exported : CapabilityExport) (payload : Dict)
      (activation : CapabilityPackageActivation) (attemptId : String)
  deriving Repr, DecidableEq, Inhabited

def RunAnswer : RunQuery → Type
  | .contentGet _ => Except Exc (Option Bytes)
  | .contentPut _ _ => Except Exc Unit
  | .storedAttempt _ => Except Exc (Option ExecutionResult)
  | .storeAttempt _ _ => Except Exc Unit
  | .runProgram _ _ => Except Exc Json
  | .invokePlugin _ _ _ _ _ => Except Exc Dict

/-- The state of a Slave that running an operation reads. -/
structure SlaveState where
  available : Bool := true
  /-- `self.replica.state == "ready"`. -/
  replicaReady : Bool := true
  supportedOperations : List String := ["run_code"]
  packageCache : List (String × CapabilityPackageVersion) := []
  activations : List (String × CapabilityPackageActivation) := []
  attempts : List (String × ExecutionResult) := []
  uuids : Nat := 0
  deriving Repr, DecidableEq, Inhabited

inductive RunWrite where
  | takeUuid
  | remember (attemptId : String) (result : ExecutionResult)
  deriving Repr, DecidableEq, Inhabited

instance : Update RunWrite SlaveState where
  apply update state :=
    match update with
    | .takeUuid => { state with uuids := state.uuids + 1 }
    | .remember attemptId result =>
        { state with attempts := (attemptId, result) :: state.attempts }

abbrev RunOp (α : Type) := Prog SlaveState Exc RunWrite RunAnswer α

/-- `raise RuntimeError(text)`. -/
def runtimeError (text : String) : Exc := ⟨.runtimeError, text⟩

/-- `_package_cache_key`. -/
def packageCacheKey (packageRef digest : String) : String :=
  packageRef ++ "#digest:" ++ lower digest

/-- `_find_cached_package`. -/
def SlaveState.findCachedPackage (state : SlaveState) (packageRef : String)
    (digest : Option String) : Option CapabilityPackageVersion :=
  let requested := lower (digest.getD "")
  if requested = "" then state.packageCache.lookup packageRef
  else
    match state.packageCache.lookup (packageCacheKey packageRef requested) with
    | some exact => if lower exact.packageDigest = requested then some exact else listed requested
    | none => listed requested
where
  listed (requested : String) : Option CapabilityPackageVersion :=
    (state.packageCache.map Prod.snd).find? fun item =>
      lower item.packageDigest = requested ∧ packageRef = item.versionRef

/-- `capability_snapshot`. -/
def SlaveState.capabilitySnapshot (state : SlaveState) : List String :=
  state.supportedOperations ++ state.activations.flatMap fun entry =>
    if entry.2.desiredState ≠ .running ∨ entry.2.activationState ≠ .ready then []
    else
      match state.findCachedPackage entry.2.packageVersionRef (some entry.2.packageDigest) with
      | none => []
      | some package => package.capabilityExports.map fun exported =>
          operationName exported.capabilityDescriptorRef.resourceId

/-- `_selected_export`. -/
def selectedExport (package : CapabilityPackageVersion) (binding : Option ComputeBinding) :
    Except Exc CapabilityExport :=
  match binding with
  | none => .error (runtimeError "capability_descriptor_binding_required")
  | some binding =>
      match package.exportFor binding.capabilityDescriptorRef with
      | .ok exported => .ok exported
      | .error _ => .error (runtimeError "capability_descriptor_binding_mismatch")

/-- `_uses_runtime_plugin`. -/
def CapabilityPackageVersion.usesRuntimePlugin (package : CapabilityPackageVersion) : Bool :=
  !package.isOrchestrator &&
    (package.packageType, package.execution.kind, package.execution.version) ≠
      ("function", "process:json_stdio", "1")

/-- `ExecutionResult.digest`. -/
def ExecutionResult.digest (result : ExecutionResult) : String := result.resourceRef.digest.getD ""

/-- `_result`: what the process executor makes of a value. -/
def executorResult (env : Env) (value : Json) : Except Exc ExecutionResult :=
  (env.resultDigest value).map fun digest =>
    { resourceRef :=
        { resourceId := contentPrefix ++ digest, identityCriterion := some "content_digest" }
      value, terminalState := "completed", terminalError := .null, validationEvidence := []
      provenance := .null, replaySafety := "DeclaredByPackage" }

/-! ### The input of an operation -/

/-- The binding that `_admission_payload` takes. -/
def TaskClosure.admissionBinding (closure : TaskClosure) (operation : String) :
    Option NodeInputBinding :=
  let operationRef := closure.operationRef
  let name := if operationRef = "" then operation else operationName operationRef
  closure.nodeInputBindings.find? fun binding =>
    binding.nodeId = operationRef ∨ binding.nodeId = name ∨ binding.nodeId = operation ∨
      binding.nodeId = "default"

/-- The binding whose digest `_validate_terminal_result` puts into evidence. -/
def TaskClosure.evidenceBinding (closure : TaskClosure) : Option NodeInputBinding :=
  let operationRef := closure.operationRef
  closure.nodeInputBindings.find? fun binding =>
    binding.nodeId = operationRef ∨ binding.nodeId = operationName operationRef ∨
      binding.nodeId = "default"

/-- `closure.program` has an operation that `run` is not asked for. -/
def TaskClosure.mismatches (closure : TaskClosure) (operation : String) : Bool :=
  let expected := operationName closure.operationRef
  expected ≠ "" && expected ≠ operation

/-- The check of the typed holes at admission: the first hole that is not bound. -/
def TaskClosure.holeError (closure : TaskClosure) : Option String :=
  closure.compute.typedHoles.findSome? fun hole =>
    if hole.status ≠ "bound" ∨ hole.bindingRef.getD "" = "" then
      some ("typed_hole_unbound:" ++ hole.holeId)
    else
      match closure.computeBindings.reverse.find? fun binding => binding.holeId = hole.holeId with
      | none => some ("compute_binding_missing:" ++ hole.holeId)
      | some bound =>
          if some bound.bindingId ≠ hole.bindingRef then
            some ("compute_binding_missing:" ++ hole.holeId)
          else none

/-- The checks of `run` on the closure and the binding. -/
def admitClosure (slaveId operation : String) (closure : Option TaskClosure)
    (binding : Option ComputeBinding) : Except Exc Unit :=
  match closure with
  | none => .ok ()
  | some closure =>
      if closure.mismatches operation then .error (runtimeError "operation_binding_mismatch")
      else
        match closure.holeError with
        | some text => .error (runtimeError text)
        | none =>
            if binding.any fun binding => binding.targetResourceRef.resourceId ≠ slaveId then
              .error (runtimeError "binding_target_mismatch")
            else .ok ()

/-- The IoContract that an operation is held to. -/
def contractRefFor (exported : Option CapabilityExport) (closure : Option TaskClosure) :
    Option ResourceRef :=
  match exported with
  | some exported => some exported.ioContractRef
  | none => closure.bind fun closure => closure.program.ioContractRef

/-! ### The verdict on a result -/

def Json.isObject : Json → Bool
  | .obj _ => true
  | _ => false

/-- What the evidence of one result is about. -/
structure EvidenceSubject where
  attemptId : String
  executionEpoch : Int
  schemaRef : Option ResourceRef
  validatorRef : Option ResourceRef
  inputDigest : Option String
  outputDigest : String
  deriving Repr, DecidableEq, Inhabited

/-- `ValidationEvidence(...)` of a Slave: the errors have to be objects. -/
def EvidenceSubject.evidence (subject : EvidenceSubject) (evidenceId : String) (result : Verdict)
    (errors : List Json) : Except Exc ValidationEvidence :=
  if errors.all Json.isObject then
    .ok { evidenceId := "evidence-" ++ subject.attemptId ++ "-" ++ evidenceId
          attemptId := subject.attemptId, executionEpoch := subject.executionEpoch
          validatorRef := subject.validatorRef, schemaRef := subject.schemaRef
          inputDigest := subject.inputDigest, outputDigest := some subject.outputDigest
          result, errors, issuer := .slave }
  else .error (.valueError "ValidationEvidence")

/-- `payload.get("errors")` where it is a list. -/
def pluginErrors (answer : Json) : List Json := (Dict.get answer.entries "errors").items

/-- `"pass" if plugin_status == "pass" else "fail"`. -/
def pluginVerdict (answer : Json) : Verdict :=
  if validatorResult answer = .str "pass" then .pass else .fail

/-- The result of an operation that validation has failed. -/
def ExecutionResult.reject (result : ExecutionResult) (code : String) (errors : List Json)
    (evidence : List ValidationEvidence) : ExecutionResult :=
  { result with
    terminalState := "failed"
    terminalError := .obj [("code", .str code), ("errors", .arr errors)]
    validationEvidence := evidence.map ValidationEvidence.toJson }

/-- The result of an operation that asks for an attestation. -/
def ExecutionResult.undecide (result : ExecutionResult) (evidence : List ValidationEvidence) :
    ExecutionResult :=
  { result with
    terminalState := "decision_required"
    terminalError := .obj [("code", .str "attestation_required")]
    validationEvidence := evidence.map ValidationEvidence.toJson }

/-- The result of an operation that passed validation. -/
def ExecutionResult.accept (result : ExecutionResult) (evidence : List ValidationEvidence) :
    ExecutionResult :=
  { result with validationEvidence := evidence.map ValidationEvidence.toJson }

/-- The result once the validator has been run, or where the contract has none. -/
def ExecutionResult.judge (result : ExecutionResult) (contract : IoContract)
    (evidence : List ValidationEvidence) (answer : Option (ValidationEvidence × Json)) :
    ExecutionResult :=
  match answer with
  | some (item, answer) =>
      if validatorResult answer = .str "pass" then result.accept (evidence ++ [item])
      else result.reject "success_validation_failed" (pluginErrors answer) (evidence ++ [item])
  | none =>
      if contract.successSemantics ≠ .null then result.undecide evidence
      else result.accept evidence

/-- The fields of a plugin's answer that become an `ExecutionResult`. -/
def pluginResult (env : Env) (package : CapabilityPackageVersion) (exported : CapabilityExport)
    (response : Dict) : Except Exc ExecutionResult :=
  match response.lookup "value" with
  | none => .error (runtimeError "runtime_plugin_protocol_error")
  | some value => do
      let digest ← env.resultDigest value
      let provenance ← match (Dict.get response "provenance").orElse (.obj []) with
        | .obj entries => .ok entries
        | other => env.dictOf other
      .ok
        { resourceRef :=
            { resourceId := contentPrefix ++ digest, identityCriterion := some "content_digest" }
          value
          replaySafety :=
            env.str ((Dict.get response "replay_safety").orElse (.str exported.replaySafety))
          terminalState := env.str ((Dict.get response "terminal_state").orElse (.str "completed"))
          terminalError := Dict.get response "terminal_error"
          validationEvidence := []
          provenance := .obj (provenance ++
            [("package_version_ref", .str package.versionRef),
              ("package_digest", .str package.packageDigest),
              ("capability_descriptor_ref", exported.capabilityDescriptorRef.toJson),
              ("execution", .obj [("kind", .str package.execution.kind),
                ("version", .str package.execution.version)]),
              ("runtime_plugin_id",
                .str (env.str ((Dict.get response "runtime_plugin_id").orElse (.str ""))))]) }

namespace RunOp

def uuid (env : Env) : RunOp String :=
  .read fun state => .write .takeUuid (.ret (env.hex state.uuids))

/-- `ContentStore.get`. -/
def contentGet (env : Env) (ref : ResourceRef) : RunOp Bytes :=
  match Op.digestFromRef ref with
  | .error error => .raise error
  | .ok digest => .await (.contentGet digest) fun
      | .error error => .raise error
      | .ok none => .raise ⟨.fileNotFound, "content_not_found"⟩
      | .ok (some content) =>
          if env.sha256 content = digest then .ret content
          else .raise (.valueError "content_digest_mismatch")

/-- `content_store.get(ref, expected_digest=ref.digest)`. -/
def contentGetExpected (env : Env) (ref : ResourceRef) : RunOp Bytes := do
  let digest ← Prog.ofExcept (Op.digestFromRef ref)
  match ref.digest.map Op.normalizeDigest with
  | some (.error _) => .raise (.valueError "content_digest_mismatch")
  | some (.ok expected) =>
      let content ← contentGet env ref
      Prog.guard (expected = digest) (.valueError "content_digest_mismatch")
      .ret content
  | none => contentGet env ref

/-- `json.loads(await self.content_store.get(ref))`. -/
def loadJson (env : Env) (ref : ResourceRef) : RunOp Json := do
  let raw ← contentGet env ref
  Prog.ofExcept (env.jsonLoads raw)

/-- `_load_io_contract`.  Only the parsing is guarded. -/
def loadIoContract (env : Env) (ref : ResourceRef) : RunOp IoContract := do
  let raw ← contentGet env ref
  match (env.jsonLoads raw).bind env.ioContract with
  | .ok contract => .ret contract
  | .error error =>
      if error.kind = .typeError ∨ error.kind = .valueError then
        .raise (runtimeError "io_contract_invalid")
      else .raise error

/-- The `except (FileNotFoundError, TypeError, ValueError)` of the input checks. -/
def orMismatch {α : Type} (program : RunOp α) : RunOp α := do
  match ← program.attempt with
  | .ok value => .ret value
  | .error error =>
      if error.isContentError then .raise (runtimeError "payload_schema_mismatch")
      else .raise error

/-- Check a value against the schema at a reference. -/
def evaluateSchema (env : Env) (schemaRef : ResourceRef) (value : Json) :
    RunOp (List SchemaError) := do
  let schema ← loadJson env schemaRef
  Prog.ofExcept (env.validateSchema schema)
  Prog.ofExcept (env.validate schema value)

/-- An input that does not fit its schema is refused. -/
def checkInput (env : Env) (schemaRef : Option ResourceRef) (value : Json) : RunOp Unit :=
  match schemaRef with
  | none => .ret ()
  | some schemaRef => do
      let errors ← orMismatch (evaluateSchema env schemaRef value)
      Prog.guard (errors = []) (runtimeError "payload_schema_mismatch")

/-- `_admission_payload`. -/
def admissionPayload (env : Env) (payload : Dict) (operation : String)
    (closure : Option TaskClosure) (exported : Option CapabilityExport) : RunOp Dict :=
  match closure with
  | none => .ret payload
  | some closure =>
      if closure.nodeInputBindings = [] then .ret payload
      else
        match closure.admissionBinding operation with
        | none => .raise (runtimeError "input_binding_missing")
        | some binding => do
            let contract ← match contractRefFor exported (some closure) with
              | none => (.ret none : RunOp (Option IoContract))
              | some ref => (do .ret (some (← loadIoContract env ref)))
            let value ← orMismatch (loadJson env binding.inputRef)
            checkInput env (contract.bind IoContract.inputSchemaRef) value
            .ret (validatorInput value).entries

/-- `_validate_input_payload`. -/
def validateInputPayload (env : Env) (exported : CapabilityExport) (payload : Dict) :
    RunOp Unit := do
  let contract ← loadIoContract env exported.ioContractRef
  checkInput env contract.inputSchemaRef (.obj payload)

/-- The errors that the output schema finds.  A schema that cannot be evaluated counts as one. -/
def outputErrors (env : Env) (schemaRef : ResourceRef) (value : Json) :
    RunOp (List SchemaError) := do
  match ← (evaluateSchema env schemaRef value).attempt with
  | .ok errors => .ret errors
  | .error error =>
      if error.isContentError then
        .ret [unevaluated "output schema could not be evaluated" "valid output schema" error]
      else .raise error

/-- Run the success validator of a contract.  What fails here is raised. -/
def runValidator (env : Env) (validatorRef : ResourceRef) (value : Json) : RunOp Json := do
  let program ← contentGet env validatorRef
  Prog.guard (program ≠ []) (.valueError "program_required")
  .await (.runProgram program (validatorInput value)) Prog.ofExcept

/-- `_evidence`. -/
def evidence (env : Env) (subject : EvidenceSubject) (result : Verdict) (errors : List Json) :
    RunOp ValidationEvidence := do
  let evidenceId ← uuid env
  Prog.ofExcept (subject.evidence evidenceId result errors)

/-- The output schema of a contract: evidence and the errors found. -/
def checkOutput (env : Env) (contract : IoContract) (subject : EvidenceSubject) (value : Json) :
    RunOp (Option (ValidationEvidence × List SchemaError)) :=
  match contract.outputSchemaRef with
  | none => .ret none
  | some schemaRef => do
      let errors ← outputErrors env schemaRef value
      let item ← evidence env subject (if errors = [] then .pass else .fail)
        (errors.map SchemaError.toJson)
      .ret (some (item, errors))

/-- The success validator of a contract: evidence and the validator's answer. -/
def checkValidator (env : Env) (contract : IoContract) (subject : EvidenceSubject)
    (value : Json) : RunOp (Option (ValidationEvidence × Json)) :=
  match contract.successValidatorRef with
  | none => .ret none
  | some validatorRef => do
      let answer ← runValidator env validatorRef value
      let item ← evidence env subject (pluginVerdict answer) (pluginErrors answer)
      .ret (some (item, answer))

/-- `_validate_terminal_result`. -/
def validateTerminalResult (env : Env) (result : ExecutionResult) (attemptId : String)
    (executionEpoch : Int) (closure : Option TaskClosure) (exported : Option CapabilityExport) :
    RunOp ExecutionResult :=
  match contractRefFor exported closure with
  | none => .ret result
  | some contractRef => do
      let contract ← loadIoContract env contractRef
      let subject : EvidenceSubject :=
        { attemptId, executionEpoch, schemaRef := contract.outputSchemaRef
          validatorRef := contract.successValidatorRef
          inputDigest := (closure.bind TaskClosure.evidenceBinding).bind fun binding =>
            binding.inputRef.digest
          outputDigest := result.digest }
      match ← checkOutput env contract subject result.value with
      | some (failed, error :: errors) =>
          .ret (result.reject "output_schema_mismatch" ((error :: errors).map SchemaError.toJson)
            [failed])
      | schema =>
          let answer ← checkValidator env contract subject result.value
          .ret (result.judge contract (schema.map Prod.fst).toList answer)

/-! ### Execution -/

/-- `adapter.invoke(payload, program=program)` of the process executor. -/
def invokeExecutor (env : Env) (package : CapabilityPackageVersion) (payload : Dict) :
    RunOp ExecutionResult := do
  let programRef ← match packageBodyRef env package "program_content_ref" with
    | .ok ref => (.ret ref : RunOp ResourceRef)
    | .error error => .raise (runtimeError error.text)
  let program ← contentGetExpected env programRef
  Prog.guard (program ≠ []) (.valueError "program_required")
  let value ← .await (.runProgram program (.obj payload)) Prog.ofExcept
  let result ← Prog.ofExcept (executorResult env value)
  .ret
    { result with
      provenance := .obj [("package_version_ref", .str package.versionRef),
        ("package_digest", .str package.packageDigest), ("program_content_ref", programRef.toJson),
        ("execution", .obj [("kind", .str package.execution.kind),
          ("version", .str package.execution.version)]),
        ("executor_descriptor_ref", .str "executor://function/process:json_stdio/1")] }

/-- `self.runtime_plugin_host.invoke(...)` on a ready activation. -/
def invokePlugin (env : Env) (package : CapabilityPackageVersion) (exported : CapabilityExport)
    (payload : Dict) (attemptId : String) : RunOp ExecutionResult :=
  .read fun state =>
    match state.activations.lookup package.versionRef with
    | none => .raise (runtimeError "capability_activation_not_ready")
    | some activation =>
        if activation.activationState ≠ .ready then
          .raise (runtimeError "capability_activation_not_ready")
        else
          .await (.invokePlugin package exported payload activation attemptId) fun
            | .error error =>
                if error.kind = .runtimeError then
                  .raise (runtimeError
                    (if error.text = "" then "runtime_plugin_unavailable" else error.text))
                else .raise error
            | .ok response => Prog.ofExcept (pluginResult env package exported response)

/-- The package that an operation runs, as found in the cache. -/
def findPackage (operation : String) (binding : Option ComputeBinding) :
    RunOp (Option CapabilityPackageVersion) :=
  .read fun state =>
    match binding.bind fun binding => binding.capabilityPackageRef with
    | some ref =>
        match state.findCachedPackage ref.resourceId ref.digest with
        | some package => .ret (some package)
        | none => .raise (runtimeError "capability_package_not_installed")
    | none =>
        if state.supportedOperations.contains operation then .ret none
        else .raise (runtimeError ("capability_unavailable:" ++ operation))

/-- `CapabilityPackageVersion.model_validate(package.model_dump(mode="json"))`. -/
def revalidate (env : Env) (package : CapabilityPackageVersion) :
    Except Exc CapabilityPackageVersion :=
  match env.packageDigest package with
  | .ok packageDigest => .ok { package with packageDigest }
  | .error error =>
      if error.kind = .typeError ∨ error.kind = .valueError then
        .error (runtimeError "capability_package_invalid")
      else .error error

/-- The part of `run` that executes an attempt which has no result yet. -/
def execute (env : Env) (attemptId operation : String) (payload : Dict)
    (closure : Option TaskClosure)
    (executionEpoch : Int) (package : CapabilityPackageVersion) (exported : CapabilityExport) :
    RunOp ExecutionResult := do
  let payload ← admissionPayload env payload operation closure (some exported)
  validateInputPayload env exported payload
  let result ← if package.usesRuntimePlugin then invokePlugin env package exported payload attemptId
    else invokeExecutor env package payload
  let result ← validateTerminalResult env result attemptId executionEpoch closure (some exported)
  let content ← Prog.ofExcept (env.canonicalJsonBytes result.value)
  .await (.contentPut content "application/json") Prog.ofExcept
  let stored :=
    { result with
      resourceRef :=
        { resourceId := contentPrefix ++ env.sha256 content
          identityCriterion := some "content_digest"
          accessBinding := .obj [("media_type", .str "application/json")] } }
  Prog.tell (.remember attemptId stored)
  .await (.storeAttempt attemptId stored) Prog.ofExcept
  .ret stored

/-- `run`. -/
def run (env : Env) (slaveId attemptId operation : String) (payload : Dict)
    (closure : Option TaskClosure) (binding : Option ComputeBinding) (executionEpoch : Int) :
    RunOp ExecutionResult := do
  let state ← Prog.get
  Prog.guard (state.available = true ∧ state.replicaReady = true) (runtimeError "slave_unavailable")
  let cached ← findPackage operation binding
  Prog.ofExcept (admitClosure slaveId operation closure binding)
  match cached with
  | none => .raise (runtimeError "capability_package_required")
  | some package => do
      let package ← Prog.ofExcept (revalidate env package)
      let exported ← Prog.ofExcept (selectedExport package binding)
      match state.attempts.lookup attemptId with
      | some result => .ret result
      | none =>
          match ← .await (.storedAttempt attemptId) Prog.ofExcept with
          | some result => do
              Prog.tell (.remember attemptId result)
              .ret result
          | none =>
              execute env attemptId operation payload closure executionEpoch package exported

end RunOp

end Loom
