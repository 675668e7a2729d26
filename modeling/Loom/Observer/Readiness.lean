import Loom.Observer.Packages

/-!
# Readiness evaluation

`_evaluate_readiness` and the checks it is made of.  The evaluation refreshes the Slave
snapshot and reads content, packages and the external type checker; it writes no record.
-/

namespace Loom

open Coroutine

/-- What a readiness evaluation returns. -/
structure Readiness where
  ready : Bool
  operationRef : String
  operation : String
  blockers : List Json
  orchestration : Bool
  deriving Repr, DecidableEq, Inhabited

/-- A readiness blocker. -/
def blocker (code : String) (details : Dict := []) : Json := .obj (("code", .str code) :: details)

/-- `_schema_blocker`. -/
def schemaBlocker (schemaRef inputRef : ResourceRef) (errors : List SchemaError) : Json :=
  blocker "payload_schema_mismatch"
    [("schema_digest", .ofOption schemaRef.digest),
      ("errors", .arr (errors.map SchemaError.toJson)), ("input_ref", .str inputRef.resourceId)]

namespace Op

/-- `_validate_operation_descriptor_ref`. -/
def validateOperationDescriptorRef (env : Env) (ref : ResourceRef) : Op Unit := do
  let digest := lower (ref.digest.getD "")
  check (digest ≠ "") "operation_descriptor_unavailable"
  if isContentId ref.resourceId then
    let raw ← contentGet env
      { resourceId := ref.resourceId, identityCriterion := some "content_digest" }
    match env.jsonLoads raw with
    | .error _ => fail "operation_descriptor_unavailable"
    | .ok payload =>
        let computed ← Prog.ofExcept (env.descriptorDigest payload)
        check (computed = digest) "operation_descriptor_digest_mismatch"
  else
    match env.descriptorRegistry.lookup (ref.resourceId, digest) with
    | none => fail "operation_descriptor_unavailable"
    | some descriptor =>
        let computed ← Prog.ofExcept (env.descriptorDigest descriptor)
        check (computed = digest) "operation_descriptor_digest_mismatch"

/-- The schemas and the validator that an IoContract names can be loaded. -/
def loadContractParts (env : Env) (ref : ResourceRef) : Op Unit := do
  let contract ← loadIoContract env ref
  match contract.inputSchemaRef with
  | none => .ret ()
  | some schemaRef =>
      let schema ← loadJsonContent env schemaRef
      Prog.ofExcept (env.validateSchema schema)
  match contract.outputSchemaRef with
  | none => .ret ()
  | some schemaRef =>
      let schema ← loadJsonContent env schemaRef
      Prog.ofExcept (env.validateSchema schema)
  match contract.successValidatorRef with
  | none => .ret ()
  | some validatorRef =>
      Prog.ofExcept (requireContentRef validatorRef)
      let _ ← contentGet env validatorRef
      .ret ()

/-- `_validate_package_exports`. -/
def validatePackageExports (env : Env) : List CapabilityExport → Op Unit
  | [] => .ret ()
  | exported :: rest => do
      validateOperationDescriptorRef env exported.capabilityDescriptorRef
      orContentError (loadContractParts env exported.ioContractRef) "io_contract_invalid"
      validatePackageExports env rest

/-- `_evaluate_input_schema`. -/
def evaluateInputSchema (env : Env) (snapshot : TaskClosure) (operationRef : String) :
    Op (List Json) :=
  match snapshot.program.ioContractRef with
  | none => .ret []
  | some contractRef => do
      match ← (loadIoContract env contractRef).attempt with
      | .error error =>
          if error.isContentError then
            .ret [blocker "io_contract_unavailable"
              [("io_contract_ref", .str contractRef.resourceId)]]
          else .raise error
      | .ok contract =>
          match contract.inputSchemaRef with
          | none => .ret []
          | some schemaRef =>
              match inputBindingFor snapshot operationRef with
              | none =>
                  .ret [blocker "payload_missing"
                    [("node_id", .str (if operationRef = "" then "default" else operationRef)),
                      ("schema_digest", .ofOption schemaRef.digest)]]
              | some binding =>
                  let loaded : Op (Json × Json) := do
                    let schema ← loadJsonContent env schemaRef
                    Prog.ofExcept (env.validateSchema schema)
                    let value ← loadJsonContent env binding.inputRef
                    .ret (schema, value)
                  match ← loaded.attempt with
                  | .error error =>
                      if error.isContentError then
                        .ret [schemaBlocker schemaRef binding.inputRef
                          [{ path := "$", keyword := "json"
                             message := "input content is not valid JSON"
                             expected := .str "JSON value", observed := .str error.text }]]
                      else .raise error
                  | .ok (schema, value) =>
                      let errors ← Prog.ofExcept (env.validate schema value)
                      if errors = [] then .ret []
                      else .ret [schemaBlocker schemaRef binding.inputRef errors]

/-- The node contracts of one allowed package. -/
def evaluateNodeExports (env : Env) (package : CapabilityPackageVersion) :
    List CapabilityExport → Op (List Json)
  | [] => .ret []
  | exported :: rest => do
      let blockers ← match ← (loadIoContract env exported.ioContractRef).attempt with
        | .ok _ => (.ret [] : Op (List Json))
        | .error error =>
            if error.isContentError then
              .ret [blocker "node_io_contract_unavailable"
                [("package_ref", .str package.versionRef),
                  ("capability_descriptor_ref", exported.capabilityDescriptorRef.toJson)]]
            else .raise error
      let more ← evaluateNodeExports env package rest
      .ret (blockers ++ more)

/-- The checks of the packages that nodes may use. -/
def evaluateNodePackages (env : Env) (runId : String) : List ResourceRef → Op (List Json)
  | [] => .ret []
  | ref :: rest => do
      let repo ← Prog.get
      let blockers ← match repo.findPackage ref (some runId) with
        | none =>
            (.ret [blocker "node_package_not_found" [("package_ref", .str ref.resourceId)]] :
              Op (List Json))
        | some package => do
            let contracts ← evaluateNodeExports env package package.capabilityExports
            let repo ← Prog.get
            let target :=
              if repo.slaves.capabilities.any fun entry => repo.slaves.supports entry.1 package
              then []
              else [blocker "node_target_unavailable" [("package_ref", .str package.versionRef)]]
            .ret (contracts ++ target)
      let more ← evaluateNodePackages env runId rest
      .ret (blockers ++ more)

/-- The checks of an orchestration program's content. -/
def evaluateProgram (env : Env) (package : CapabilityPackageVersion) (programRef : ResourceRef) :
    Op (List Json) := do
  let details := [("package_ref", Json.str package.versionRef)]
  match ← contentStat programRef with
  | none => .ret [blocker "package_content_unavailable" details]
  | some stat =>
      if stat.integrityVerified = false ∨ stat.declaredDigest ≠ programRef.digest then
        .ret [blocker "package_content_unavailable" details]
      else if stat.mediaType ≠ "text/x-python" then
        .ret [blocker "orchestration_program_invalid" details]
      else
        let content ← contentGet env programRef
        match env.parseProgram content with
        | none => .ret [blocker "orchestration_program_invalid" details]
        | some source =>
            match env.entryBlockers source with
            | [] =>
                .await (.checkProgram source) fun
                  | .error (code, more) => .ret [blocker code more]
                  | .ok diagnostics =>
                      let isUnresolved := fun item : Dict =>
                        decide (Dict.get item "rule" = .str "reportUndefinedVariable")
                      let unresolved := diagnostics.filter isUnresolved
                      let typeErrors := diagnostics.filter fun item => !isUnresolved item
                      .ret ((if unresolved = [] then [] else
                          [blocker "orchestration_program_unresolved_name"
                            [("diagnostics", .arr (unresolved.map .obj))]]) ++
                        (if typeErrors = [] then [] else
                          [blocker "orchestration_program_type_error"
                            [("diagnostics", .arr (typeErrors.map .obj))]]))
            | blockers =>
                .ret [blocker "orchestration_program_type_error" [("diagnostics", .arr blockers)]]

end Op

/-- Whether a package limit exceeds the run's budget; an unreadable budget counts as exceeded. -/
def exceedsBudget (budget : Dict) (key : String) (limit : Int) : Bool :=
  match Dict.get budget key with
  | .null => false
  | raw =>
      match raw.toInt? with
      | some bound => limit > bound
      | none => true

/-- The checks of an orchestration package that need no content. -/
def orchestrationPackageBlockers (env : Env) (repo : Repo) (snapshot : TaskClosure)
    (runId : String) (package : CapabilityPackageVersion) (exported : CapabilityExport)
    (limits : OrchestrationLimits) : List Json :=
  let details := [("package_ref", Json.str package.versionRef)]
  let budget := match (repo.run? runId).bind fun run => run.closureContract with
    | some contract => contract.resourceBudget
    | none => []
  (if replayable package exported then [] else [blocker "orchestration_not_replayable" details]) ++
  (if limits.maxLiveNodes > limits.maxNodes then
    [blocker "orchestration_live_node_limit_exceeded"
      (details ++ [("limit", .int limits.maxLiveNodes), ("max_nodes", .int limits.maxNodes)])]
    else []) ++
  (if env.orchestratorRuntimeAvailable ≠ some false ∧ env.dockerOnPath = false then
    [blocker "orchestrator_runtime_unavailable"] else []) ++
  (if package.publicationState = .abandoned then
    [blocker "capability_package_abandoned" details] else []) ++
  (if exceedsBudget budget "max_nodes" limits.maxNodes then
    [blocker "orchestration_node_limit_exceeded"
      (details ++ [("limit", .int limits.maxNodes), ("budget", Dict.get budget "max_nodes")])]
    else []) ++
  (if exceedsBudget budget "max_live_nodes" limits.maxLiveNodes then
    [blocker "orchestration_live_node_limit_exceeded"
      (details ++ [("limit", .int limits.maxLiveNodes),
        ("budget", Dict.get budget "max_live_nodes")])]
    else []) ++
  (match snapshot.program.ioContractRef with
    | some ref =>
        if ref.identity = exported.ioContractRef.identity then []
        else [blocker "io_contract_mismatch" details]
    | none => [blocker "io_contract_mismatch" details])

namespace Op

/-- `_evaluate_orchestration_package`. -/
def evaluateOrchestrationPackage (env : Env) (snapshot : TaskClosure) (runId : String) :
    Op (List Json) :=
  match snapshot.programSystems.packageRef with
  | none => .ret [blocker "orchestration_package_not_bound"]
  | some packageRef => do
      let repo ← Prog.get
      match repo.findPackage packageRef (some runId) with
      | none =>
          match repo.findPackage packageRef none with
          | some foreign =>
              .ret [blocker "capability_package_scope_mismatch"
                [("package_ref", .str foreign.versionRef)]]
          | none => .ret [blocker "orchestration_package_not_found"]
      | some package =>
          if package.isOrchestrator = false then .ret [blocker "orchestration_package_invalid"]
          else
            let parsed : Except Exc (CapabilityExport × ResourceRef × OrchestrationLimits) := do
              let exported ← singleExport package
              let programRef ← packageBodyRef env package "program_content_ref"
              let limits ← orchestrationLimits env package
              .ok (exported, programRef, limits)
            match parsed with
            | .error _ => .ret [blocker "orchestration_package_invalid"]
            | .ok (exported, programRef, limits) =>
                let blockers :=
                  orchestrationPackageBlockers env repo snapshot runId package exported limits
                let program ← evaluateProgram env package programRef
                let nodes ← evaluateNodePackages env runId limits.allowed
                .ret (blockers ++ program ++ nodes)

end Op

/-- The blockers of one typed hole. -/
def holeBlockers (repo : Repo) (snapshot : TaskClosure) (runId operation : String)
    (hole : TypedHole) : List Json :=
  let holeId := ("hole_id", Json.str hole.holeId)
  if hole.status ≠ "bound" ∨ hole.bindingRef.getD "" = "" then
    [blocker "typed_hole_unbound" [holeId]]
  else
    match snapshot.computeBindings.reverse.find? fun binding => binding.holeId = hole.holeId with
    | none =>
        [blocker "compute_binding_missing" [holeId, ("binding_ref", .ofOption hole.bindingRef)]]
    | some binding =>
        if some binding.bindingId ≠ hole.bindingRef then
          [blocker "compute_binding_missing" [holeId, ("binding_ref", .ofOption hole.bindingRef)]]
        else
          let target := repo.slaves.canonicalTarget binding.targetResourceRef.resourceId
          let targetRef := ("target_resource_ref", Json.str target)
          match repo.slaves.capabilities.lookup target with
          | none => [blocker "capability_unavailable" [holeId, targetRef]]
          | some _ =>
              (if repo.slaves.isActive target then []
                else [blocker "slave_unavailable" [holeId, targetRef]]) ++
              match binding.capabilityPackageRef with
              | some packageRef =>
                  match repo.findPackage packageRef (some runId) with
                  | none =>
                      match repo.findPackage packageRef none with
                      | some foreign =>
                          [blocker "capability_package_scope_mismatch"
                            [holeId, ("source_run_ref", .str foreign.sourceRunRef)]]
                      | none => [blocker "capability_package_not_found" [holeId]]
                  | some package =>
                      (if package.publicationState = .abandoned then
                        [blocker "capability_package_abandoned"
                          [("package_ref", .str package.versionRef)]] else []) ++
                      (match package.exportFor binding.capabilityDescriptorRef with
                        | .error _ =>
                            [blocker "operation_descriptor_mismatch"
                              [("operation", .str operation)]]
                        | .ok exported =>
                            let mismatch := blocker "io_contract_mismatch"
                              [holeId, ("closure_io_contract_ref", .ofOption
                                  (snapshot.program.ioContractRef.map ResourceRef.resourceId)),
                                ("package_io_contract_ref", .str exported.ioContractRef.resourceId)]
                            match snapshot.program.ioContractRef with
                            | some ref =>
                                if ref.identity = exported.ioContractRef.identity then []
                                else [mismatch]
                            | none => [mismatch]) ++
                      (if repo.slaves.supports target package then []
                        else [blocker "runtime_provider_unavailable"
                          [("execution_kind", .str package.execution.kind)]])
              | none =>
                  if operation = "run_code" then [blocker "capability_package_required" [holeId]]
                  else if operation ≠ "" ∧
                      ((repo.slaves.operations.lookup target).getD []).contains operation
                        = false then
                    [blocker "capability_unavailable" [("operation", .str operation), targetRef]]
                  else []

/-- The blockers of an operation without typed holes, which runs on `slave-a`. -/
def defaultTargetBlockers (repo : Repo) (operation : String) : List Json :=
  let targetRef := ("target_resource_ref", Json.str "slave-a")
  (if repo.slaves.isActive "slave-a" then [] else [blocker "slave_unavailable" [targetRef]]) ++
  (if operation = "run_code" then [blocker "capability_package_required" [targetRef]]
    else if ((repo.slaves.operations.lookup "slave-a").getD []).contains operation = false then
      [blocker "capability_unavailable" [("operation", .str operation), targetRef]]
    else [])

/-- The blockers of inline IO fields, which executable closures may not carry. -/
def inlineIoBlockers (program : ProgramApplication) : List Json :=
  let fields := (if program.inputSchema = .null then [] else ["input_schema"]) ++
    (if program.outputSchema = .null then [] else ["output_schema"]) ++
    (if program.successSemantics = .null then [] else ["success_semantics"])
  if fields = [] then []
  else [blocker "inline_io_contract_forbidden" [("fields", .arr (fields.map .str))]]

namespace Op

/-- `_evaluate_readiness`. -/
def evaluateReadiness (env : Env) (snapshot : TaskClosure) (runId : String) : Op Readiness := do
  let repo ← Prog.get
  match repo.run? runId with
  | some run => refreshSlaves run.workspaceId
  | none => .ret ()
  let operationRef := snapshot.operationRef
  let operation := operationName operationRef
  let input ← evaluateInputSchema env snapshot operationRef
  let orchestration := snapshot.programSystems.execution.isOrchestrator
  let package ← if orchestration then evaluateOrchestrationPackage env snapshot runId else .ret []
  let repo ← Prog.get
  let holes := snapshot.compute.typedHoles.flatMap (holeBlockers repo snapshot runId operation)
  let fallback :=
    if operation ≠ "" ∧ snapshot.compute.typedHoles = [] ∧ orchestration = false then
      defaultTargetBlockers repo operation
    else []
  let blockers := inlineIoBlockers snapshot.program ++ input ++ package ++ holes ++ fallback
  .ret { ready := blockers.isEmpty, operationRef, operation, blockers, orchestration }

end Op

end Loom
