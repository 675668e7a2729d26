import Loom.Observer.NodeResults

/-!
# Completion of an orchestration

`complete_orchestration`: the nodes are all completed, the final value is loaded and checked
against the committed contract, its digest and the lineage, and the run completes, asks for an
attestation or asks for a repair.
-/

namespace Loom

open Coroutine

/-- The attempt whose result a completed node contributes to the lineage. -/
def RunRecord.completedAttempt (record : RunRecord) (nodeId : String) : Option Attempt :=
  record.attempts.reverse.find? fun attempt =>
    attempt.nodeId = some nodeId ∧ attempt.state = .completed ∧ attempt.resultRef.isSome

/-- The lineage of an orchestration result: one entry for each node with a completed attempt. -/
def RunRecord.lineage (record : RunRecord) (provenance : Provenance) : List LineageEntry :=
  record.dynamicNodes.filterMap fun node =>
    match record.completedAttempt node.nodeId with
    | none => none
    | some attempt => attempt.resultRef.map fun resultRef =>
        { nodeId := node.nodeId, intentId := node.intentId, packageRef := node.packageRef
          inputRefs := node.inputRefs, attemptId := attempt.attemptId, target := attempt.target
          executionEpoch := attempt.executionEpoch, resultRef, provenance }

/-- The result digests of a lineage. -/
def lineageDigests (lineage : List LineageEntry) : List String :=
  lineage.map fun entry => lower (entry.resultRef.digest.getD "")

/-- What `complete_orchestration` has loaded: the final value, the contract and the errors. -/
structure FinalValue where
  value : Option Json
  contract : Option IoContract
  errors : List SchemaError
  deriving Repr, DecidableEq, Inhabited

/-- The digest and lineage checks of the final value. -/
def finalRefErrors (finalRef : ResourceRef) (digest : String) (lineage : List LineageEntry) :
    List SchemaError :=
  (if lower (finalRef.digest.getD "") = digest then [] else
    [{ path := "$", keyword := "digest", message := "final ref digest mismatch"
       expected := .str digest, observed := .ofOption finalRef.digest }]) ++
  (if (lineageDigests lineage).contains digest then [] else
    [{ path := "$", keyword := "lineage"
       message := "final output must reference a completed dynamic node"
       expected := .str "completed node result", observed := .str finalRef.resourceId }])

/-- The error of a final value whose validator reported errors. -/
def finalValidatorErrors (env : Env) (answer : Except Exc Json) : List SchemaError :=
  let errors := match answer with
    | .ok answer =>
        if validatorResult answer = .str "pass" then [] else validatorErrorItems answer
    | .error error => validatorFailure error
  if errors = [] then [] else [validatorSchemaError env "final output validator failed" errors]

/-- The contract leaves success to an attestation. -/
def IoContract.asksAttestation (contract : IoContract) : Bool :=
  contract.successValidatorRef = none ∧ contract.successSemantics ≠ .null

/-- The terminal error of a rejected final value. -/
def completionError (errors : List SchemaError) : Json :=
  .obj [("code", .str (if errors.any fun error => error.keyword = "lineage"
      then "orchestration_lineage_mismatch" else "output_schema_mismatch")),
    ("errors", .arr (errors.map SchemaError.toJson))]

/-- The outcome of a rejected final value. -/
def RunRecord.finalRepair (record : RunRecord) (errors : List SchemaError)
    (provenance : Provenance) : Dict :=
  outcomeOf "awaiting_decision" (.str "repair") (.str "failed") (completionError errors) record
    [("resource_ref", .null), ("provenance", provenance.toJson)]

/-- The outcome of a final value that asks for an attestation. -/
def RunRecord.finalAttestation (record : RunRecord) (finalRef : ResourceRef) (value : Json)
    (provenance : Provenance) : Dict :=
  outcomeOf "awaiting_decision" (.str "attestation") (.str "decision_required") .null record
    [("resource_ref", finalRef.toJson), ("value", value), ("provenance", provenance.toJson)]

/-- The outcome of a completed orchestration. -/
def RunRecord.finalOutcome (record : RunRecord) (finalRef : ResourceRef) (value : Json)
    (lineage : List LineageEntry) (provenance : Provenance) : Dict :=
  [("disposition", .str "completed"), ("decision", .null), ("terminal_state", .str "completed"),
    ("execution_id", .ofOption record.executionId),
    ("execution_epoch", .int record.executionEpoch), ("resource_ref", finalRef.toJson),
    ("value", value), ("lineage", .arr (lineage.map LineageEntry.toJson)),
    ("provenance", provenance.toJson)]

/-- The run can be completed: it is running, orchestrated, and every node is completed. -/
def fenceCompletion (record : RunRecord) : Except Exc ResourceRef :=
  if ¬(record.state = .running ∧ record.executionId ≠ none) then
    .error (.valueError "execution_not_running")
  else if record.isOrchestration = false then
    .error (.valueError "orchestration_not_running")
  else if record.dynamicNodes.any fun node =>
      node.state = .failed ∨ node.state = .decisionRequired then
    .error (.valueError "dynamic_nodes_not_successful")
  else if record.dynamicNodes.any fun node => node.state ≠ .completed then
    .error (.valueError "dynamic_nodes_not_terminal")
  else
    match record.snapshot.program.ioContractRef with
    | none => .error (.valueError "io_contract_unavailable")
    | some ref => .ok ref

namespace Op

/-- Load the final value and check it against the contract's output schema. -/
def loadFinal (env : Env) (finalRef contractRef : ResourceRef) : Op FinalValue := do
  let unreadable := fun (value : Option Json) (contract : Option IoContract) (error : Exc) =>
    if error.isContentError then
      (.ret ⟨value, contract, [unevaluated "final output schema could not be evaluated"
        "valid final output" error]⟩ : Op FinalValue)
    else .raise error
  match ← (loadJsonContent env finalRef).attempt with
  | .error error => unreadable none none error
  | .ok value =>
      match ← (loadIoContract env contractRef).attempt with
      | .error error => unreadable (some value) none error
      | .ok contract =>
          let evaluated : Op (List SchemaError) :=
            match contract.outputSchemaRef with
            | none => .ret []
            | some schemaRef => do
                let schema ← loadJsonContent env schemaRef
                Prog.ofExcept (env.validateSchema schema)
                Prog.ofExcept (env.validate schema value)
          match ← evaluated.attempt with
          | .error error => unreadable (some value) (some contract) error
          | .ok errors => .ret ⟨some value, some contract, errors⟩

/-- The errors that the final value's success validator adds. -/
def validateFinal (env : Env) (final : FinalValue) (errors : List SchemaError) :
    Op (List SchemaError) :=
  match errors, final.contract.bind IoContract.successValidatorRef with
  | [], some validatorRef => do
      let answer ← runValidator env validatorRef (final.value.getD .null)
      .ret (finalValidatorErrors env answer)
  | errors, _ => .ret errors

/-- The write blocks of `complete_orchestration`. -/
def settleOrchestration (address : Nat) (runId : String) (finalRef : ResourceRef)
    (final : FinalValue) (errors : List SchemaError) (lineage : List LineageEntry)
    (provenance : Provenance) : Op Nat := do
  let record ← recordAt address
  if errors ≠ [] then
    transition address .runNeedsDecision (some (completionError errors))
    modify address (.setOutcome (some (record.finalRepair errors provenance)))
    appendEvent address (.orchestrationFailed runId record.executionId record.executionEpoch none
      (completionError errors) provenance)
  else if (final.contract.map IoContract.asksAttestation).getD false then
    transition address .runNeedsDecision
    modify address (.setOutcome (some
      (record.finalAttestation finalRef (final.value.getD .null) provenance)))
    appendEvent address (.orchestrationDecisionRequired runId record.executionId
      record.executionEpoch finalRef provenance)
  else
    transition address .runSucceeded
    modify address (.setOutcome (some
      (record.finalOutcome finalRef (final.value.getD .null) lineage provenance)))
    appendEvent address (.orchestrationCompleted runId record.executionId record.executionEpoch
      finalRef lineage provenance)
  persist address
  .ret address

/-- `complete_orchestration`. -/
def completeOrchestration (env : Env) (runId : String) (finalRef : ResourceRef) : Op Nat := do
  let address ← load runId
  let record ← recordAt address
  let contractRef ← Prog.ofExcept (fenceCompletion record)
  let final ← loadFinal env finalRef contractRef
  let digest ← match final.value with
    | some value => Prog.ofExcept (env.resultDigest value)
    | none => (.ret "" : Op String)
  let repo ← Prog.get
  let package := record.snapshot.programSystems.packageRef.bind fun ref =>
    repo.findPackage ref (some runId)
  let provenance ← provenance env address package
  let lineage := (repo.heap address).lineage provenance
  let errors := final.errors ++
    (if final.value.isSome then finalRefErrors finalRef digest lineage else [])
  let errors ← validateFinal env final errors
  settleOrchestration address runId finalRef final errors lineage provenance

end Op

end Loom
