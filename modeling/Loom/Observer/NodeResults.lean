import Loom.Observer.Nodes

/-!
# Node results

`record_dynamic_node_result` and `fail_dynamic_node`.
-/

namespace Loom

open Coroutine

/-- What a fenced node report fixes. -/
structure NodeReport where
  nodeIndex : Nat
  node : DynamicNode
  attemptIndex : Nat
  attempt : Attempt
  executionEpoch : Int
  value : Json
  digest : String
  reported : TerminalState
  terminalError : Json
  evidence : List ValidationEvidence
  deriving Repr, DecidableEq, Inhabited

/-- The checks of `record_dynamic_node_result` before its first await after loading. -/
def fenceNodeReport (env : Env) (record : RunRecord) (nodeId : String) (result : Json) :
    Except Exc NodeReport := do
  if ¬(record.state = .running ∧ record.executionId ≠ none) then
    .error (.valueError "execution_not_running")
  match result with
  | .obj result =>
      match firstIndex? (fun node => node.nodeId = nodeId) record.dynamicNodes with
      | none => .error (.valueError "dynamic_node_not_found")
      | some nodeIndex =>
          let node := record.dynamicNodes.getD nodeIndex default
          if Dict.get result "execution_id" ≠ .ofOption record.executionId then
            .error (.valueError "stale_execution_id")
          match (Dict.get result "execution_epoch").toInt? with
          | none => .error (.valueError "stale_execution_epoch")
          | some executionEpoch =>
              if executionEpoch ≠ record.executionEpoch then
                .error (.valueError "stale_execution_epoch")
              match lastIndex? (fun attempt =>
                  Json.str attempt.attemptId = Dict.get result "attempt_id" ∧
                    attempt.nodeId = some nodeId) record.attempts with
              | none => .error (.valueError "stale_attempt")
              | some attemptIndex =>
                  let attempt := record.attempts.getD attemptIndex default
                  if (attempt.executionEpoch : Int) ≠ executionEpoch then
                    .error (.valueError "stale_attempt")
                  if attempt.state.isActive = false then .error (.valueError "stale_attempt")
                  match result.lookup "value" with
                  | none => .error (.valueError "output_missing")
                  | some value =>
                      if Dict.has result "digest" then
                        .error (.valueError "redundant_result_digest")
                      let digest ← env.resultDigest value
                      match TerminalState.ofReport? (Dict.get result "terminal_state") with
                      | none => .error (.valueError "invalid_terminal_state")
                      | some reported =>
                          let evidence ← match Dict.get result "validation_evidence" with
                            | .null => .ok []
                            | .arr items =>
                                parseEvidence env attempt.attemptId executionEpoch digest items
                            | _ => .error (.valueError "invalid_validation_evidence")
                          .ok { nodeIndex, node, attemptIndex, attempt, executionEpoch, value
                                digest, reported, evidence
                                terminalError := match Dict.get result "terminal_error" with
                                  | .obj entries => .obj entries
                                  | _ => .null }
  | _ => .error (.valueError "invalid_result")

/-- Slave evidence of a node result agrees with the node contract. -/
def crossCheckNodeEvidence (contract : IoContract) : List ValidationEvidence → Except Exc Unit
  | [] => .ok ()
  | item :: rest =>
      if sameRef item.schemaRef contract.outputSchemaRef = false then
        .error (.valueError "validation_evidence_schema_mismatch")
      else if sameRef item.validatorRef contract.successValidatorRef = false then
        .error (.valueError "validation_evidence_validator_mismatch")
      else crossCheckNodeEvidence contract rest

/-- `str(exc).startswith("validation_evidence_")`. -/
def Exc.isEvidenceError (error : Exc) : Bool :=
  "validation_evidence_".toList.isPrefixOf error.text.toList

/-- The schema error that a failing validator adds. -/
def validatorSchemaError (env : Env) (message : String) (errors : List Json) : SchemaError :=
  { path := "$", keyword := "validator", message, expected := .str "validator pass"
    observed := .str (env.text (.arr errors)) }

/-- `error is None or isinstance(error, dict)`. -/
def isErrorObject : Option Json → Bool
  | none | some (.obj _) => true
  | some _ => false

/-- The reason of a failed node. -/
def failureReason (error : Option Json) : Json :=
  match error with
  | some error => error.orElse (.obj [("code", .str "dynamic_node_failed")])
  | none => .obj [("code", .str "dynamic_node_failed")]

/-- The outcome of a run whose node was failed by a call. -/
def RunRecord.nodeFailureOutcome (record : RunRecord) (reason : Json) : Dict :=
  outcomeOf "awaiting_decision" (.str "repair") (.str "failed") reason record
    [("resource_ref", .null)]

/-- The attempt that `fail_dynamic_node` is asked to fail is current and active. -/
def RunRecord.canFailAttempt (record : RunRecord) (nodeId : String) (attemptId : Option String) :
    Bool :=
  match attemptId with
  | none => true
  | some attemptId =>
      match record.attempts.find? fun attempt =>
          attempt.attemptId = attemptId ∧ attempt.nodeId = some nodeId with
      | none => false
      | some attempt =>
          attempt.executionEpoch = record.executionEpoch ∧ attempt.state.isActive

namespace Op

/-- Observer's check of a node's value: the contract where it could be read, and the errors. -/
def nodeSchemaErrors (env : Env) (report : NodeReport) (package : CapabilityPackageVersion) :
    Op (Option IoContract × List SchemaError) := do
  let unreadable := fun (contract : Option IoContract) (error : Exc) =>
    if error.isContentError ∧ error.isEvidenceError = false then
      (.ret (contract, [unevaluated "node output schema could not be evaluated"
        "valid output schema" error]) : Op (Option IoContract × List SchemaError))
    else .raise error
  let loaded : Op IoContract := do
    let exported ← Prog.ofExcept (package.exportFor report.node.capabilityDescriptorRef)
    loadIoContract env exported.ioContractRef
  match ← loaded.attempt with
  | .error error => unreadable none error
  | .ok contract =>
      let evaluated : Op (List SchemaError) := do
        Prog.ofExcept (crossCheckNodeEvidence contract report.evidence)
        match contract.outputSchemaRef with
        | none => .ret []
        | some schemaRef =>
            let schema ← loadJsonContent env schemaRef
            Prog.ofExcept (env.validateSchema schema)
            Prog.ofExcept (env.validate schema report.value)
      match ← evaluated.attempt with
      | .error error => unreadable (some contract) error
      | .ok errors => .ret (some contract, errors)

/-- Observer's run of the node's success validator: evidence and the errors it adds. -/
def nodeValidator (env : Env) (report : NodeReport) (contract : IoContract)
    (validatorRef : ResourceRef) : Op (ValidationEvidence × List SchemaError) := do
  let answer ← runValidator env validatorRef report.value
  let errors := match answer with
    | .ok answer => validatorErrorItems answer
    | .error error => validatorFailure error
  let passed := validatorPassed answer && errors.isEmpty
  let evidenceId ← uuid env
  .ret
    ({ evidenceId := "evidence-" ++ report.attempt.attemptId ++ "-" ++ evidenceId
       attemptId := report.attempt.attemptId, executionEpoch := report.executionEpoch
       validatorRef := some validatorRef, schemaRef := contract.outputSchemaRef
       outputDigest := some report.digest, result := if passed then .pass else .fail
       errors, issuer := .observer },
      if passed then [] else [validatorSchemaError env "node output validator failed" errors])

/-- The verdict on a node report: the evidence to keep and the errors found. -/
def judgeNode (env : Env) (runId : String) (report : NodeReport) :
    Op (List ValidationEvidence × List SchemaError) := do
  match ← (getCapabilityPackage report.node.packageRef runId).attempt with
  | .error error =>
      if error.kind = .keyError then fail "node_package_not_found" else .raise error
  | .ok package =>
      check (package.packageDigest = report.node.packageRef.digest.getD "")
        "node_package_digest_mismatch"
      let (contract, errors) ← nodeSchemaErrors env report package
      match contract with
      | some contract =>
          match contract.successValidatorRef, errors with
          | some validatorRef, [] =>
              let (evidence, errors) ← nodeValidator env report contract validatorRef
              .ret (report.evidence ++ [evidence], errors)
          | _, errors => .ret (report.evidence, errors)
      | none => .ret (report.evidence, errors)

/-- The outcome that a failed or undecided node gives the run. -/
def nodeOutcome (report : NodeReport) (record : RunRecord) (resultRef : ResourceRef)
    (terminalState : TerminalState) (terminalError : Json) : Dict :=
  let attested := terminalState = .decisionRequired
  outcomeOf "awaiting_decision" (.str (if attested then "attestation" else "repair"))
    (.str terminalState.text) terminalError record
    [("resource_ref", if attested then resultRef.toJson else .null), ("value", report.value),
      ("node_id", .str report.node.nodeId), ("attempt_id", .str report.attempt.attemptId)]

/-- The write block of `record_dynamic_node_result`. -/
def settleNode (env : Env) (address : Nat) (runId : String) (report : NodeReport)
    (resultRef : ResourceRef) (evidence : List ValidationEvidence)
    (terminalState : TerminalState) (terminalError : Json) : Op DynamicNode := do
  modify address (.updateAttempt report.attemptIndex
    { state := terminalState.attemptState, terminalError := some terminalError
      result := some (resultRef, report.value, evidence) })
  modify address (.setNodeState report.nodeIndex terminalState.nodeState)
  if terminalState = .completed then .ret ()
  else
    let record ← recordAt address
    modify address (.setOutcome (some
      (nodeOutcome report record resultRef terminalState terminalError)))
    transition address .runNeedsDecision
      (if terminalError = .null then none else some terminalError)
  let record ← recordAt address
  let provenance ← provenance env address
  appendEvent address (.nodeCompleted runId record.executionId report.node.nodeId
    (some report.attempt.attemptId) (some report.attempt.target) report.executionEpoch
    report.node.packageRef report.node.inputRefs (some resultRef) terminalState terminalError
    evidence provenance)
  persist address
  .ret { report.node with state := terminalState.nodeState }

/-- The terminal state and error of a node once Observer's errors are known. -/
def nodeVerdict (report : NodeReport) (errors : List SchemaError) : TerminalState × Json :=
  if errors = [] then (report.reported, report.terminalError)
  else
    let code := if errors.any fun error => error.keyword = "validator" then
      "success_validation_failed" else "output_schema_mismatch"
    (.failed, .obj [("code", .str code), ("errors", .arr (errors.map SchemaError.toJson))])

/-- `record_dynamic_node_result`. -/
def recordDynamicNodeResult (env : Env) (runId nodeId : String) (result : Json) :
    Op DynamicNode := do
  let address ← load runId
  let record ← recordAt address
  let report ← Prog.ofExcept (fenceNodeReport env record nodeId result)
  let (evidence, errors) ← judgeNode env runId report
  let content ← Prog.ofExcept (env.canonicalJsonBytes report.value)
  let resultRef ← contentPut env content "application/json"
  let (terminalState, terminalError) := nodeVerdict report errors
  settleNode env address runId report resultRef evidence terminalState terminalError

/-- `fail_dynamic_node`. -/
def failDynamicNode (env : Env) (runId nodeId : String) (attemptId : Option String)
    (error : Option Json) : Op DynamicNode := do
  let address ← load runId
  let record ← recordAt address
  match firstIndex? (fun node => node.nodeId = nodeId) record.dynamicNodes with
  | none => fail "dynamic_node_not_found"
  | some nodeIndex =>
      let node := record.dynamicNodes.getD nodeIndex default
      check (isErrorObject error) "invalid_error"
      let reason := failureReason error
      check (record.canFailAttempt nodeId attemptId) "stale_attempt"
      modify address (.setNodeState nodeIndex .failed)
      modify address (.failActive (some nodeId) attemptId reason)
      transition address .runNeedsDecision (some reason)
      modify address (.setOutcome (some (record.nodeFailureOutcome reason)))
      let provenance ← provenance env address
      let failed := (record.attempts.filter fun attempt =>
        attempt.matches (some nodeId) attemptId).getLast?
      appendEvent address (.nodeCompleted runId record.executionId nodeId attemptId
        (failed.map Attempt.target) record.executionEpoch node.packageRef node.inputRefs none
        .failed reason [] provenance)
      appendEvent address (.orchestrationFailed runId record.executionId record.executionEpoch
        (some nodeId) reason provenance)
      persist address
      .ret { node with state := .failed }

end Op

end Loom
