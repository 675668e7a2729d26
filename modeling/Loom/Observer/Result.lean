import Loom.Observer.Patch

/-!
# Results of ordinary runs

`record_result`: the report is fenced to the current attempt and epoch, its evidence is
checked, Observer validates the output schema and runs the success validator itself, and the
outcome is written.
-/

namespace Loom

open Coroutine

/-- What a fenced report fixes. -/
structure Report where
  attemptIndex : Nat
  attemptId : String
  executionEpoch : Int
  value : Json
  digest : String
  evidence : List ValidationEvidence
  deriving Repr, DecidableEq, Inhabited

/-- The first position in a list at which a test holds. -/
def firstIndex? {α : Type} (test : α → Bool) (items : List α) : Option Nat :=
  items.findIdx? test

/-- The last position in a list at which a test holds. -/
def lastIndex? {α : Type} (test : α → Bool) (items : List α) : Option Nat :=
  (items.reverse.findIdx? test).map fun index => items.length - 1 - index

/-- Parse and fence Slave evidence. -/
def parseEvidence (env : Env) (attemptId : String) (executionEpoch : Int) (digest : String) :
    List Json → Except Exc (List ValidationEvidence)
  | [] => .ok []
  | item :: rest =>
      match env.validationEvidence item with
      | .error _ => .error (.valueError "invalid_validation_evidence")
      | .ok parsed =>
          if parsed.attemptId ≠ attemptId ∨ parsed.executionEpoch ≠ executionEpoch then
            .error (.valueError "stale_validation_evidence")
          else if parsed.issuer ≠ .slave then
            .error (.valueError "invalid_validation_evidence")
          else if parsed.outputDigest ≠ none ∧ parsed.outputDigest ≠ some digest then
            .error (.valueError "validation_evidence_digest_mismatch")
          else (parseEvidence env attemptId executionEpoch digest rest).map (parsed :: ·)

/-- The optional resource ref of a report names the digest of its value. -/
def checkResourceRef (env : Env) (raw : Json) (digest : String) : Except Exc Unit :=
  match raw with
  | .null => .ok ()
  | raw =>
      match env.resourceRef raw with
      | .error _ => .error (.valueError "invalid_resource_ref")
      | .ok ref =>
          if ref.digest = some digest then .ok ()
          else .error (.valueError "resource_ref_digest_mismatch")

/-- The checks of `record_result` before its first await after loading. -/
def fenceReport (env : Env) (record : RunRecord) (result : Dict) : Except Exc Report := do
  if record.state ≠ .running then .error (.valueError "execution_not_running")
  let attemptId := Dict.get result "attempt_id"
  match firstIndex? (fun attempt => Json.str attempt.attemptId = attemptId) record.attempts with
  | none => .error (.valueError "stale_attempt")
  | some attemptIndex =>
      let attempt := record.attempts.getD attemptIndex default
      match (Dict.get result "execution_epoch").toInt? with
      | none => .error (.valueError "stale_execution_epoch")
      | some executionEpoch =>
          if executionEpoch ≠ record.executionEpoch then
            .error (.valueError "stale_execution_epoch")
          if (attempt.executionEpoch : Int) ≠ executionEpoch then
            .error (.valueError "stale_execution_epoch")
          if attempt.state.isActive = false then .error (.valueError "stale_attempt")
          if Dict.get result "execution_id" ≠ .ofOption record.executionId then
            .error (.valueError "stale_execution_id")
          match result.lookup "value" with
          | none => .error (.valueError "output_missing")
          | some value =>
              if Dict.has result "digest" then .error (.valueError "redundant_result_digest")
              let digest ← env.resultDigest value
              checkResourceRef env (Dict.get result "resource_ref") digest
              match (Dict.get result "validation_evidence").orElse (.arr []) with
              | .arr items =>
                  let evidence ←
                    parseEvidence env attempt.attemptId executionEpoch digest items
                  .ok { attemptIndex, attemptId := attempt.attemptId, executionEpoch
                        value, digest, evidence }
              | _ => .error (.valueError "invalid_validation_evidence")

/-- Slave evidence agrees with the contract that Observer resolved. -/
def crossCheckEvidence (contract : Option IoContract) (inputDigest : Option String) :
    List ValidationEvidence → Except Exc Unit
  | [] => .ok ()
  | item :: rest =>
      let schemaRef := contract.bind IoContract.outputSchemaRef
      let validatorRef := contract.bind IoContract.successValidatorRef
      if schemaRef ≠ none ∧ sameRef item.schemaRef schemaRef = false then
        .error (.valueError "validation_evidence_schema_mismatch")
      else if sameRef item.validatorRef validatorRef = false then
        .error (.valueError "validation_evidence_validator_mismatch")
      else if item.inputDigest ≠ none ∧ item.inputDigest ≠ inputDigest then
        .error (.valueError "validation_evidence_input_digest_mismatch")
      else crossCheckEvidence contract inputDigest rest

/-- The error a schema that cannot be evaluated counts as. -/
def unevaluated (message expected : String) (error : Exc) : SchemaError :=
  { path := "$", keyword := "schema", message, expected := .str expected
    observed := .str error.text }

/-- The input a validator gets: an object as it is, any other value under `value`. -/
def validatorInput : Json → Json
  | .obj entries => .obj entries
  | value => .obj [("value", value)]

/-- `str(text)[:512]`. -/
def clip (text : String) : String := String.ofList (text.toList.take 512)

/-- The error list of a validator that could not be run. -/
def validatorFailure (error : Exc) : List Json :=
  [.obj [("path", .str "$"), ("keyword", .str "validator"), ("message", .str (clip error.text))]]

/-- `validator_payload.get("result")` of a validator's answer. -/
def validatorResult (answer : Json) : Json := Dict.get answer.entries "result"

/-- The validator was run and returned `pass`. -/
def validatorPassed : Except Exc Json → Bool
  | .ok answer => validatorResult answer = .str "pass"
  | .error _ => false

/-- The object items of `validator_payload.get("errors")`. -/
def validatorErrorItems (answer : Json) : List Json :=
  (Dict.get answer.entries "errors").items.filter fun
    | .obj _ => true
    | _ => false

/-- `str(item.get(key, default))`. -/
def errorText (env : Env) (item : Json) (key default : String) : Json :=
  .str (env.str ((item.entries.lookup key).getD (.str default)))

/-- The errors `record_result` reports of a validator's answer. -/
def reportedErrors (env : Env) (answer : Json) : List Json :=
  (validatorErrorItems answer).map fun item =>
    .obj [("path", errorText env item "path" "$"),
      ("keyword", errorText env item "keyword" "validator"),
      ("message", match errorText env item "message" "validator failed" with
        | .str text => .str (clip text)
        | other => other)]

/-- The phase of a failed report.  A terminal error that is neither empty nor an object, or
whose code cannot be hashed, raises here. -/
def failedPhase (terminalError : Json) : Except Exc ResultPhase :=
  if terminalError.truthy = false then .ok .executionFailed
  else
    match terminalError with
    | .obj entries =>
        let code := Dict.get entries "code"
        if code.hashable = false then .error (.typeError "unhashable type")
        else if code = .str "output_schema_mismatch" ∨ code = .str "success_validation_failed" then
          .ok .ioSchemaRejected
        else .ok .executionFailed
    | _ => .error (.attributeError "object has no attribute 'get'")

/-- The evidence list of an outcome. -/
def evidenceJson (evidence : List ValidationEvidence) : Json :=
  .arr (evidence.map ValidationEvidence.toJson)

/-- The outcome of a failed or rejected report. -/
def repairOutcome (terminalError : Json) (evidence : List ValidationEvidence) (result : Dict) :
    Dict :=
  [("disposition", .str "awaiting_decision"), ("decision", .str "repair"),
    ("resource_ref", .null), ("terminal_state", .str "failed"),
    ("terminal_error", terminalError), ("error", terminalError),
    ("validation_evidence", evidenceJson evidence)] ++ result

/-- The outcome of a report that asks for an attestation. -/
def attestationOutcome (evidence : List ValidationEvidence) (result : Dict) : Dict :=
  [("disposition", .str "awaiting_decision"), ("decision", .str "attestation"),
    ("terminal_state", .str "decision_required"), ("terminal_error", .null),
    ("validation_evidence", evidenceJson evidence)] ++ result

/-- The outcome of a completed report. -/
def completedOutcome (evidence : List ValidationEvidence) (result : Dict) : Dict :=
  [("disposition", .str "completed"), ("decision", .null), ("terminal_state", .str "completed"),
    ("validation_evidence", evidenceJson evidence)] ++ result

/-- The outcome of an accepted report by its terminal state. -/
def resultOutcome (terminalState : TerminalState) (terminalError : Json)
    (evidence : List ValidationEvidence) (result : Dict) : Dict :=
  match terminalState with
  | .failed => repairOutcome terminalError evidence result
  | .decisionRequired => attestationOutcome evidence result
  | .completed => completedOutcome evidence result

/-- The run event of an accepted report by its terminal state. -/
def TerminalState.runEvent : TerminalState → RunEvent
  | .failed | .decisionRequired => .runNeedsDecision
  | .completed => .runSucceeded

/-- The terminal error of a value that fails Observer's schema check. -/
def schemaMismatch (errors : List Json) : Json :=
  .obj [("code", .str "output_schema_mismatch"), ("errors", .arr errors)]

namespace Op

/-- The IoContract of the committed snapshot. -/
def loadCommittedContract (env : Env) (record : RunRecord) : Op (Option IoContract) :=
  match record.committed.bind fun version => version.snapshot.program.ioContractRef with
  | none => .ret none
  | some ref => do
      let contract ← orContentError (loadIoContract env ref) "io_contract_invalid"
      .ret (some contract)

/-- Observer's own check of a value against a schema: the errors it finds.  A schema that
cannot be loaded or evaluated counts as one error. -/
def schemaErrors (env : Env) (schemaRef : ResourceRef) (value : Json)
    (message expected : String) : Op (List SchemaError) := do
  let evaluated : Op (List SchemaError) := do
    let schema ← loadJsonContent env schemaRef
    Prog.ofExcept (env.validateSchema schema)
    Prog.ofExcept (env.validate schema value)
  match ← evaluated.attempt with
  | .ok errors => .ret errors
  | .error error =>
      if error.isContentError then .ret [unevaluated message expected error] else .raise error

/-- Run the validator program of a contract on a value; failures are values here. -/
def runValidator (env : Env) (validatorRef : ResourceRef) (value : Json) :
    Op (Except Exc Json) :=
  let invoked : Op Json := do
    let program ← contentGet env validatorRef
    check (program ≠ []) "program_required"
    .await (.runValidator program (validatorInput value)) Prog.ofExcept
  invoked.attempt

/-- The write block of `record_result` for a value that fails Observer's schema check. -/
def rejectOutput (address : Nat) (report : Report) (result : Dict)
    (evidence : List ValidationEvidence) (observed : ValidationEvidence) : Op Nat := do
  modify address (.updateAttempt report.attemptIndex { state := .failed })
  let terminalError := schemaMismatch observed.errors
  modify address (.setOutcome (some (repairOutcome terminalError evidence result)))
  transition address .runNeedsDecision (some terminalError)
  let record ← recordAt address
  appendEvent address (.resultRecorded .ioSchemaRejected record.executionId report.attemptId
    report.executionEpoch terminalError .null (some observed.evidenceId))
  persist address
  .ret address

/-- The write block of `record_result` for a value that Observer accepts or whose validator
verdict it reports. -/
def settleResult (address : Nat) (report : Report) (result : Dict)
    (evidence : List ValidationEvidence) (observed : Option ValidationEvidence)
    (terminalState : TerminalState) (terminalError : Json) : Op Nat := do
  modify address (.updateAttempt report.attemptIndex { state := terminalState.attemptState })
  modify address (.setOutcome (some (resultOutcome terminalState terminalError evidence result)))
  match terminalState with
  | .failed =>
      transition address .runNeedsDecision
        (if terminalError = .null then none else some terminalError)
      let phase ← Prog.ofExcept (failedPhase terminalError)
      let record ← recordAt address
      appendEvent address (.resultRecorded phase record.executionId report.attemptId
        report.executionEpoch terminalError .null none)
  | .decisionRequired =>
      transition address .runNeedsDecision
      let record ← recordAt address
      appendEvent address (.resultRecorded .attestationRequired record.executionId
        report.attemptId report.executionEpoch terminalError .null none)
  | .completed =>
      transition address .runSucceeded
      let record ← recordAt address
      appendEvent address (.resultRecorded
        (if observed.isSome then .ioSchemaValidated else .executionCompleted)
        record.executionId report.attemptId report.executionEpoch .null
        (Dict.get result "resource_ref") (observed.map ValidationEvidence.evidenceId))
  persist address
  .ret address

/-- Observer's schema verdict on a report: its evidence and the errors it found. -/
def observeSchema (env : Env) (report : Report) (contract : Option IoContract)
    (inputDigest : Option String) : Op (Option (ValidationEvidence × List SchemaError)) :=
  match contract.bind IoContract.outputSchemaRef with
  | none => .ret none
  | some schemaRef => do
      let errors ← schemaErrors env schemaRef report.value
        "output schema could not be evaluated" "valid output schema"
      let evidenceId ← uuid env
      .ret (some
        ({ evidenceId := "evidence-" ++ report.attemptId ++ "-" ++ evidenceId
           attemptId := report.attemptId, executionEpoch := report.executionEpoch
           validatorRef := contract.bind IoContract.successValidatorRef
           schemaRef := some schemaRef, inputDigest, outputDigest := some report.digest
           result := if errors = [] then .pass else .fail
           errors := errors.map SchemaError.toJson, issuer := .observer }, errors))

/-- Observer's validator verdict on a report: its evidence, and the terminal error where the
validator did not return `pass`. -/
def observeValidator (env : Env) (report : Report) (contract : Option IoContract)
    (inputDigest : Option String) : Op (Option (ValidationEvidence × Option Json)) :=
  match contract.bind IoContract.successValidatorRef with
  | none => .ret none
  | some validatorRef => do
      let answer ← runValidator env validatorRef report.value
      let passed := validatorPassed answer
      let errors := match answer with
        | .ok answer => reportedErrors env answer
        | .error error => validatorFailure error
      let evidenceId ← uuid env
      .ret (some
        ({ evidenceId := "evidence-" ++ report.attemptId ++ "-" ++ evidenceId
           attemptId := report.attemptId, executionEpoch := report.executionEpoch
           validatorRef := some validatorRef
           schemaRef := contract.bind IoContract.outputSchemaRef, inputDigest
           outputDigest := some report.digest, result := if passed then .pass else .fail
           errors, issuer := .observer },
          if passed then none
          else some (.obj [("code", .str "success_validation_failed"), ("errors", .arr errors)])))

/-- The terminal state and error of a report once the validator's verdict is known. -/
def terminalVerdict (result : Dict) (validatorError : Option Json) :
    Except Exc (TerminalState × Json) :=
  match TerminalState.ofReport? (Dict.get result "terminal_state") with
  | none => .error (.valueError "invalid_terminal_state")
  | some reported =>
      match validatorError with
      | some error => .ok (if reported = .completed then .failed else reported, error)
      | none => .ok (reported, Dict.get result "terminal_error")

/-- `record_result` once the report is fenced. -/
def judgeResult (env : Env) (address : Nat) (record : RunRecord) (result : Dict)
    (report : Report) : Op Nat := do
  let contract ← loadCommittedContract env record
  let inputDigest := record.committed.bind fun version => version.snapshot.inputDigest
  Prog.ofExcept (crossCheckEvidence contract inputDigest report.evidence)
  let schema ← observeSchema env report contract inputDigest
  let observed := schema.map fun verdict => verdict.1
  match schema.filter fun verdict => verdict.2 ≠ [] with
  | some (rejection, _) =>
      rejectOutput address report result (report.evidence ++ [rejection]) rejection
  | none =>
      let validator ← observeValidator env report contract inputDigest
      let evidence := report.evidence ++ observed.toList ++
        (validator.map fun verdict => verdict.1).toList
      let (terminalState, terminalError) ← Prog.ofExcept
        (terminalVerdict result (validator.bind fun verdict => verdict.2))
      settleResult address report result evidence observed terminalState terminalError

/-- `record_result`. -/
def recordResult (env : Env) (runId : String) (result : Dict) : Op Nat := do
  let address ← load runId
  let record ← recordAt address
  let report ← Prog.ofExcept (fenceReport env record result)
  judgeResult env address record result report

end Op

end Loom
