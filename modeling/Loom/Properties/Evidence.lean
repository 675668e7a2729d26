import Loom.Driver.Dispatch
import Loom.Observer.Execution
import Loom.Observer.Fences
import Loom.Slave.Content

/-!
# Evidence of a Slave at Observer

`SlaveService.run` puts evidence into a result, and `record_result` and
`record_dynamic_node_result` check it against the contract that Observer resolves.  For a dynamic
node both have the contract of the node's export.  For an ordinary run the Slave has the contract
of the export that the first compute binding names, and Observer the one of the committed program.
-/

namespace Loom

open Coroutine

/-- What is relied on of the models: they read back what they have written. -/
structure Env.ReadsModels (env : Env) : Prop where
  contractRefs : ∀ value contract, env.ioContract value = .ok contract →
    ∀ ref, contract.outputSchemaRef = some ref ∨ contract.successValidatorRef = some ref →
      env.resourceRef ref.toJson = .ok ref
  evidence : ∀ item : ValidationEvidence, item.errors.all Json.isObject = true →
    (∀ ref, item.schemaRef = some ref ∨ item.validatorRef = some ref →
      env.resourceRef ref.toJson = .ok ref) →
    env.validationEvidence item.toJson = .ok item
  lowerHex : ∀ content, lower (env.sha256 content) = env.sha256 content

/-! ### What the Slave produces -/

/-- The item of evidence is about the subject. -/
structure EvidenceSubject.Covers (subject : EvidenceSubject) (item : ValidationEvidence) :
    Prop where
  attemptId : item.attemptId = subject.attemptId
  executionEpoch : item.executionEpoch = subject.executionEpoch
  schemaRef : item.schemaRef = subject.schemaRef
  validatorRef : item.validatorRef = subject.validatorRef
  inputDigest : item.inputDigest = subject.inputDigest
  outputDigest : item.outputDigest = some subject.outputDigest
  issuer : item.issuer = .slave
  errors : item.errors.all Json.isObject = true

section Slave

variable {env : Env} {content : Content} {served : (query : RunQuery) → RunAnswer query → Prop}
  {state state' : SlaveState} {subject : EvidenceSubject} {contract : IoContract} {value : Json}

theorem evidence_covers {verdict : Verdict} {errors : List Json} {item : ValidationEvidence}
    (runs : (RunOp.evidence env subject verdict errors).Runs served state state' (.ok item)) :
    subject.Covers item := by
  unfold RunOp.evidence RunOp.uuid at runs
  cases runs with
  | read runs =>
      cases runs with
      | write runs =>
          have made := (runs.of_ofExcept).2
          unfold EvidenceSubject.evidence at made
          split at made
          · rename_i objects
            cases made
            exact ⟨rfl, rfl, rfl, rfl, rfl, rfl, rfl, objects⟩
          · cases made

theorem checkOutput_covers {checked : Option (ValidationEvidence × List SchemaError)}
    (runs : (RunOp.checkOutput env contract subject value).Runs served state state' (.ok checked)) :
    (checked = none ↔ contract.outputSchemaRef = none) ∧
      ∀ item errors, checked = some (item, errors) → subject.Covers item := by
  unfold RunOp.checkOutput at runs
  cases isRef : contract.outputSchemaRef with
  | none =>
      rw [isRef] at runs
      cases runs with
      | ret =>
          exact ⟨⟨fun _ => rfl, fun _ => rfl⟩, fun item errors impossible => by cases impossible⟩
  | some schemaRef =>
      rw [isRef] at runs
      obtain ⟨middle, errors, _, rest⟩ := runs.of_bind_ok
      obtain ⟨later, item, made, returned⟩ := rest.of_bind_ok
      cases returned with
      | ret =>
          refine ⟨by simp, fun item' errors' same => ?_⟩
          cases same
          exact evidence_covers made

theorem checkValidator_covers {answer : Option (ValidationEvidence × Json)}
    (runs : (RunOp.checkValidator env contract subject value).Runs served state state'
      (.ok answer)) :
    (answer = none ↔ contract.successValidatorRef = none) ∧
      ∀ item verdict, answer = some (item, verdict) → subject.Covers item := by
  unfold RunOp.checkValidator at runs
  cases isRef : contract.successValidatorRef with
  | none =>
      rw [isRef] at runs
      cases runs with
      | ret =>
          exact ⟨⟨fun _ => rfl, fun _ => rfl⟩, fun item errors impossible => by cases impossible⟩
  | some validatorRef =>
      rw [isRef] at runs
      obtain ⟨middle, verdict, _, rest⟩ := runs.of_bind_ok
      obtain ⟨later, item, made, returned⟩ := rest.of_bind_ok
      cases returned with
      | ret =>
          refine ⟨by simp, fun item' errors' same => ?_⟩
          cases same
          exact evidence_covers made

/-- The evidence of the Slave: items about one subject, none where the contract asks for none. -/
structure Attests (subject : EvidenceSubject) (contract : IoContract)
    (items : List ValidationEvidence) : Prop where
  covers : ∀ item ∈ items, subject.Covers item
  empty : items = [] ↔ contract.outputSchemaRef = none ∧ contract.successValidatorRef = none

theorem judge_attests {result : ExecutionResult}
    {checked : Option (ValidationEvidence × List SchemaError)}
    {answer : Option (ValidationEvidence × Json)}
    (output : (checked = none ↔ contract.outputSchemaRef = none) ∧
      ∀ item errors, checked = some (item, errors) → subject.Covers item)
    (validator : (answer = none ↔ contract.successValidatorRef = none) ∧
      ∀ item verdict, answer = some (item, verdict) → subject.Covers item) :
    ∃ items, (result.judge contract (checked.map Prod.fst).toList answer).validationEvidence =
        items.map ValidationEvidence.toJson ∧
      (result.judge contract (checked.map Prod.fst).toList answer).value = result.value ∧
      Attests subject contract items := by
  have ofOutput : ∀ item ∈ (checked.map Prod.fst).toList, subject.Covers item := by
    intro item member
    rw [Option.mem_toList, Option.map_eq_some_iff] at member
    obtain ⟨⟨other, errors⟩, isChecked, rfl⟩ := member
    exact output.2 other errors isChecked
  cases answer with
  | none =>
      have isNone := validator.1.1 rfl
      refine ⟨(checked.map Prod.fst).toList, ?_, ?_, ofOutput, ?_⟩
      · unfold ExecutionResult.judge
        dsimp only
        split
        · rfl
        · rfl
      · unfold ExecutionResult.judge
        dsimp only
        split
        · rfl
        · rfl
      · rw [← output.1]
        cases checked with
        | none => simp [isNone]
        | some pair => simp
  | some judged =>
      obtain ⟨item, verdict⟩ := judged
      have isSome : contract.successValidatorRef ≠ none := fun isNone => by
        cases validator.1.2 isNone
      refine ⟨(checked.map Prod.fst).toList ++ [item], ?_, ?_, ?_, by simp [isSome]⟩
      · unfold ExecutionResult.judge
        dsimp only
        split
        · rfl
        · rfl
      · unfold ExecutionResult.judge
        dsimp only
        split
        · rfl
        · rfl
      · intro other member
        rcases List.mem_append.1 member with inOutput | isItem
        · exact ofOutput other inOutput
        · rw [List.mem_singleton.1 isItem]
          exact validator.2 item verdict rfl

/-- What the evidence of a result is about. -/
def evidenceSubject (attemptId : String) (executionEpoch : Int) (closure : TaskClosure)
    (contract : IoContract) (outputDigest : String) : EvidenceSubject :=
  { attemptId, executionEpoch, schemaRef := contract.outputSchemaRef
    validatorRef := contract.successValidatorRef, inputDigest := closure.inputDigest
    outputDigest }

/-- The evidence that `_validate_terminal_result` leaves in a result. -/
theorem validateTerminalResult_attests {result final : ExecutionResult} {attemptId : String}
    {executionEpoch : Int} {closure : TaskClosure} {exported : CapabilityExport}
    (runs : (RunOp.validateTerminalResult env result attemptId executionEpoch (some closure)
      (some exported)).Runs (ServedBy content) state state' (.ok final)) :
    ∃ contract items, content.contract env exported.ioContractRef = .ok contract ∧
      final.validationEvidence = items.map ValidationEvidence.toJson ∧
      final.value = result.value ∧
      Attests (evidenceSubject attemptId executionEpoch closure contract result.digest) contract
        items := by
  unfold RunOp.validateTerminalResult at runs
  obtain ⟨middle, contract, loaded, runs⟩ := runs.of_bind_ok
  have isContract := ((RunOp.loadIoContract_computes exported.ioContractRef _ _ _).1 loaded).2
  obtain ⟨later, checked, output, runs⟩ := runs.of_bind_ok
  change (RunOp.checkOutput env contract
    (evidenceSubject attemptId executionEpoch closure contract result.digest) result.value).Runs
      _ _ _ _ at output
  have covered := checkOutput_covers output
  have concluded : ((RunOp.checkValidator env contract
        (evidenceSubject attemptId executionEpoch closure contract result.digest)
        result.value).bind fun answer =>
          .ret (result.judge contract (checked.map Prod.fst).toList answer)).Runs
        (ServedBy content) later state' (.ok final) →
      ∃ items, final.validationEvidence = items.map ValidationEvidence.toJson ∧
        final.value = result.value ∧
        Attests (evidenceSubject attemptId executionEpoch closure contract result.digest) contract
          items := by
    intro ends
    obtain ⟨last, answer, validated, returned⟩ := ends.of_bind_ok
    cases returned with
    | ret => exact judge_attests covered (checkValidator_covers validated)
  have found : ∃ items, final.validationEvidence = items.map ValidationEvidence.toJson ∧
      final.value = result.value ∧
      Attests (evidenceSubject attemptId executionEpoch closure contract result.digest) contract
        items := by
    rcases checked with _ | ⟨item, _ | ⟨error, errors⟩⟩
    · exact concluded runs
    · exact concluded runs
    · cases runs with
      | ret =>
          refine ⟨[item], rfl, rfl, fun other member => ?_, ?_⟩
          · rw [List.mem_singleton.1 member]
            exact covered.2 item _ rfl
          · have isSome : contract.outputSchemaRef ≠ none := fun isNone => by
              cases covered.1.2 isNone
            simp [isSome]
  obtain ⟨items, isEvidence, sameValue, attests⟩ := found
  exact ⟨contract, items, isContract.symm, isEvidence, sameValue, attests⟩

/-- The digest of a value that was stored under it. -/
theorem resultDigest_ref (reads : env.ReadsModels) {digest : String}
    (isDigest : env.resultDigest value = .ok digest) (accessBinding : Json) :
    ({ resourceId := contentPrefix ++ digest, identityCriterion := some "content_digest"
       accessBinding } : ResourceRef).digest = some digest := by
  unfold Env.resultDigest at isDigest
  cases bytes : env.canonicalJsonBytes value with
  | error error =>
      rw [bytes] at isDigest
      cases isDigest
  | ok content =>
      rw [bytes] at isDigest
      cases isDigest
      unfold ResourceRef.digest
      rw [if_neg (by simp), if_pos (isContentId_prefixed _), contentSuffix_prefix, reads.lowerHex]

/-- The result of an execution carries the digest of its value. -/
def ExecutionResult.Digested (env : Env) (result : ExecutionResult) : Prop :=
  env.resultDigest result.value = .ok result.digest

theorem executorResult_digested (reads : env.ReadsModels) {result : ExecutionResult}
    (made : executorResult env value = .ok result) : result.Digested env := by
  unfold executorResult at made
  cases isDigest : env.resultDigest value with
  | error error =>
      rw [isDigest] at made
      cases made
  | ok digest =>
      rw [isDigest] at made
      cases made
      unfold ExecutionResult.Digested ExecutionResult.digest
      rw [isDigest, resultDigest_ref reads isDigest]
      rfl

theorem pluginResult_digested (reads : env.ReadsModels) {package : CapabilityPackageVersion}
    {exported : CapabilityExport} {response : Dict} {result : ExecutionResult}
    (made : pluginResult env package exported response = .ok result) : result.Digested env := by
  unfold pluginResult at made
  cases isValue : response.lookup "value" with
  | none =>
      rw [isValue] at made
      cases made
  | some value =>
      rw [isValue] at made
      simp only [bind, Except.bind] at made
      split at made
      · cases made
      · rename_i digest isDigest
        have digested : ∀ other : ExecutionResult, other.value = value → other.resourceRef =
            { resourceId := contentPrefix ++ digest, identityCriterion := some "content_digest" } →
            other.Digested env := by
          intro other sameValue sameRef
          unfold ExecutionResult.Digested ExecutionResult.digest
          rw [sameValue, sameRef, isDigest, resultDigest_ref reads isDigest]
          rfl
        split at made
        · cases made
          exact digested _ rfl rfl
        · split at made
          · cases made
          · cases made
            exact digested _ rfl rfl

theorem invokeExecutor_digested (reads : env.ReadsModels) {package : CapabilityPackageVersion}
    {payload : Dict} {result : ExecutionResult}
    (runs : (RunOp.invokeExecutor env package payload).Runs served state state' (.ok result)) :
    result.Digested env := by
  unfold RunOp.invokeExecutor at runs
  dsimp only at runs
  cases isRef : packageBodyRef env package "program_content_ref" with
  | error error =>
      rw [isRef] at runs
      cases runs
  | ok programRef =>
      rw [isRef] at runs
      obtain ⟨_, _, _, runs⟩ := runs.of_bind_ok
      obtain ⟨_, program, _, runs⟩ := runs.of_bind_ok
      obtain ⟨_, _, _, runs⟩ := runs.of_bind_ok
      obtain ⟨_, value, _, runs⟩ := runs.of_bind_ok
      obtain ⟨_, made, isMade, runs⟩ := runs.of_bind_ok
      have digested := executorResult_digested reads (isMade.of_ofExcept).2.symm
      cases runs with
      | ret => exact digested

theorem invokePlugin_digested (reads : env.ReadsModels) {package : CapabilityPackageVersion}
    {exported : CapabilityExport} {payload : Dict} {attemptId : String} {result : ExecutionResult}
    (runs : (RunOp.invokePlugin env package exported payload attemptId).Runs served state state'
      (.ok result)) : result.Digested env := by
  unfold RunOp.invokePlugin at runs
  cases runs with
  | read runs =>
      dsimp only at runs
      split at runs
      · cases runs
      · split at runs
        · cases runs
        · cases runs with
          | await answer allowed runs =>
              cases answer with
              | error error =>
                  dsimp only at runs
                  split at runs
                  · cases runs
                  · cases runs
              | ok response => exact pluginResult_digested reads (runs.of_ofExcept).2.symm

/-- The evidence of an attempt that a Slave has executed. -/
theorem execute_attests (reads : env.ReadsModels) {result : ExecutionResult}
    {attemptId operation : String} {payload : Dict} {executionEpoch : Int} {closure : TaskClosure}
    {package : CapabilityPackageVersion} {exported : CapabilityExport}
    (runs : (RunOp.execute env attemptId operation payload (some closure) executionEpoch package
      exported).Runs (ServedBy content) state state' (.ok result)) :
    ∃ contract items digest, content.contract env exported.ioContractRef = .ok contract ∧
      result.validationEvidence = items.map ValidationEvidence.toJson ∧
      env.resultDigest result.value = .ok digest ∧
      Attests (evidenceSubject attemptId executionEpoch closure contract digest)
        contract items := by
  unfold RunOp.execute at runs
  obtain ⟨_, admitted, _, runs⟩ := runs.of_bind_ok
  obtain ⟨_, _, _, runs⟩ := runs.of_bind_ok
  have invoked : ∃ middle invoked, invoked.Digested env ∧
      ((RunOp.validateTerminalResult env invoked attemptId executionEpoch (some closure)
        (some exported)).bind fun result => do
          let bytes ← Prog.ofExcept (env.canonicalJsonBytes result.value)
          .await (.contentPut bytes "application/json") Prog.ofExcept
          let stored :=
            { result with
              resourceRef :=
                { resourceId := contentPrefix ++ env.sha256 bytes
                  identityCriterion := some "content_digest"
                  accessBinding := .obj [("media_type", .str "application/json")] } }
          Prog.tell (.remember attemptId stored)
          .await (.storeAttempt attemptId stored) Prog.ofExcept
          .ret stored).Runs (ServedBy content) middle state' (.ok result) := by
    dsimp only at runs
    split at runs
    · obtain ⟨middle, invoked, ran, runs⟩ := runs.of_bind_ok
      exact ⟨middle, invoked, invokePlugin_digested reads ran, runs⟩
    · obtain ⟨middle, invoked, ran, runs⟩ := runs.of_bind_ok
      exact ⟨middle, invoked, invokeExecutor_digested reads ran, runs⟩
  obtain ⟨middle, invoked, digested, runs⟩ := invoked
  obtain ⟨_, validated, ran, runs⟩ := runs.of_bind_ok
  obtain ⟨contract, items, isContract, isEvidence, sameValue, attests⟩ :=
    validateTerminalResult_attests ran
  obtain ⟨_, bytes, _, runs⟩ := runs.of_bind_ok
  obtain ⟨_, _, _, runs⟩ := runs.of_bind_ok
  cases runs with
  | write runs =>
      obtain ⟨_, _, _, runs⟩ := runs.of_bind_ok
      obtain ⟨_, _, _, runs⟩ := runs.of_bind_ok
      cases runs with
      | ret =>
          refine ⟨contract, items, invoked.digest, isContract, isEvidence, ?_, attests⟩
          change env.resultDigest validated.value = _
          rw [sameValue]
          exact digested

end Slave

/-! ### The run of an attempt -/

/-- The export that `run` selects: of the cached package that the binding names. -/
def SlaveState.boundExport (state : SlaveState) (env : Env) (binding : Option ComputeBinding) :
    Except Exc CapabilityExport :=
  match binding.bind fun binding => binding.capabilityPackageRef with
  | none => .error (runtimeError "capability_package_required")
  | some ref =>
      match state.findCachedPackage ref.resourceId ref.digest with
      | none => .error (runtimeError "capability_package_not_installed")
      | some package =>
          (RunOp.revalidate env package).bind fun package => selectedExport package binding

/-- The Slave reads from `content` and has stored no attempt. -/
def ServedFirst (content : Content) : (query : RunQuery) → RunAnswer query → Prop
  | .contentGet digest, answer => answer = .ok (content digest)
  | .storedAttempt _, answer => answer = .ok none
  | _, _ => True

theorem ServedFirst.served {content : Content} (query : RunQuery) (answer : RunAnswer query)
    (first : ServedFirst content query answer) : ServedBy content query answer := by
  cases query with
  | contentGet digest => exact first
  | _ => trivial

/-- The package that `run` finds in the cache. -/
theorem findPackage_found {state state' : SlaveState} {operation : String}
    {binding : Option ComputeBinding} {cached : Option CapabilityPackageVersion}
    {served : (query : RunQuery) → RunAnswer query → Prop}
    (runs : (RunOp.findPackage operation binding).Runs served state state' (.ok cached)) :
    state' = state ∧ ∀ package, cached = some package →
      ∃ ref, (binding.bind fun binding => binding.capabilityPackageRef) = some ref ∧
        state.findCachedPackage ref.resourceId ref.digest = some package := by
  unfold RunOp.findPackage at runs
  cases runs with
  | read runs =>
      dsimp only at runs
      split at runs
      · rename_i ref isRef
        split at runs
        · rename_i package isPackage
          cases runs with
          | ret =>
              refine ⟨rfl, fun other same => ?_⟩
              cases same
              exact ⟨ref, isRef, isPackage⟩
        · cases runs
      · split at runs
        · cases runs with
          | ret => exact ⟨rfl, fun other impossible => by cases impossible⟩
        · cases runs

/-- An attempt that is new to the Slave is executed with the export that its binding selects. -/
theorem run_executes {env : Env} {content : Content} {state state' : SlaveState}
    {slaveId attemptId operation : String} {payload : Dict} {closure : Option TaskClosure}
    {binding : Option ComputeBinding} {executionEpoch : Int} {result : ExecutionResult}
    (isNew : state.attempts.lookup attemptId = none)
    (runs : (RunOp.run env slaveId attemptId operation payload closure binding executionEpoch).Runs
      (ServedFirst content) state state' (.ok result)) :
    ∃ package exported, state.boundExport env binding = .ok exported ∧
      (RunOp.execute env attemptId operation payload closure executionEpoch package exported).Runs
        (ServedBy content) state state' (.ok result) := by
  unfold RunOp.run at runs
  cases runs with
  | read runs =>
      change ((Prog.guard _ _).bind _ : RunOp _).Runs _ _ _ _ at runs
      obtain ⟨_, _, guarded, runs⟩ := runs.of_bind_ok
      rw [(guarded.of_guard).1] at runs
      obtain ⟨_, cached, found, runs⟩ := runs.of_bind_ok
      obtain ⟨same, isCached⟩ := findPackage_found found
      rw [same] at runs
      obtain ⟨_, _, admitted, runs⟩ := runs.of_bind_ok
      rw [(admitted.of_ofExcept).1] at runs
      cases cached with
      | none => cases runs
      | some package =>
          obtain ⟨ref, isRef, isPackage⟩ := isCached package rfl
          obtain ⟨_, valid, validated, runs⟩ := runs.of_bind_ok
          obtain ⟨same, isValid⟩ := validated.of_ofExcept
          rw [same] at runs
          obtain ⟨_, selected, selects, runs⟩ := runs.of_bind_ok
          obtain ⟨same, isSelected⟩ := selects.of_ofExcept
          rw [same] at runs
          have isExport : state.boundExport env binding = .ok selected := by
            unfold SlaveState.boundExport
            rw [isRef]
            dsimp only
            rw [isPackage]
            dsimp only
            rw [← isValid]
            exact isSelected.symm
          rw [isNew] at runs
          obtain ⟨_, stored, isStored, runs⟩ := runs.of_bind_ok
          cases isStored with
          | await answer allowed rest =>
              obtain ⟨same, isAnswer⟩ := rest.of_ofExcept
              rw [same] at runs
              cases allowed.symm.trans isAnswer.symm
              exact ⟨valid, selected, isExport,
                runs.mono fun query answer => ServedFirst.served query answer⟩

/-! ### What Observer checks -/

section Observer

variable {env : Env} {content : Content} {subject : EvidenceSubject} {contract : IoContract}

theorem sameRef_refl (ref : Option ResourceRef) : sameRef ref ref = true := by
  cases ref <;> simp [sameRef]

/-- Evidence that covers its subject is read back and passes the fence of the attempt. -/
theorem parseEvidence_covers (reads : env.ReadsModels)
    (refs : ∀ ref, subject.schemaRef = some ref ∨ subject.validatorRef = some ref →
      env.resourceRef ref.toJson = .ok ref) :
    ∀ {items : List ValidationEvidence}, (∀ item ∈ items, subject.Covers item) →
      parseEvidence env subject.attemptId subject.executionEpoch subject.outputDigest
        (items.map ValidationEvidence.toJson) = .ok items := by
  intro items
  induction items with
  | nil =>
      intro _
      rfl
  | cons item items ih =>
      intro covers
      have covered := covers item List.mem_cons_self
      have read : env.validationEvidence item.toJson = .ok item := by
        refine reads.evidence item covered.errors fun ref isRef => refs ref ?_
        rw [← covered.schemaRef, ← covered.validatorRef]
        exact isRef
      rw [List.map_cons]
      unfold parseEvidence
      rw [read]
      dsimp only
      rw [if_neg (by simp [covered.attemptId, covered.executionEpoch]),
        if_neg (by simp [covered.issuer]), if_neg (by simp [covered.outputDigest]),
        ih fun other member => covers other (List.mem_cons_of_mem _ member)]
      rfl

/-- Observer's contract agrees with what the evidence of the Slave's contract says. -/
def IoContract.Agrees (slave : IoContract) (observer : Option IoContract) : Prop :=
  (slave.outputSchemaRef = none ∧ slave.successValidatorRef = none) ∨
    (observer.bind IoContract.outputSchemaRef = none ∨
      sameRef slave.outputSchemaRef (observer.bind IoContract.outputSchemaRef) = true) ∧
    sameRef slave.successValidatorRef (observer.bind IoContract.successValidatorRef) = true

/-- Evidence passes the check of `record_result` exactly if the contracts agree. -/
theorem crossCheckEvidence_iff {observer : Option IoContract}
    {items : List ValidationEvidence} (attests : Attests subject contract items)
    (schemaRef : subject.schemaRef = contract.outputSchemaRef)
    (validatorRef : subject.validatorRef = contract.successValidatorRef) :
    crossCheckEvidence observer subject.inputDigest items = .ok () ↔ contract.Agrees observer := by
  have step : ∀ item, subject.Covers item → ∀ rest,
      crossCheckEvidence observer subject.inputDigest (item :: rest) = .ok () ↔
        ((observer.bind IoContract.outputSchemaRef = none ∨
            sameRef contract.outputSchemaRef (observer.bind IoContract.outputSchemaRef) = true) ∧
          sameRef contract.successValidatorRef
            (observer.bind IoContract.successValidatorRef) = true) ∧
        crossCheckEvidence observer subject.inputDigest rest = .ok () := by
    intro item covered rest
    rw [crossCheckEvidence, covered.schemaRef, covered.validatorRef, covered.inputDigest, schemaRef,
      validatorRef]
    split
    · rename_i differs
      constructor
      · intro impossible
        cases impossible
      · rintro ⟨⟨none | same, -⟩, -⟩
        · exact absurd none differs.1
        · rw [same] at differs
          cases differs.2
    · rename_i schemaFits
      split
      · rename_i differs
        constructor
        · intro impossible
          cases impossible
        · rintro ⟨⟨-, same⟩, -⟩
          rw [same] at differs
          cases differs
      · rename_i validatorFits
        rw [if_neg (by simp)]
        constructor
        · intro checked
          refine ⟨⟨?_, by simpa using validatorFits⟩, checked⟩
          by_cases none : observer.bind IoContract.outputSchemaRef = none
          · exact Or.inl none
          · refine Or.inr ?_
            by_contra differs
            exact schemaFits ⟨none, by simpa using differs⟩
        · exact fun both => both.2
  have all : ∀ items, (∀ item ∈ items, subject.Covers item) →
      ((observer.bind IoContract.outputSchemaRef = none ∨
          sameRef contract.outputSchemaRef (observer.bind IoContract.outputSchemaRef) = true) ∧
        sameRef contract.successValidatorRef
          (observer.bind IoContract.successValidatorRef) = true) →
      crossCheckEvidence observer subject.inputDigest items = .ok () := by
    intro items
    induction items with
    | nil =>
        intro _ _
        rfl
    | cons item items ih =>
        intro covers fits
        exact (step item (covers item List.mem_cons_self) items).2
          ⟨fits, ih (fun other member => covers other (List.mem_cons_of_mem _ member)) fits⟩
  unfold IoContract.Agrees
  constructor
  · intro checked
    cases items with
    | nil => exact Or.inl (attests.empty.1 rfl)
    | cons item rest =>
        exact Or.inr ((step item (attests.covers item List.mem_cons_self) rest).1 checked).1
  · rintro (bare | fits)
    · rw [attests.empty.2 bare]
      rfl
    · exact all items attests.covers fits

/-- Evidence passes the check of `record_dynamic_node_result` where Observer has the Slave's
contract. -/
theorem crossCheckNodeEvidence_covers
    (schemaRef : subject.schemaRef = contract.outputSchemaRef)
    (validatorRef : subject.validatorRef = contract.successValidatorRef) :
    ∀ {items : List ValidationEvidence}, (∀ item ∈ items, subject.Covers item) →
      crossCheckNodeEvidence contract items = .ok () := by
  intro items
  induction items with
  | nil =>
      intro _
      rfl
  | cons item items ih =>
      intro covers
      have covered := covers item List.mem_cons_self
      unfold crossCheckNodeEvidence
      rw [covered.schemaRef, covered.validatorRef, schemaRef, validatorRef, sameRef_refl,
        sameRef_refl, if_neg (by simp), if_neg (by simp)]
      exact ih fun other member => covers other (List.mem_cons_of_mem _ member)

/-- The Slave and Observer read the same contract at a reference. -/
theorem contract_unique {ref : ResourceRef} {slave observer : IoContract}
    (isSlave : content.contract env ref = .ok slave)
    (isObserver : content.loadContract env ref = .ok observer) : observer = slave := by
  unfold Content.loadContract Content.loadJson at isObserver
  unfold Content.contract at isSlave
  cases bytes : content.get env ref with
  | error error =>
      rw [bytes] at isSlave
      cases isSlave
  | ok raw =>
      rw [bytes] at isSlave isObserver
      cases isRef : requireContentRef ref with
      | error error =>
          rw [isRef] at isObserver
          cases isObserver
      | ok _ =>
          rw [isRef] at isObserver
          simp only [Except.bind] at isSlave isObserver
          cases json : env.jsonLoads raw with
          | error error =>
              rw [json] at isObserver
              cases isObserver
          | ok value =>
              rw [json] at isSlave isObserver
              dsimp only at isSlave isObserver
              rw [isObserver] at isSlave
              cases isSlave
              rfl

/-- The checks of `record_result` on a report before its evidence: what they fix. -/
def fenceAttempt (env : Env) (record : RunRecord) (result : Dict) : Except Exc Report := do
  if record.state ≠ .running then .error (.valueError "execution_not_running")
  match firstIndex? (fun attempt => Json.str attempt.attemptId = Dict.get result "attempt_id")
      record.attempts with
  | none => .error (.valueError "stale_attempt")
  | some attemptIndex =>
      let attempt := record.attempts.getD attemptIndex default
      match (Dict.get result "execution_epoch").toInt? with
      | none => .error (.valueError "stale_execution_epoch")
      | some executionEpoch =>
          if executionEpoch ≠ record.executionEpoch then
            .error (.valueError "stale_execution_epoch")
          if (attempt.executionEpoch : Int) ≠ executionEpoch then
            .error (.valueError "stale_execution_epoch")
          if attempt.state.isActive = false then .error (.valueError "stale_attempt")
          if Dict.get result "execution_id" ≠ .ofOption record.executionId then
            .error (.valueError "stale_execution_id")
          match result.lookup "value" with
          | none => .error (.valueError "output_missing")
          | some value =>
              if Dict.has result "digest" then .error (.valueError "redundant_result_digest")
              let digest ← env.resultDigest value
              checkResourceRef env (Dict.get result "resource_ref") digest
              .ok { attemptIndex, attemptId := attempt.attemptId, executionEpoch, value, digest
                    evidence := [] }

/-- `fenceReport` checks the attempt and then the evidence. -/
theorem fenceReport_eq (record : RunRecord) (result : Dict) :
    fenceReport env record result = (fenceAttempt env record result).bind fun report =>
      match (Dict.get result "validation_evidence").orElse (.arr []) with
      | .arr items =>
          (parseEvidence env report.attemptId report.executionEpoch report.digest items).map
            fun evidence => { report with evidence }
      | _ => .error (.valueError "invalid_validation_evidence") := by
  simp only [fenceReport, fenceAttempt, bind, Except.bind]
  split
  · rfl
  cases firstIndex? (fun attempt => Json.str attempt.attemptId = Dict.get result "attempt_id")
      record.attempts with
  | none => rfl
  | some attemptIndex =>
      dsimp only
      cases (Dict.get result "execution_epoch").toInt? with
      | none => rfl
      | some executionEpoch =>
          dsimp only
          iterate 4
            split
            · rfl
          cases result.lookup "value" with
          | none => rfl
          | some value =>
              dsimp only
              split
              · rfl
              cases env.resultDigest value with
              | error error => rfl
              | ok digest =>
                  dsimp only
                  cases checkResourceRef env (Dict.get result "resource_ref") digest with
                  | error error => rfl
                  | ok _ =>
                      dsimp only
                      cases (Dict.get result "validation_evidence").orElse (.arr []) with
                      | arr items =>
                          dsimp only
                          cases parseEvidence env
                            (record.attempts.getD attemptIndex default).attemptId executionEpoch
                            digest items with
                          | error error => rfl
                          | ok evidence => rfl
                      | _ => rfl

/-- The checks of `record_dynamic_node_result` on a report before its evidence: what they fix. -/
def fenceNodeAttempt (env : Env) (record : RunRecord) (nodeId : String) (result : Dict) :
    Except Exc NodeReport := do
  if ¬(record.state = .running ∧ record.executionId ≠ none) then
    .error (.valueError "execution_not_running")
  match firstIndex? (fun node => node.nodeId = nodeId) record.dynamicNodes with
  | none => .error (.valueError "dynamic_node_not_found")
  | some nodeIndex =>
      let node := record.dynamicNodes.getD nodeIndex default
      if Dict.get result "execution_id" ≠ .ofOption record.executionId then
        .error (.valueError "stale_execution_id")
      match (Dict.get result "execution_epoch").toInt? with
      | none => .error (.valueError "stale_execution_epoch")
      | some executionEpoch =>
          if executionEpoch ≠ record.executionEpoch then
            .error (.valueError "stale_execution_epoch")
          match lastIndex? (fun attempt =>
              Json.str attempt.attemptId = Dict.get result "attempt_id" ∧
                attempt.nodeId = some nodeId) record.attempts with
          | none => .error (.valueError "stale_attempt")
          | some attemptIndex =>
              let attempt := record.attempts.getD attemptIndex default
              if (attempt.executionEpoch : Int) ≠ executionEpoch then
                .error (.valueError "stale_attempt")
              if attempt.state.isActive = false then .error (.valueError "stale_attempt")
              match result.lookup "value" with
              | none => .error (.valueError "output_missing")
              | some value =>
                  if Dict.has result "digest" then
                    .error (.valueError "redundant_result_digest")
                  let digest ← env.resultDigest value
                  match TerminalState.ofReport? (Dict.get result "terminal_state") with
                  | none => .error (.valueError "invalid_terminal_state")
                  | some reported =>
                      .ok { nodeIndex, node, attemptIndex, attempt, executionEpoch, value
                            digest, reported, evidence := []
                            terminalError := match Dict.get result "terminal_error" with
                              | .obj entries => .obj entries
                              | _ => .null }

/-- `fenceNodeReport` checks the attempt and then the evidence. -/
theorem fenceNodeReport_eq (record : RunRecord) (nodeId : String) (result : Dict) :
    fenceNodeReport env record nodeId (.obj result) =
      (fenceNodeAttempt env record nodeId result).bind fun report =>
        match Dict.get result "validation_evidence" with
        | .null => .ok report
        | .arr items =>
            (parseEvidence env report.attempt.attemptId report.executionEpoch report.digest
              items).map fun evidence => { report with evidence }
        | _ => .error (.valueError "invalid_validation_evidence") := by
  simp only [fenceNodeReport, fenceNodeAttempt, bind, Except.bind]
  split
  · rfl
  cases firstIndex? (fun node => node.nodeId = nodeId) record.dynamicNodes with
  | none => rfl
  | some nodeIndex =>
      dsimp only
      split
      · rfl
      cases (Dict.get result "execution_epoch").toInt? with
      | none => rfl
      | some executionEpoch =>
          dsimp only
          split
          · rfl
          cases lastIndex? (fun attempt =>
              Json.str attempt.attemptId = Dict.get result "attempt_id" ∧
                attempt.nodeId = some nodeId) record.attempts with
          | none => rfl
          | some attemptIndex =>
              dsimp only
              iterate 2
                split
                · rfl
              cases result.lookup "value" with
              | none => rfl
              | some value =>
                  dsimp only
                  split
                  · rfl
                  cases env.resultDigest value with
                  | error error => rfl
                  | ok digest =>
                      dsimp only
                      cases TerminalState.ofReport? (Dict.get result "terminal_state") with
                      | none => rfl
                      | some reported =>
                          dsimp only
                          cases Dict.get result "validation_evidence" with
                          | arr items =>
                              dsimp only
                              cases parseEvidence env
                                (record.attempts.getD attemptIndex default).attemptId executionEpoch
                                digest items with
                              | error error => rfl
                              | ok evidence => rfl
                          | _ => rfl

variable {result : ExecutionResult} {attemptId executionId : String} {executionEpoch : Int}

/-- The result without its evidence. -/
def ExecutionResult.bare (result : ExecutionResult) : ExecutionResult :=
  { result with validationEvidence := [] }

theorem orElse_arr (items : List Json) : (Json.arr items).orElse (.arr []) = .arr items := by
  cases items with
  | nil => rfl
  | cons item items => rfl

/-- Evidence that is parsed for its attempt does not make the fence of `record_result` raise. -/
theorem fenceReport_bare {record : RunRecord} {error : Exc} {digest : String}
    {items : List ValidationEvidence} (isDigest : env.resultDigest result.value = .ok digest)
    (parsed : parseEvidence env attemptId executionEpoch digest result.validationEvidence =
      .ok items)
    (raises : fenceReport env record (result.report attemptId executionId executionEpoch) =
      .error error) :
    fenceReport env record (result.bare.report attemptId executionId executionEpoch) =
      .error error := by
  have same : fenceAttempt env record (result.report attemptId executionId executionEpoch) =
      fenceAttempt env record (result.bare.report attemptId executionId executionEpoch) := rfl
  have isBare : fenceReport env record (result.bare.report attemptId executionId executionEpoch) =
      (fenceAttempt env record (result.bare.report attemptId executionId executionEpoch)).bind
        fun report => .ok { report with evidence := [] } := fenceReport_eq record _
  rw [fenceReport_eq, same] at raises
  cases isFenced : fenceAttempt env record
      (result.bare.report attemptId executionId executionEpoch) with
  | error other =>
      rw [isFenced] at raises isBare
      cases raises
      exact isBare
  | ok report =>
      rw [isFenced] at raises isBare
      obtain ⟨attempt, fenced⟩ := fenceReport_ok isBare
      have sameId : report.attemptId = attemptId := by
        have named : Json.str attempt.attemptId = .str attemptId := fenced.named
        rw [Json.str.injEq] at named
        exact fenced.attemptId.trans named
      have sameEpoch : report.executionEpoch = executionEpoch := by
        have epoch : some executionEpoch = some (record.executionEpoch : Int) := fenced.epoch
        rw [Option.some.injEq] at epoch
        exact fenced.executionEpoch.trans epoch.symm
      have sameDigest : report.digest = digest := by
        have value : some result.value = some report.value := fenced.value
        have digested : env.resultDigest report.value = .ok report.digest := fenced.digest
        rw [← Option.some.inj value, isDigest] at digested
        cases digested
        rfl
      have evidence : (Dict.get (result.report attemptId executionId executionEpoch)
          "validation_evidence").orElse (.arr []) = .arr result.validationEvidence :=
        orElse_arr _
      simp only [Except.bind, evidence, sameId, sameEpoch, sameDigest, parsed] at raises
      cases raises

/-- Evidence that is parsed for its attempt does not make the fence of
`record_dynamic_node_result` raise. -/
theorem fenceNodeReport_bare {record : RunRecord} {nodeId : String} {error : Exc} {digest : String}
    {items : List ValidationEvidence} (isDigest : env.resultDigest result.value = .ok digest)
    (parsed : parseEvidence env attemptId executionEpoch digest result.validationEvidence =
      .ok items)
    (raises : fenceNodeReport env record nodeId
      (.obj (result.nodeReport attemptId executionId executionEpoch)) = .error error) :
    fenceNodeReport env record nodeId
      (.obj (result.bare.nodeReport attemptId executionId executionEpoch)) = .error error := by
  have same : fenceNodeAttempt env record nodeId
        (result.nodeReport attemptId executionId executionEpoch) =
      fenceNodeAttempt env record nodeId
        (result.bare.nodeReport attemptId executionId executionEpoch) := rfl
  have isBare : fenceNodeReport env record nodeId
        (.obj (result.bare.nodeReport attemptId executionId executionEpoch)) =
      (fenceNodeAttempt env record nodeId
        (result.bare.nodeReport attemptId executionId executionEpoch)).bind
          fun report => .ok { report with evidence := [] } := fenceNodeReport_eq record nodeId _
  rw [fenceNodeReport_eq, same] at raises
  cases isFenced : fenceNodeAttempt env record nodeId
      (result.bare.nodeReport attemptId executionId executionEpoch) with
  | error other =>
      rw [isFenced] at raises isBare
      cases raises
      exact isBare
  | ok report =>
      rw [isFenced] at raises isBare
      have fenced := fenceNodeReport_ok isBare
      have sameId : report.attempt.attemptId = attemptId := by
        have named : Json.str report.attempt.attemptId = .str attemptId := fenced.named
        rw [Json.str.injEq] at named
        exact named
      have sameEpoch : report.executionEpoch = executionEpoch := by
        have epoch : some executionEpoch = some (record.executionEpoch : Int) := fenced.epoch
        rw [Option.some.injEq] at epoch
        exact fenced.executionEpoch.trans epoch.symm
      have sameDigest : report.digest = digest := by
        have value : some result.value = some report.value := fenced.value
        have digested : env.resultDigest report.value = .ok report.digest := fenced.digest
        rw [← Option.some.inj value, isDigest] at digested
        cases digested
        rfl
      have evidence : Dict.get (result.nodeReport attemptId executionId executionEpoch)
          "validation_evidence" = .arr result.validationEvidence := rfl
      simp only [Except.bind, evidence, sameId, sameEpoch, sameDigest, parsed] at raises
      cases raises

end Observer

/-! ### Acceptance -/

/-- `record_result` does not reject the evidence of a result of the closure: its fence raises only
what it raises without the evidence, and the evidence passes the check against the contract of the
committed snapshot. -/
structure ResultAccepted (env : Env) (content : Content) (closure : TaskClosure)
    (attemptId executionId : String) (executionEpoch : Int) (result : ExecutionResult) : Prop where
  fenced : ∀ record error,
    fenceReport env record (result.report attemptId executionId executionEpoch) = .error error →
    fenceReport env record (result.bare.report attemptId executionId executionEpoch) = .error error
  checked : ∃ digest items, env.resultDigest result.value = .ok digest ∧
    parseEvidence env attemptId executionEpoch digest result.validationEvidence = .ok items ∧
    ∀ (record : RunRecord) (version : ClosureVersion), record.committed = some version →
      version.snapshot = closure → ∀ (repo repo' : Repo) (contract : Option IoContract),
        (Op.loadCommittedContract env record).Runs (AnsweredBy content) repo repo' (.ok contract) →
        crossCheckEvidence contract closure.inputDigest items = .ok ()

/-- `record_dynamic_node_result` does not reject the evidence of a result of the node: its fence
raises only what it raises without the evidence, and the evidence passes the check against the
contract of the node's export. -/
structure NodeAccepted (env : Env) (content : Content) (node : DynamicNode)
    (package : CapabilityPackageVersion) (attemptId executionId : String) (executionEpoch : Int)
    (result : ExecutionResult) : Prop where
  fenced : ∀ record error,
    fenceNodeReport env record node.nodeId
      (.obj (result.nodeReport attemptId executionId executionEpoch)) = .error error →
    fenceNodeReport env record node.nodeId
      (.obj (result.bare.nodeReport attemptId executionId executionEpoch)) = .error error
  checked : ∃ digest items, env.resultDigest result.value = .ok digest ∧
    parseEvidence env attemptId executionEpoch digest result.validationEvidence = .ok items ∧
    ∀ (exported : CapabilityExport), package.exportFor node.capabilityDescriptorRef = .ok exported →
      ∀ (repo repo' : Repo) (contract : IoContract),
        (Op.loadIoContract env exported.ioContractRef).Runs (AnsweredBy content) repo repo'
          (.ok contract) →
        crossCheckNodeEvidence contract items = .ok ()

/-- The contract of the committed snapshot, as Observer loads it. -/
def Content.committed (content : Content) (env : Env) (closure : TaskClosure) :
    Except Exc (Option IoContract) :=
  match closure.program.ioContractRef with
  | none => .ok none
  | some ref => (content.loadContract env ref).map some

/-- The contract that the Slave holds the operation to agrees with the committed one. -/
def ContractsAgree (env : Env) (content : Content) (exported : CapabilityExport)
    (closure : TaskClosure) : Prop :=
  ∀ slave observer, content.contract env exported.ioContractRef = .ok slave →
    content.committed env closure = .ok observer → slave.Agrees observer

section Acceptance

variable {env : Env} {content : Content} {closure : TaskClosure} {attemptId executionId : String}
  {executionEpoch : Int} {result : ExecutionResult} {state state' : SlaveState}
  {slaveId operation : String} {payload : Dict} {binding : Option ComputeBinding}

theorem loadCommittedContract_runs {record : RunRecord} {version : ClosureVersion}
    (isCommitted : record.committed = some version) (isSnapshot : version.snapshot = closure)
    {repo repo' : Repo} {contract : Option IoContract} :
    (Op.loadCommittedContract env record).Runs (AnsweredBy content) repo repo' (.ok contract) ↔
      repo' = repo ∧ content.committed env closure = .ok contract := by
  have isRef : (record.committed.bind fun version => version.snapshot.program.ioContractRef) =
      closure.program.ioContractRef := by
    rw [isCommitted, ← isSnapshot]
    rfl
  rw [Op.loadCommittedContract_computes record repo repo' (.ok contract), isRef]
  unfold Content.committed
  cases closure.program.ioContractRef with
  | none => exact and_congr_right fun _ => eq_comm
  | some ref =>
      refine and_congr_right fun _ => ?_
      dsimp only
      cases content.loadContract env ref with
      | ok found => exact eq_comm
      | error error =>
          unfold Op.contentOutcome
          dsimp only
          constructor
          · intro impossible
            split at impossible
            · cases impossible
            · cases impossible
          · intro impossible
            cases impossible

/-- The evidence that a run of a new attempt leaves in its result. -/
theorem run_attests (reads : env.ReadsModels) (isNew : state.attempts.lookup attemptId = none)
    (runs : (RunOp.run env slaveId attemptId operation payload (some closure) binding
      executionEpoch).Runs (ServedFirst content) state state' (.ok result)) :
    ∃ exported contract items digest, state.boundExport env binding = .ok exported ∧
      content.contract env exported.ioContractRef = .ok contract ∧
      env.resultDigest result.value = .ok digest ∧
      parseEvidence env attemptId executionEpoch digest result.validationEvidence = .ok items ∧
      Attests (evidenceSubject attemptId executionEpoch closure contract digest)
        contract items := by
  obtain ⟨package, exported, isExport, executes⟩ := run_executes isNew runs
  obtain ⟨contract, items, digest, isContract, isEvidence, isDigest, attests⟩ :=
    execute_attests reads executes
  refine ⟨exported, contract, items, digest, isExport, isContract, isDigest, ?_, attests⟩
  rw [isEvidence]
  refine @parseEvidence_covers env
    (evidenceSubject attemptId executionEpoch closure contract digest) reads ?_ _ attests.covers
  have parsed : ∃ value, env.ioContract value = .ok contract := by
    unfold Content.contract at isContract
    cases bytes : content.get env exported.ioContractRef with
    | error error =>
        rw [bytes] at isContract
        cases isContract
    | ok raw =>
        rw [bytes] at isContract
        simp only [Except.bind] at isContract
        cases json : env.jsonLoads raw with
        | error error =>
            rw [json] at isContract
            dsimp only at isContract
            split at isContract
            · cases isContract
            · cases isContract
        | ok value =>
            rw [json] at isContract
            dsimp only at isContract
            cases isParsed : env.ioContract value with
            | error error =>
                rw [isParsed] at isContract
                dsimp only at isContract
                split at isContract
                · cases isContract
                · cases isContract
            | ok other =>
                rw [isParsed] at isContract
                cases isContract
                exact ⟨value, isParsed⟩
  obtain ⟨value, isParsed⟩ := parsed
  exact reads.contractRefs value contract isParsed

/-- The evidence of an ordinary run is accepted exactly if the contracts agree. -/
theorem resultAccepted_iff (reads : env.ReadsModels)
    (isNew : state.attempts.lookup attemptId = none) {exported : CapabilityExport}
    (isExport : state.boundExport env binding = .ok exported)
    (runs : (RunOp.run env slaveId attemptId operation payload (some closure) binding
      executionEpoch).Runs (ServedFirst content) state state' (.ok result)) :
    ResultAccepted env content closure attemptId executionId executionEpoch result ↔
      ContractsAgree env content exported closure := by
  obtain ⟨other, contract, items, digest, isOther, isContract, isDigest, parsed, attests⟩ :=
    run_attests reads isNew runs
  cases isExport.symm.trans isOther
  have checks : ∀ observer, crossCheckEvidence observer closure.inputDigest items = .ok () ↔
      contract.Agrees observer := fun observer => crossCheckEvidence_iff attests rfl rfl
  constructor
  · intro accepted slave observer isSlave isObserver
    cases isContract.symm.trans isSlave
    obtain ⟨_, items', isDigest', parsed', passes⟩ := accepted.checked
    cases isDigest.symm.trans isDigest'
    cases parsed.symm.trans parsed'
    have loaded := (@loadCommittedContract_runs env content closure
      { (default : RunRecord) with committed := some { (default : ClosureVersion) with
        snapshot := closure } } _ rfl rfl Repo.empty Repo.empty observer).2 ⟨rfl, isObserver⟩
    exact (checks observer).1 (passes _ _ rfl rfl _ _ observer loaded)
  · intro agree
    refine ⟨fun record error => fenceReport_bare isDigest parsed, digest, items, isDigest,
      parsed, ?_⟩
    intro record version isCommitted isSnapshot repo repo' observer loaded
    refine (checks observer).2 (agree contract observer isContract ?_)
    exact ((loadCommittedContract_runs isCommitted isSnapshot).1 loaded).2

theorem revalidate_exports {package valid : CapabilityPackageVersion}
    (isValid : RunOp.revalidate env package = .ok valid) (descriptorRef : ResourceRef) :
    valid.exportFor descriptorRef = package.exportFor descriptorRef := by
  unfold RunOp.revalidate at isValid
  cases isDigest : env.packageDigest package with
  | error error =>
      rw [isDigest] at isValid
      dsimp only at isValid
      split at isValid
      · cases isValid
      · cases isValid
  | ok digest =>
      rw [isDigest] at isValid
      cases isValid
      rfl

/-- The evidence of a node is accepted. -/
theorem nodeAccepted (reads : env.ReadsModels) {node : DynamicNode} {target : String}
    {package : CapabilityPackageVersion} {exported : CapabilityExport} {inputRef : ResourceRef}
    (isNew : state.attempts.lookup attemptId = none)
    (provisioned : state.findCachedPackage node.packageRef.resourceId node.packageRef.digest =
      some package)
    (isExport : package.exportFor node.capabilityDescriptorRef = .ok exported)
    (runs : (RunOp.run env slaveId attemptId operation payload
      (some (node.dispatchedClosure exported inputRef)) (some (node.dispatchedBinding target))
      executionEpoch).Runs (ServedFirst content) state state' (.ok result)) :
    NodeAccepted env content node package attemptId executionId executionEpoch result := by
  obtain ⟨other, contract, items, digest, isOther, isContract, isDigest, parsed, attests⟩ :=
    run_attests reads isNew runs
  have same : other = exported := by
    have isBound : state.boundExport env (some (node.dispatchedBinding target)) =
        (RunOp.revalidate env package).bind fun package =>
          selectedExport package (some (node.dispatchedBinding target)) := by
      unfold SlaveState.boundExport
      dsimp only [DynamicNode.dispatchedBinding, Option.bind]
      rw [provisioned]
    rw [isBound] at isOther
    cases isValid : RunOp.revalidate env package with
    | error error =>
        rw [isValid] at isOther
        cases isOther
    | ok valid =>
        rw [isValid] at isOther
        have selected : selectedExport valid (some (node.dispatchedBinding target)) =
          .ok exported := by
          unfold selectedExport
          dsimp only [DynamicNode.dispatchedBinding, Option.bind]
          rw [revalidate_exports isValid, isExport]
        cases isOther.symm.trans selected
        rfl
  subst same
  refine ⟨fun record error => fenceNodeReport_bare isDigest parsed, digest, items, isDigest, parsed,
    ?_⟩
  intro other isOther repo repo' observer loaded
  cases isExport.symm.trans isOther
  have isObserver := ((Op.loadIoContract_computes other.ioContractRef _ _ _).1 loaded).2
  cases contract_unique isContract isObserver.symm
  exact crossCheckNodeEvidence_covers rfl rfl attests.covers

end Acceptance

/-- For every attempt that a Slave runs for the first time: the evidence of an ordinary run, with
the first compute binding of the closure, is accepted by `record_result` exactly if the contract of
the bound export agrees with the committed one, and the evidence of a dynamic node, with the package
that Observer has for it, is accepted by `record_dynamic_node_result`. -/
theorem evidence_accepted_iff {env : Env} (reads : env.ReadsModels) (content : Content) :
    (∀ (closure : TaskClosure) (exported : CapabilityExport) (state state' : SlaveState)
      (slaveId attemptId executionId : String) (payload : Dict) (executionEpoch : Int)
      (result : ExecutionResult), state.attempts.lookup attemptId = none →
      state.boundExport env closure.dispatchedBinding = .ok exported →
      (RunOp.run env slaveId attemptId closure.dispatchedOperation payload (some closure)
        closure.dispatchedBinding executionEpoch).Runs (ServedFirst content) state state'
          (.ok result) →
      (ResultAccepted env content closure attemptId executionId executionEpoch result ↔
        ContractsAgree env content exported closure)) ∧
    ∀ (node : DynamicNode) (package : CapabilityPackageVersion) (exported : CapabilityExport)
      (inputRef : ResourceRef) (state state' : SlaveState)
      (slaveId target attemptId executionId : String) (executionEpoch : Int)
      (result : ExecutionResult), state.attempts.lookup attemptId = none →
      state.findCachedPackage node.packageRef.resourceId node.packageRef.digest = some package →
      package.exportFor node.capabilityDescriptorRef = .ok exported →
      (RunOp.run env slaveId attemptId (operationName node.capabilityDescriptorRef.resourceId) []
        (some (node.dispatchedClosure exported inputRef)) (some (node.dispatchedBinding target))
        executionEpoch).Runs (ServedFirst content) state state' (.ok result) →
      NodeAccepted env content node package attemptId executionId executionEpoch result := by
  refine ⟨?_, ?_⟩
  · intro closure exported state state' slaveId attemptId executionId payload executionEpoch result
      isNew isExport runs
    exact resultAccepted_iff reads isNew isExport runs
  · intro node package exported inputRef state state' slaveId target attemptId executionId
      executionEpoch result isNew provisioned isExport runs
    exact nodeAccepted reads isNew provisioned isExport runs

namespace Demo

def textOf : Json → Option String
  | .str text => some text
  | _ => none

/-- `ResourceRef.model_validate` of what `model_dump` writes. -/
def readRef (value : Json) : Except Exc ResourceRef :=
  match Dict.get value.entries "resource_id" with
  | .str resourceId => .ok
      { resourceId, versionOrDigest := textOf (Dict.get value.entries "version_or_digest")
        accessBinding := Dict.get value.entries "access_binding"
        identityCriterion := textOf (Dict.get value.entries "identity_criterion")
        provenance := (Dict.get value.entries "provenance").items }
  | _ => .error (.valueError "resource_id")

def readOptionalRef (value : Json) : Option ResourceRef :=
  match readRef value with
  | .ok ref => some ref
  | .error _ => none

/-- `ValidationEvidence.model_validate` of what `model_dump` writes. -/
def readEvidence (value : Json) : Except Exc ValidationEvidence :=
  match Dict.get value.entries "evidence_id", Dict.get value.entries "attempt_id",
      Dict.get value.entries "execution_epoch" with
  | .str evidenceId, .str attemptId, .int executionEpoch => .ok
      { evidenceId, attemptId, executionEpoch
        validatorRef := readOptionalRef (Dict.get value.entries "validator_ref")
        schemaRef := readOptionalRef (Dict.get value.entries "schema_ref")
        inputDigest := textOf (Dict.get value.entries "input_digest")
        outputDigest := textOf (Dict.get value.entries "output_digest")
        result := if Dict.get value.entries "result" = .str "pass" then .pass else .fail
        errors := (Dict.get value.entries "errors").items
        issuer := if Dict.get value.entries "issuer" = .str "slave" then .slave else .observer }
  | _, _, _ => .error (.valueError "evidence")

/-- The settings of the demonstration with models that are read back. -/
def reader : Env := { env with resourceRef := readRef, validationEvidence := readEvidence }

theorem textOf_ofOption (text : Option String) : textOf (.ofOption text) = text := by
  cases text <;> rfl

theorem readRef_toJson (ref : ResourceRef) : readRef ref.toJson = .ok ref := by
  simp [readRef, ResourceRef.toJson, Dict.get, Json.entries, Json.items, List.lookup_cons,
    textOf_ofOption]

theorem readOptionalRef_toJson (ref : Option ResourceRef) :
    readOptionalRef ((ref.map ResourceRef.toJson).getD .null) = ref := by
  cases ref with
  | none => rfl
  | some ref => simp [readOptionalRef, readRef_toJson]

theorem readEvidence_toJson (item : ValidationEvidence) : readEvidence item.toJson = .ok item := by
  rcases item with ⟨evidenceId, attemptId, epoch, validatorRef, schemaRef, inputDigest,
    outputDigest, result, errors, issuer⟩
  cases result <;> cases issuer <;>
    simp [readEvidence, ValidationEvidence.toJson, Dict.get, Json.entries, Json.items,
      List.lookup_cons, readOptionalRef_toJson, textOf_ofOption]

theorem lower_digest (number : Nat) : lower (digest number) = digest number := by
  have last : (Nat.digitChar number).toLower = Nat.digitChar number := by
    rcases Nat.lt_or_ge number 16 with small | large
    · have digits : ∀ digit < 16, (Nat.digitChar digit).toLower = Nat.digitChar digit := by decide
      exact digits number small
    · have star : Nat.digitChar number = '*' := by
        unfold Nat.digitChar
        iterate 16 rw [if_neg (by omega)]
      rw [star]
      rfl
  unfold lower digest
  rw [String.toList_ofList, List.map_append, List.map_replicate, List.map_singleton, last]
  rfl

theorem reader_reads : reader.ReadsModels :=
  ⟨fun _ _ _ ref _ => readRef_toJson ref, fun item _ _ => readEvidence_toJson item,
    fun _ => lower_digest _⟩

/-- The export that the compute binding names: its contract has a validator. -/
def boundExport : CapabilityExport :=
  { capabilityDescriptorRef := descriptorRef, ioContractRef := contentRef 2
    replaySafety := "DeterministicByEventLog" }

/-- The package of the export, which runs in a container. -/
def cachedPackage : CapabilityPackageVersion :=
  { package "double" "container:http" "package-closure-2" [] with
    packageType := "service", capabilityExports := [boundExport] }

def readyActivation : CapabilityPackageActivation :=
  { packageVersionRef := "capability-package://double/v1", packageDigest := digest 8
    targetSlave := "slave-a", activationClosureVersionRef := "", computeBindingRef := ""
    desiredState := .running, activationRevision := 1, lastIdempotencyKey := "key"
    activationState := .ready }

/-- A Slave on which the package is provisioned. -/
def slave : SlaveState :=
  { packageCache := [(packageCacheKey nodePackageRef.resourceId (digest 8), cachedPackage)]
    activations := [("capability-package://double/v1", readyActivation)] }

/-- The answers around a Slave: the plugin returns five, and validators pass. -/
def slaveWorld : (query : RunQuery) → RunAnswer query
  | .contentGet digest => .ok (contentOf digest)
  | .contentPut _ _ => .ok ()
  | .storedAttempt _ => .ok none
  | .storeAttempt _ _ => .ok ()
  | .runProgram _ _ => .ok (.obj [("result", .str "pass")])
  | .invokePlugin _ _ _ _ _ => .ok [("value", .int 5)]

theorem slaveWorld_served (query : RunQuery) : ServedFirst contentOf query (slaveWorld query) := by
  cases query <;> trivial

/-- A closure with a contract and one compute binding. -/
def boundClosure (contractNumber : Nat) : TaskClosure :=
  { closureId := "closure", metadata := [("goal", .str "goal")]
    program := { ioContractRef := some (contentRef contractNumber) }
    computeBindings :=
      [{ bindingId := "binding", holeId := "hole", capabilityDescriptorRef := descriptorRef
         capabilityPackageRef := some nodePackageRef
         targetResourceRef := { resourceId := "slave-a" } }] }

/-- A node whose operation is that of the package. -/
def validatedNode : DynamicNode :=
  { nodeId := firstNode, parentExecutionRef := "execution-6", intentId := "intent-0001"
    packageRef := nodePackageRef, capabilityDescriptorRef := descriptorRef }

theorem digitChar_isDigit {number : Nat} (small : number < 10) :
    (Nat.digitChar number).isDigit = true := by
  have digits : ∀ digit < 10, (Nat.digitChar digit).isDigit = true := by decide
  exact digits number small

theorem isHexDigest_digest {number : Nat} (small : number < 10) :
    isHexDigest (digest number) = true := by
  unfold isHexDigest digest
  rw [String.length_ofList, String.toList_ofList, List.length_append, List.all_append,
    List.all_replicate]
  simp [digitChar_isDigit small]

theorem digestFromRef_contentRef {number : Nat} (small : number < 10) :
    Op.digestFromRef (contentRef number) = .ok (digest number) := by
  have stripped : strip (contentPrefix ++ digest number) = contentPrefix ++ digest number := by
    refine strip_eq (fun char head => ?_) (fun char last => ?_)
    · rw [String.toList_append, List.head?_append] at head
      cases head
      decide
    · unfold digest at last
      rw [String.toList_append, String.toList_ofList, ← List.append_assoc,
        List.getLast?_append] at last
      cases last
      have digits : ∀ digit < 10, isSpace (Nat.digitChar digit) = false := by decide
      exact digits number small
  unfold Op.digestFromRef Op.normalizeDigest contentRef
  rw [if_neg (by simp)]
  dsimp only
  rw [stripped, if_pos (isContentId_prefixed _), contentSuffix_prefix,
    if_pos (isHexDigest_digest small), lower_digest]

theorem get_contentRef {number : Nat} (small : number < 10) :
    Content.get contentOf reader (contentRef number) = .ok [UInt8.ofNat number] := by
  unfold Content.get
  rw [digestFromRef_contentRef small]
  have all : ∀ number < 10, contentOf (digest number) = some [UInt8.ofNat number] ∧
      reader.sha256 [UInt8.ofNat number] = digest number := by
    decide +kernel
  obtain ⟨found, same⟩ := all number small
  dsimp only
  rw [found]
  dsimp only
  rw [if_pos same]

theorem computes_run {α : Type} {program : RunOp α} {outcome : Except Exc α}
    (computes : program.Computes (ServedBy contentOf) outcome) (state : SlaveState) :
    Prog.run slaveWorld program state = (state, outcome) := by
  have runs := (Prog.runs_run slaveWorld slaveWorld_served program state).mono
    fun query answer => ServedFirst.served query answer
  obtain ⟨same, isOutcome⟩ := (computes _ _ _).1 runs
  exact Prod.ext same isOutcome

theorem contentGet_run {number : Nat} (small : number < 10) (state : SlaveState) :
    Prog.run slaveWorld (RunOp.contentGet reader (contentRef number)) state =
      (state, .ok [UInt8.ofNat number]) := by
  rw [computes_run (RunOp.contentGet_computes _), get_contentRef small]

theorem loadIoContract_run (state : SlaveState) :
    Prog.run slaveWorld (RunOp.loadIoContract reader (contentRef 2)) state =
      (state, .ok { successValidatorRef := some (contentRef 4) }) := by
  rw [computes_run (RunOp.loadIoContract_computes _)]
  unfold Content.contract
  rw [get_contentRef (by decide)]
  rfl
  


theorem digest_ne_empty (number : Nat) : digest number ≠ "" := by
  unfold digest
  simp

theorem nodePackageRef_digest : nodePackageRef.digest = some (digest 8) := by
  have named : isContentId nodePackageRef.resourceId = false := by decide +kernel
  unfold ResourceRef.digest
  rw [if_neg (by simp [nodePackageRef]), if_neg (by simp [named])]
  change (if digest 8 ≠ "" then some (lower (digest 8)) else none) = _
  rw [if_pos (digest_ne_empty 8), lower_digest]

theorem findCachedPackage_slave :
    slave.findCachedPackage nodePackageRef.resourceId nodePackageRef.digest =
      some cachedPackage := by
  have found : slave.packageCache.lookup (packageCacheKey nodePackageRef.resourceId (digest 8)) =
      some cachedPackage := List.lookup_cons_self
  have same : lower cachedPackage.packageDigest = digest 8 := lower_digest 8
  unfold SlaveState.findCachedPackage
  rw [nodePackageRef_digest, Option.getD_some, lower_digest, if_neg (digest_ne_empty 8), found]
  dsimp only
  rw [if_pos same]

theorem exportFor_package : cachedPackage.exportFor descriptorRef = .ok boundExport := by
  decide +kernel

theorem runs_of_run {α : Type} {program : RunOp α} {state state' : SlaveState}
    {outcome : Except Exc α} (isRun : Prog.run slaveWorld program state = (state', outcome)) :
    program.Runs (ServedFirst contentOf) state state' outcome := by
  have runs := Prog.runs_run slaveWorld slaveWorld_served program state
  rw [isRun] at runs
  exact runs

def validatorAnswer : Json := .obj [("result", .str "pass")]

theorem execute_runs {closure : TaskClosure} {attemptId operation : String} {payload : Dict}
    (admits : (RunOp.admissionPayload reader [] operation (some closure)
      (some boundExport)).Runs (ServedFirst contentOf) slave slave (.ok payload)) :
    ∃ state' result, (RunOp.execute reader attemptId operation [] (some closure) 1
      cachedPackage boundExport).Runs (ServedFirst contentOf) slave state' (.ok result) := by
  have loads := fun state => runs_of_run (loadIoContract_run state)
  have validates : (RunOp.validateInputPayload reader boundExport payload).Runs
      (ServedFirst contentOf) slave slave (.ok ()) := .bind (loads slave) .ret
  have plugin : cachedPackage.usesRuntimePlugin = true := by decide +kernel
  have invokes : ∃ result, (if cachedPackage.usesRuntimePlugin then
      RunOp.invokePlugin reader cachedPackage boundExport payload attemptId
        else RunOp.invokeExecutor reader cachedPackage payload).Runs (ServedFirst contentOf) slave
          slave (.ok result) := by
    rw [if_pos plugin]
    exact ⟨_, runs_of_run rfl⟩
  obtain ⟨result, invokes⟩ := invokes
  have judges : ∃ state' final, (RunOp.validateTerminalResult reader result attemptId 1
      (some closure) (some boundExport)).Runs (ServedFirst contentOf) slave state' (.ok final) := by
    have reads := runs_of_run (@contentGet_run 4 (by decide) slave)
    have validator : (RunOp.runValidator reader (contentRef 4) result.value).Runs
        (ServedFirst contentOf) slave slave (.ok validatorAnswer) :=
      .bind reads (.bind .ret (.await (.ok validatorAnswer) trivial .ret))
    have evidence : ∀ subject : EvidenceSubject, ∃ item,
        (RunOp.evidence reader subject (pluginVerdict validatorAnswer)
          (pluginErrors validatorAnswer)).Runs (ServedFirst contentOf) slave
            (apply RunWrite.takeUuid slave) (.ok item) :=
      fun subject => ⟨_, .bind (.read (.write .ret)) .ret⟩
    obtain ⟨item, evidence⟩ := evidence
      (evidenceSubject attemptId 1 closure { successValidatorRef := some (contentRef 4) }
        result.digest)
    have checks : (RunOp.checkValidator reader { successValidatorRef := some (contentRef 4) }
        (evidenceSubject attemptId 1 closure { successValidatorRef := some (contentRef 4) }
          result.digest) result.value).Runs (ServedFirst contentOf) slave
            (apply RunWrite.takeUuid slave) (.ok (some (item, validatorAnswer))) :=
      .bind validator (.bind evidence .ret)
    exact ⟨_, _, .bind (loads slave) (.bind .ret (.bind checks .ret))⟩
  obtain ⟨state', final, judges⟩ := judges
  have stores : ∀ stored :
    ExecutionResult,
      (Prog.bind (.await (.contentPut [UInt8.ofNat (numberOf final.value)] "application/json")
        Prog.ofExcept) fun _ =>
     (Prog.tell (.remember attemptId stored)).bind fun _ =>
     (Prog.await (.storeAttempt attemptId stored) Prog.ofExcept).bind fun _ => .ret stored :
       RunOp ExecutionResult).Runs (ServedFirst contentOf) state'
         (apply (RunWrite.remember attemptId stored) state') (.ok stored) :=
    fun stored => .bind (.await (.ok ()) trivial .ret)
      (.bind (.write .ret) (.bind (.await (.ok ()) trivial .ret) .ret))
  exact ⟨_, _,
    .bind admits (.bind validates (.bind invokes (.bind judges (.bind .ret (stores _)))))⟩

theorem run_runs {closure : TaskClosure} {binding : ComputeBinding} {attemptId operation : String}
    {payload : Dict}
    (isPackage : binding.capabilityPackageRef = some nodePackageRef)
    (isDescriptor : binding.capabilityDescriptorRef = descriptorRef)
    (admitted : admitClosure "slave-a" operation (some closure) (some binding) = .ok ())
    (admits : (RunOp.admissionPayload reader [] operation (some closure)
      (some boundExport)).Runs (ServedFirst contentOf) slave slave (.ok payload)) :
    ∃ state' result, (RunOp.run reader "slave-a" attemptId operation [] (some closure)
      (some binding) 1).Runs (ServedFirst contentOf) slave state' (.ok result) := by
  obtain ⟨state', result, executes⟩ := @execute_runs closure attemptId operation payload admits
  have finds : (RunOp.findPackage operation (some binding)).Runs (ServedFirst contentOf) slave
      slave (.ok (some cachedPackage)) := by
    unfold RunOp.findPackage
    refine .read ?_
    rw [Option.bind_some, isPackage]
    dsimp only
    rw [findCachedPackage_slave]
    exact .ret
  have selects : selectedExport cachedPackage (some binding) = .ok boundExport := by
    unfold selectedExport
    dsimp only
    rw [isDescriptor, exportFor_package]
  have admitting : (Prog.ofExcept (admitClosure "slave-a" operation (some closure) (some binding)) :
      RunOp Unit).Runs (ServedFirst contentOf) slave slave (.ok ()) := by
    rw [admitted]
    exact .ret
  have selecting : (Prog.ofExcept (selectedExport cachedPackage (some binding)) :
      RunOp CapabilityExport).Runs (ServedFirst contentOf) slave slave (.ok boundExport) := by
    rw [selects]
    exact .ret
  have available : (Prog.guard (slave.available = true ∧ slave.replicaReady = true)
      (runtimeError "slave_unavailable") : RunOp Unit).Runs (ServedFirst contentOf) slave slave
        (.ok ()) := .ret
  have revalidating : (Prog.ofExcept (RunOp.revalidate reader cachedPackage) :
      RunOp CapabilityPackageVersion).Runs (ServedFirst contentOf) slave slave
        (.ok cachedPackage) := .ret
  exact ⟨state', result,
    .bind (.read .ret) (.bind available (.bind finds (.bind admitting (.bind revalidating
    (.bind selecting (.bind (.await (.ok none) rfl .ret) executes))))))⟩

theorem boundClosure_operation (contractNumber : Nat) :
    operationName (boundClosure contractNumber).operationRef = "" := by
  have isEmpty : operationName "" = "" := by decide +kernel
  exact isEmpty

theorem ordinary_runs (contractNumber : Nat) (attemptId : String) :
    ∃ state' result, (RunOp.run reader "slave-a" attemptId
      (boundClosure contractNumber).dispatchedOperation [] (some (boundClosure contractNumber))
      (boundClosure contractNumber).dispatchedBinding 1).Runs (ServedFirst contentOf) slave state'
        (.ok result) := by
  have operation : (boundClosure contractNumber).dispatchedOperation = "run_code" := by
    unfold TaskClosure.dispatchedOperation
    rw [boundClosure_operation]
    rfl
  have fits : (boundClosure contractNumber).mismatches "run_code" = false := by
    unfold TaskClosure.mismatches
    rw [boundClosure_operation]
    rfl
  have bound : (boundClosure contractNumber).holeError = none := rfl
  rw [operation]
  refine run_runs rfl rfl ?_ .ret
  unfold admitClosure
  dsimp only
  rw [fits, if_neg (by simp), bound]
  rfl

theorem node_runs (attemptId : String) :
    ∃ state' result, (RunOp.run reader "slave-a" attemptId
      (operationName validatedNode.capabilityDescriptorRef.resourceId) []
      (some (validatedNode.dispatchedClosure boundExport (contentRef 6)))
      (some (validatedNode.dispatchedBinding "slave-a")) 1).Runs (ServedFirst contentOf) slave
        state' (.ok result) := by
  have operation : operationName validatedNode.capabilityDescriptorRef.resourceId = "double" := by
    decide +kernel
  have fits : (validatedNode.dispatchedClosure boundExport (contentRef 6)).mismatches "double" =
      false := by
    unfold TaskClosure.mismatches
    change (let expected := operationName validatedNode.capabilityDescriptorRef.resourceId
      (expected ≠ "" && expected ≠ "double" : Bool)) = false
    rw [operation]
    rfl
  have bound : (validatedNode.dispatchedClosure boundExport (contentRef 6)).holeError = none := rfl
  have isInput : (validatedNode.dispatchedClosure boundExport (contentRef 6)).admissionBinding
      "double" = some { nodeId := "operation://double", inputRef := contentRef 6 } := by
    unfold TaskClosure.admissionBinding
    refine List.find?_cons_of_pos ?_
    rw [decide_eq_true_eq]
    exact Or.inl rfl
  rw [operation]
  refine @run_runs _ _ attemptId "double" (validatorInput (.int 6)).entries rfl rfl ?_ ?_
  · unfold admitClosure
    dsimp only
    rw [fits, if_neg (by simp), bound]
    rfl
  · unfold RunOp.admissionPayload
    dsimp only
    rw [if_neg (by simp [DynamicNode.dispatchedClosure]), isInput]
    have loads := runs_of_run (loadIoContract_run slave)
    have reads := runs_of_run (@contentGet_run 6 (by decide) slave)
    have input : (RunOp.orMismatch (RunOp.loadJson reader (contentRef 6))).Runs
        (ServedFirst contentOf) slave slave (.ok (.int 6)) :=
      .bind (Prog.Runs.attempt (.bind reads .ret)) .ret
    exact .bind (.bind loads .ret) (.bind input (.bind .ret .ret))

/-- The calls that start the closure with a contract. -/
def boundStart (contractNumber : Nat) : List Call :=
  [.openRun { runId := some "run", taskRef := "task", goal := "goal"
              closureContract := some { contract contractNumber with
                body := boundClosure contractNumber } },
    .beginRefinement "run", .commit "run" "draft-0" (digest 1), .start "run" "committed-1"]

theorem contract_slave : Content.contract contentOf reader (contentRef 2) =
    .ok { successValidatorRef := some (contentRef 4) } := by
  unfold Content.contract
  rw [get_contentRef (by decide)]
  rfl

theorem requireContentRef_contentRef {number : Nat} (small : number < 10) :
    requireContentRef (contentRef number) = .ok () := by
  have isDigest : (contentRef number).digest = some (digest number) := by
    unfold ResourceRef.digest contentRef
    rw [if_neg (by simp), if_pos (isContentId_prefixed _), contentSuffix_prefix, lower_digest]
  unfold requireContentRef
  rw [isDigest]
  unfold contentRef
  dsimp only
  rw [isContentId_prefixed, if_neg (by simp), Option.getD_some, isHexDigest_digest small,
    if_neg (by simp), contentSuffix_prefix, if_neg (by simp), if_neg (by simp)]

theorem committed_boundClosure {contractNumber : Nat} (small : contractNumber < 10) :
    Content.committed contentOf reader (boundClosure contractNumber) =
      (reader.ioContract (json (UInt8.ofNat contractNumber).toNat)).map some := by
  have loaded : Content.loadContract contentOf reader (contentRef contractNumber) =
      reader.ioContract (json (UInt8.ofNat contractNumber).toNat) := by
    unfold Content.loadContract Content.loadJson
    rw [requireContentRef_contentRef small, get_contentRef small]
    rfl
  unfold Content.committed
  change (Content.loadContract contentOf reader (contentRef contractNumber)).map some = _
  rw [loaded]

theorem boundExport_slave (contractNumber : Nat) :
    slave.boundExport reader (boundClosure contractNumber).dispatchedBinding = .ok boundExport := by
  have isRef : ((boundClosure contractNumber).dispatchedBinding.bind fun binding =>
      binding.capabilityPackageRef) = some nodePackageRef := rfl
  have isValid : RunOp.revalidate reader cachedPackage = .ok cachedPackage := rfl
  have isSelected : selectedExport cachedPackage (boundClosure contractNumber).dispatchedBinding =
      .ok boundExport := by
    unfold selectedExport boundClosure TaskClosure.dispatchedBinding
    rw [List.head?_cons]
    dsimp only
    rw [exportFor_package]
  unfold SlaveState.boundExport
  rw [isRef]
  dsimp only
  rw [findCachedPackage_slave]
  dsimp only
  rw [isValid]
  exact isSelected

end Demo

/-- An ordinary result and the result of a node, both with the evidence of a validator, that are
accepted. -/
theorem validated_evidence_accepted :
    (∃ state result, (RunOp.run Demo.reader "slave-a" "attempt-3"
        (Demo.boundClosure 2).dispatchedOperation [] (some (Demo.boundClosure 2))
        (Demo.boundClosure 2).dispatchedBinding 1).Runs (ServedFirst Demo.contentOf) Demo.slave
          state (.ok result) ∧
      ResultAccepted Demo.reader Demo.contentOf (Demo.boundClosure 2) "attempt-3" "execution-2" 1
        result) ∧
    ∃ state result, (RunOp.run Demo.reader "slave-a" "attempt-7"
        (operationName Demo.validatedNode.capabilityDescriptorRef.resourceId) []
        (some (Demo.validatedNode.dispatchedClosure Demo.boundExport (Demo.contentRef 6)))
        (some (Demo.validatedNode.dispatchedBinding "slave-a")) 1).Runs
          (ServedFirst Demo.contentOf) Demo.slave state (.ok result) ∧
      NodeAccepted Demo.reader Demo.contentOf Demo.validatedNode Demo.cachedPackage "attempt-7"
        "execution-6" 1 result := by
  obtain ⟨ordinary, nodes⟩ := evidence_accepted_iff Demo.reader_reads Demo.contentOf
  obtain ⟨state, result, runs⟩ := Demo.ordinary_runs 2 "attempt-3"
  obtain ⟨state', result', runs'⟩ := Demo.node_runs "attempt-7"
  refine ⟨⟨state, result, runs, ?_⟩, state', result', runs', ?_⟩
  · refine (ordinary (Demo.boundClosure 2) Demo.boundExport Demo.slave state "slave-a" "attempt-3"
      "execution-2" [] 1 result rfl (Demo.boundExport_slave 2) runs).2 ?_
    intro slave observer isSlave isObserver
    cases (Demo.contract_slave).symm.trans isSlave
    cases (Demo.committed_boundClosure (by decide)).symm.trans isObserver
    exact Or.inr ⟨Or.inl rfl, sameRef_refl _⟩
  · exact nodes Demo.validatedNode Demo.cachedPackage Demo.boundExport (Demo.contentRef 6)
      Demo.slave state' "slave-a" "slave-a" "attempt-7" "execution-6" 1 result' rfl
      Demo.findCachedPackage_slave Demo.exportFor_package runs'

/-- Evidence that Observer rejects: the first compute binding names an export with a validator that
the committed contract does not have, and readiness has let the closure start. -/
theorem validated_evidence_rejected :
    (∃ state result, (RunOp.run Demo.reader "slave-a" "attempt-3"
        (Demo.boundClosure 1).dispatchedOperation [] (some (Demo.boundClosure 1))
        (Demo.boundClosure 1).dispatchedBinding 1).Runs (ServedFirst Demo.contentOf) Demo.slave
          state (.ok result) ∧
      ¬ResultAccepted Demo.reader Demo.contentOf (Demo.boundClosure 1) "attempt-3" "execution-2" 1
        result) ∧
    ((play (Call.prog Demo.reader) (Demo.usually (Demo.boundStart 1)) Repo.empty).1.all
      fun entry => entry.result.toBool) = true := by
  refine ⟨?_, by decide +kernel⟩
  obtain ⟨state, result, runs⟩ := Demo.ordinary_runs 1 "attempt-3"
  refine ⟨state, result, runs, ?_⟩
  rw [resultAccepted_iff Demo.reader_reads rfl (Demo.boundExport_slave 1) runs]
  intro agree
  rcases agree _ _ Demo.contract_slave (Demo.committed_boundClosure (by decide)) with
    ⟨-, impossible⟩ | ⟨-, impossible⟩
  · cases impossible
  · revert impossible
    decide +kernel

end Loom
