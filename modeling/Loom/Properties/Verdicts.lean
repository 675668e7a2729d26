import Loom.Observer.Execution
import Loom.Slave.Service

/-!
# The four judges of a success validator

The Slave, `record_result`, `record_dynamic_node_result` and `complete_orchestration` run the same
validator and judge what it answers.  They agree on answers that list errors exactly when they do
not pass.
-/

namespace Loom

/-- How the Slave judges a run of the validator: it raises what was raised, and evidence whose
errors are not objects cannot be built. -/
def slaveVerdict : Except Exc Json → Except Exc Verdict
  | .error error => .error error
  | .ok answer =>
      if (pluginErrors answer).all Json.isObject then .ok (pluginVerdict answer)
      else .error (.valueError "ValidationEvidence")

/-- How `record_result` judges a run of the validator. -/
def resultVerdict (answer : Except Exc Json) : Verdict :=
  if validatorPassed answer then .pass else .fail

/-- The errors that `record_dynamic_node_result` takes from a run of the validator. -/
def nodeValidatorErrors : Except Exc Json → List Json
  | .ok answer => validatorErrorItems answer
  | .error error => validatorFailure error

/-- How `record_dynamic_node_result` judges a run of the validator. -/
def nodeValidatorVerdict (answer : Except Exc Json) : Verdict :=
  if validatorPassed answer && (nodeValidatorErrors answer).isEmpty then .pass else .fail

/-- How `complete_orchestration` judges a run of the validator. -/
def finalVerdict (env : Env) (answer : Except Exc Json) : Verdict :=
  if finalValidatorErrors env answer = [] then .pass else .fail

/-! ### The programs judge so -/

section Programs

open Coroutine

variable {env : Env} {answered : (query : Query) → Answer query → Prop}
  {served : (query : RunQuery) → RunAnswer query → Prop} {repo repo' : Repo}

/-- The evidence of the Slave carries its verdict. -/
theorem checkValidator_judges {contract : IoContract} {subject : EvidenceSubject} {value : Json}
    {validatorRef : ResourceRef} (isRef : contract.successValidatorRef = some validatorRef)
    {state state' : SlaveState} {result : Except Exc (Option (ValidationEvidence × Json))}
    (runs : (RunOp.checkValidator env contract subject value).Runs served state state' result) :
    ∃ middle answer,
      (RunOp.runValidator env validatorRef value).Runs served state middle answer ∧
      slaveVerdict answer = result.map fun judged =>
        (judged.map fun verdict => verdict.1.result).getD default := by
  unfold RunOp.checkValidator at runs
  rw [isRef] at runs
  rcases runs.of_bind with ⟨middle, answer, ran, rest⟩ | ⟨error, ran, rfl⟩
  · refine ⟨middle, .ok answer, ran, ?_⟩
    unfold slaveVerdict
    dsimp only
    rcases rest.of_bind with ⟨later, item, built, returned⟩ | ⟨error, built, rfl⟩
    · cases returned with
      | ret =>
          unfold RunOp.evidence RunOp.uuid at built
          cases built with
          | read built =>
              cases built with
              | write built =>
                  have made := (built.of_ofExcept).2
                  unfold EvidenceSubject.evidence at made
                  split at made
                  · rename_i objects
                    cases made
                    rw [if_pos objects]
                    rfl
                  · cases made
    · unfold RunOp.evidence RunOp.uuid at built
      cases built with
      | read built =>
          cases built with
          | write built =>
              have made := (built.of_ofExcept).2
              unfold EvidenceSubject.evidence at made
              split at made
              · cases made
              · rename_i others
                cases made
                rw [if_neg others]
                rfl
  · exact ⟨state', .error error, ran, rfl⟩

/-- `record_result` has evidence with its verdict, and an error exactly if it is not a pass. -/
theorem observeValidator_judges {report : Report} {contract : IoContract}
    {inputDigest : Option String} {validatorRef : ResourceRef}
    (isRef : contract.successValidatorRef = some validatorRef)
    {result : Except Exc (Option (ValidationEvidence × Option Json))}
    (runs : (Op.observeValidator env report (some contract) inputDigest).Runs answered repo repo'
      result) :
    ∃ middle answer item error,
      (Op.runValidator env validatorRef report.value).Runs answered repo middle (.ok answer) ∧
      result = .ok (some (item, error)) ∧ item.result = resultVerdict answer ∧
      (error = none ↔ resultVerdict answer = .pass) := by
  unfold Op.observeValidator at runs
  have isBound : (some contract : Option IoContract).bind IoContract.successValidatorRef =
      some validatorRef := isRef
  rw [isBound] at runs
  rcases runs.of_bind with ⟨middle, answer, ran, rest⟩ | ⟨error, ran, rfl⟩
  · unfold Op.uuid at rest
    cases rest with
    | read rest =>
        cases rest with
        | write rest =>
            cases rest with
            | ret =>
                refine ⟨middle, answer, _, _, ran, rfl, rfl, ?_⟩
                unfold resultVerdict
                cases validatorPassed answer <;> simp
  · obtain ⟨outcome, _, impossible⟩ := ran.of_attempt
    cases impossible

/-- `record_dynamic_node_result` has evidence with its verdict, and an error exactly if it is not a
pass. -/
theorem nodeValidator_judges {report : NodeReport} {contract : IoContract}
    {validatorRef : ResourceRef} {result : Except Exc (ValidationEvidence × List SchemaError)}
    (runs : (Op.nodeValidator env report contract validatorRef).Runs answered repo repo' result) :
    ∃ middle answer item errors,
      (Op.runValidator env validatorRef report.value).Runs answered repo middle (.ok answer) ∧
      result = .ok (item, errors) ∧ item.result = nodeValidatorVerdict answer ∧
      (errors = [] ↔ nodeValidatorVerdict answer = .pass) := by
  unfold Op.nodeValidator at runs
  rcases runs.of_bind with ⟨middle, answer, ran, rest⟩ | ⟨error, ran, rfl⟩
  · unfold Op.uuid at rest
    cases rest with
    | read rest =>
        cases rest with
        | write rest =>
            cases rest with
            | ret =>
                refine ⟨middle, answer, _, _, ran, rfl, ?_, ?_⟩
                · cases answer <;> rfl
                · unfold nodeValidatorVerdict
                  cases answer with
                  | error error => simp [validatorPassed]
                  | ok answer =>
                      change (if (validatorPassed (.ok answer) &&
                        (validatorErrorItems answer).isEmpty) = true then _ else _) = [] ↔ _
                      unfold nodeValidatorErrors
                      dsimp only
                      split <;> simp
  · obtain ⟨outcome, _, impossible⟩ := ran.of_attempt
    cases impossible

/-- `complete_orchestration` goes on without an error exactly if its verdict is a pass. -/
theorem validateFinal_judges {final : FinalValue} {validatorRef : ResourceRef}
    (isRef : final.contract.bind IoContract.successValidatorRef = some validatorRef)
    {result : Except Exc (List SchemaError)}
    (runs : (Op.validateFinal env final []).Runs answered repo repo' result) :
    ∃ answer errors,
      (Op.runValidator env validatorRef (final.value.getD .null)).Runs answered repo repo'
        (.ok answer) ∧
      result = .ok errors ∧ (errors = [] ↔ finalVerdict env answer = .pass) := by
  unfold Op.validateFinal at runs
  rw [isRef] at runs
  rcases runs.of_bind with ⟨middle, answer, ran, rest⟩ | ⟨error, ran, rfl⟩
  · cases rest with
    | ret =>
        refine ⟨answer, _, ran, rfl, ?_⟩
        unfold finalVerdict
        split <;> simp_all
  · obtain ⟨outcome, _, impossible⟩ := ran.of_attempt
    cases impossible

end Programs

/-! ### When they agree -/

/-- All four judge the run of the validator, alike, and pass only what says so. -/
def JudgesAgree (env : Env) (answer : Except Exc Json) : Prop :=
  ∃ verdict, slaveVerdict answer = .ok verdict ∧ resultVerdict answer = verdict ∧
    nodeValidatorVerdict answer = verdict ∧ finalVerdict env answer = verdict ∧
    (verdict = .pass → ∃ payload, answer = .ok payload ∧ validatorResult payload = .str "pass")

/-- The same four, where an exception of the Slave counts as a failure. -/
def JudgesPassAlike (env : Env) (answer : Except Exc Json) : Prop :=
  ∃ passes : Prop, (slaveVerdict answer = .ok .pass ↔ passes) ∧
    (resultVerdict answer = .pass ↔ passes) ∧ (nodeValidatorVerdict answer = .pass ↔ passes) ∧
    (finalVerdict env answer = .pass ↔ passes) ∧
    (passes → ∃ payload, answer = .ok payload ∧ validatorResult payload = .str "pass")

theorem validatorErrorItems_eq (answer : Json) :
    validatorErrorItems answer = (pluginErrors answer).filter Json.isObject := by
  unfold validatorErrorItems pluginErrors
  refine List.filter_congr fun item _ => ?_
  cases item <;> rfl

theorem validatorErrorItems_eq_nil {answer : Json}
    (objects : (pluginErrors answer).all Json.isObject = true) :
    validatorErrorItems answer = [] ↔ pluginErrors answer = [] := by
  rw [validatorErrorItems_eq, List.filter_eq_self.2 fun item member =>
    List.all_eq_true.1 objects item member]

theorem fail_of_not_pass {verdict : Verdict} (differs : verdict ≠ .pass) : verdict = .fail := by
  cases verdict with
  | pass => exact absurd rfl differs
  | fail => rfl

/-- A final value has no validator error exactly if the validator ran and passed it or listed no
error. -/
theorem finalValidatorErrors_eq_nil (env : Env) (answer : Except Exc Json) :
    finalValidatorErrors env answer = [] ↔ ∃ payload, answer = .ok payload ∧
      (validatorResult payload = .str "pass" ∨ validatorErrorItems payload = []) := by
  cases answer with
  | error error =>
      constructor
      · intro empty
        cases empty
      · rintro ⟨payload, impossible, _⟩
        cases impossible
  | ok payload =>
      by_cases passed : validatorResult payload = .str "pass"
      · simp [finalValidatorErrors, passed]
      · by_cases empty : validatorErrorItems payload = []
        · simp [finalValidatorErrors, passed, empty]
        · simp [finalValidatorErrors, passed, empty]

section Verdicts

variable {env : Env} {payload : Json}

theorem validatorPassed_ok :
    validatorPassed (.ok payload) = true ↔ validatorResult payload = .str "pass" := by
  unfold validatorPassed
  exact decide_eq_true_iff

theorem slaveVerdict_pass :
    slaveVerdict (.ok payload) = .ok .pass ↔
      (pluginErrors payload).all Json.isObject = true ∧
        validatorResult payload = .str "pass" := by
  unfold slaveVerdict pluginVerdict
  dsimp only
  constructor
  · intro passed
    split at passed
    · rename_i objects
      split at passed
      · exact ⟨objects, ‹_›⟩
      · cases passed
    · cases passed
  · rintro ⟨objects, passed⟩
    rw [if_pos objects, if_pos passed]

theorem resultVerdict_pass :
    resultVerdict (.ok payload) = .pass ↔ validatorResult payload = .str "pass" := by
  rw [← validatorPassed_ok]
  unfold resultVerdict
  split <;> simp_all

theorem nodeValidatorVerdict_pass :
    nodeValidatorVerdict (.ok payload) = .pass ↔
      validatorResult payload = .str "pass" ∧ validatorErrorItems payload = [] := by
  rw [← validatorPassed_ok]
  unfold nodeValidatorVerdict nodeValidatorErrors
  dsimp only
  split <;> simp_all

theorem finalVerdict_pass :
    finalVerdict env (.ok payload) = .pass ↔
      validatorResult payload = .str "pass" ∨ validatorErrorItems payload = [] := by
  have empty := finalValidatorErrors_eq_nil env (.ok payload)
  unfold finalVerdict
  constructor
  · intro passed
    split at passed
    · rename_i none
      obtain ⟨other, same, fits⟩ := empty.1 none
      cases same
      exact fits
    · cases passed
  · intro fits
    rw [if_pos (empty.2 ⟨payload, rfl, fits⟩)]

end Verdicts

/-- The four judges agree exactly on answers that list errors, all of them objects, if and only if
they do not pass; where an exception of the Slave counts as a failure, also on validators that could
not be run and on failing answers that list at least one object. -/
theorem judges_agree_iff (env : Env) (answer : Except Exc Json) :
    (JudgesAgree env answer ↔ ∃ payload, answer = .ok payload ∧
      (pluginErrors payload).all Json.isObject = true ∧
      (validatorResult payload = .str "pass" ↔ pluginErrors payload = [])) ∧
    (JudgesPassAlike env answer ↔
      (∃ error, answer = .error error) ∨ ∃ payload, answer = .ok payload ∧
      (validatorResult payload = .str "pass" → pluginErrors payload = []) ∧
      (validatorResult payload ≠ .str "pass" →
        (pluginErrors payload).any Json.isObject = true)) := by
  refine ⟨?_, ?_⟩
  · constructor
    · rintro ⟨verdict, slave, result, node, final, honest⟩
      cases answer with
      | error error => cases slave
      | ok payload =>
          have objects : (pluginErrors payload).all Json.isObject = true := by
            by_contra others
            unfold slaveVerdict at slave
            dsimp only at slave
            rw [if_neg others] at slave
            cases slave
          refine ⟨payload, rfl, objects, fun passed => ?_, fun empty => ?_⟩
          · have isPass : verdict = .pass := by
              rw [← result]
              exact (resultVerdict_pass).2 passed
            rw [isPass] at node
            exact (validatorErrorItems_eq_nil objects).1 ((nodeValidatorVerdict_pass).1 node).2
          · have isPass : verdict = .pass := by
              rw [← final]
              exact (finalVerdict_pass).2 (Or.inr ((validatorErrorItems_eq_nil objects).2 empty))
            rw [isPass] at result
            exact (resultVerdict_pass).1 result
    · rintro ⟨payload, rfl, objects, fits⟩
      by_cases passed : validatorResult payload = .str "pass"
      · have empty := (validatorErrorItems_eq_nil objects).2 (fits.1 passed)
        exact ⟨.pass, (slaveVerdict_pass).2 ⟨objects, passed⟩, (resultVerdict_pass).2 passed,
          (nodeValidatorVerdict_pass).2 ⟨passed, empty⟩, (finalVerdict_pass).2 (Or.inl passed),
          fun _ => ⟨payload, rfl, passed⟩⟩
      · have listed : validatorErrorItems payload ≠ [] := by
          intro empty
          exact passed (fits.2 ((validatorErrorItems_eq_nil objects).1 empty))
        refine ⟨.fail, ?_, fail_of_not_pass (mt (resultVerdict_pass).1 passed),
          fail_of_not_pass fun isPass => passed ((nodeValidatorVerdict_pass).1 isPass).1,
          fail_of_not_pass fun isPass => ?_, fun impossible => by cases impossible⟩
        · unfold slaveVerdict pluginVerdict
          dsimp only
          rw [if_pos objects, if_neg passed]
        · rcases (finalVerdict_pass).1 isPass with isPassed | empty
          · exact passed isPassed
          · exact listed empty
  · constructor
    · rintro ⟨passes, slave, result, node, final, honest⟩
      cases answer with
      | error error => exact Or.inl ⟨error, rfl⟩
      | ok payload =>
          rw [slaveVerdict_pass] at slave
          rw [resultVerdict_pass] at result
          rw [nodeValidatorVerdict_pass] at node
          rw [finalVerdict_pass] at final
          refine Or.inr ⟨payload, rfl, fun passed => ?_, fun failed => ?_⟩
          · have objects := (slave.2 (result.1 passed)).1
            exact (validatorErrorItems_eq_nil objects).1 (node.2 (result.1 passed)).2
          · have listed : validatorErrorItems payload ≠ [] :=
              fun empty => failed (result.2 (final.1 (Or.inr empty)))
            rw [validatorErrorItems_eq] at listed
            obtain ⟨item, member⟩ := List.exists_mem_of_ne_nil _ listed
            exact List.any_eq_true.2 ⟨item, List.mem_filter.1 member⟩
    · rintro (⟨error, rfl⟩ | ⟨payload, rfl, whenPassed, whenFailed⟩)
      · refine ⟨False, ?_, ?_, ?_, ?_, fun impossible => impossible.elim⟩
        · exact iff_of_false (fun impossible => by cases impossible) id
        · exact iff_of_false (fun impossible => by cases impossible) id
        · exact iff_of_false (fun impossible => by cases impossible) id
        · exact iff_of_false (fun impossible => by cases impossible) id
      · refine ⟨validatorResult payload = .str "pass", ?_, resultVerdict_pass, ?_, ?_,
          fun passed => ⟨payload, rfl, passed⟩⟩
        · rw [slaveVerdict_pass]
          refine ⟨And.right, fun passed => ⟨?_, passed⟩⟩
          rw [whenPassed passed]
          rfl
        · rw [nodeValidatorVerdict_pass]
          refine ⟨And.left, fun passed => ⟨passed, ?_⟩⟩
          rw [validatorErrorItems_eq, whenPassed passed]
          rfl
        · rw [finalVerdict_pass]
          refine ⟨fun fits => ?_, Or.inl⟩
          rcases fits with passed | empty
          · exact passed
          · by_contra failed
            obtain ⟨item, member, isObject⟩ := List.any_eq_true.1 (whenFailed failed)
            rw [validatorErrorItems_eq] at empty
            have kept := List.mem_filter.2 ⟨member, isObject⟩
            rw [empty] at kept
            cases kept

/-- A validator that answers `fail` without listing errors passes as a final value. -/
theorem bare_failure_passes :
    ¬∀ (env : Env) (answer : Except Exc Json), JudgesAgree env answer := by
  intro agree
  obtain ⟨verdict, slave, result, node, final, honest⟩ :=
    agree Demo.env (.ok (.obj [("result", .str "fail")]))
  have failed : verdict = .fail := by
    rw [← result]
    decide
  have passed : verdict = .pass := by
    rw [← final]
    exact (finalVerdict_pass).2 (Or.inr (by decide))
  rw [failed] at passed
  cases passed

end Loom
