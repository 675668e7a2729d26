import Loom.Driver.Dispatch
import Loom.Slave.Service

/-!
# The input of a closure

Observer, the Driver and the Slave each select the `NodeInputBinding` of a closure.  The Slave also
takes the operation that it is asked to run for a name, which for a closure without an operation
name is `run_code`.
-/

namespace Loom

namespace TaskClosure

variable (closure : TaskClosure)

/-- Readiness and the input digest, the Driver's payload, the Slave's admission and its evidence
select the same binding, or none. -/
def SameInput : Prop :=
  ∃ selected : Option NodeInputBinding,
    inputBindingFor closure closure.operationRef = selected ∧
    closure.payloadBinding = selected ∧
    closure.admissionBinding closure.dispatchedOperation = selected ∧
    closure.evidenceBinding = selected

/-- A name under which every selection looks for the input. -/
def isInputName (name : String) : Bool :=
  name = closure.operationRef || name = operationName closure.operationRef || name = "default"

theorem inputBindingFor_eq : inputBindingFor closure closure.operationRef =
    closure.nodeInputBindings.find? fun binding => closure.isInputName binding.nodeId := by
  unfold inputBindingFor isInputName
  congr 1
  funext binding
  simp only [Bool.decide_or, Bool.or_assoc]

/-- Admission also looks for the operation that is dispatched. -/
theorem admissionBinding_eq : closure.admissionBinding closure.dispatchedOperation =
    closure.nodeInputBindings.find? fun binding =>
      closure.isInputName binding.nodeId || binding.nodeId = closure.dispatchedOperation := by
  have named : (if closure.operationRef = "" then closure.dispatchedOperation
      else operationName closure.operationRef) = operationName closure.operationRef ∨
    (if closure.operationRef = "" then closure.dispatchedOperation
      else operationName closure.operationRef) = closure.dispatchedOperation := by
    split
    · exact Or.inr rfl
    · exact Or.inl rfl
  have unnamed : closure.operationRef = "" → operationName closure.operationRef = "" := by
    intro empty
    rw [empty]
    decide
  unfold admissionBinding isInputName
  dsimp only
  congr 1
  funext binding
  rw [Bool.eq_iff_iff]
  simp only [decide_eq_true_iff, Bool.or_eq_true]
  by_cases empty : closure.operationRef = ""
  · rw [if_pos empty, unnamed empty, empty]
    grind
  · rw [if_neg empty]
    grind

end TaskClosure

/-- Two searches find the same exactly if the further test does not hold first. -/
theorem find?_or_eq {α : Type} {test more : α → Bool} (items : List α)
    (apart : ∀ item, more item = true → test item = false) :
    (items.find? fun item => test item || more item) = items.find? test ↔
      ∀ before item after, items = before ++ item :: after → more item = true →
        before.any test = true := by
  induction items with
  | nil =>
      refine ⟨fun _ before item after split => ?_, fun _ => rfl⟩
      exact absurd split (by simp)
  | cons first rest ih =>
      cases isTest : test first with
      | true =>
          have found : ((first :: rest).find? fun item => test item || more item) = some first := by
            rw [List.find?_cons_of_pos]
            simp [isTest]
          rw [found, List.find?_cons_of_pos isTest]
          refine ⟨fun _ before item after split isMore => ?_, fun _ => rfl⟩
          cases before with
          | nil =>
              cases split
              rw [apart _ isMore] at isTest
              cases isTest
          | cons head tail =>
              cases split
              simp [isTest]
      | false =>
          cases isMore : more first with
          | true =>
              have found : ((first :: rest).find? fun item => test item || more item) =
                  some first := by
                rw [List.find?_cons_of_pos]
                simp [isMore]
              have skipped : (first :: rest).find? test = rest.find? test :=
                List.find?_cons_of_neg (by simp [isTest])
              rw [found, skipped]
              refine ⟨fun same => ?_, fun fits => ?_⟩
              · have passes := List.find?_some same.symm
                rw [isTest] at passes
                cases passes
              · have impossible := fits [] first rest rfl isMore
                cases impossible
          | false =>
              have skipped : ((first :: rest).find? fun item => test item || more item) =
                  rest.find? fun item => test item || more item :=
                List.find?_cons_of_neg (by simp [isTest, isMore])
              have skippedTest : (first :: rest).find? test = rest.find? test :=
                List.find?_cons_of_neg (by simp [isTest])
              rw [skipped, skippedTest, ih]
              constructor
              · intro fits before item after split isMoreItem
                cases before with
                | nil =>
                    cases split
                    rw [isMore] at isMoreItem
                    cases isMoreItem
                | cons head tail =>
                    cases split
                    have inTail := fits tail item after rfl isMoreItem
                    simp [inTail]
              · intro fits before item after split isMoreItem
                have inAll := fits (first :: before) item after (by rw [split]; rfl) isMoreItem
                simpa [isTest] using inAll

namespace TaskClosure

/-- The selections agree exactly if the closure names an operation, or every binding with the name
`run_code` stands behind one that all of them look for. -/
theorem sameInput_iff (closure : TaskClosure) :
    closure.SameInput ↔ operationName closure.operationRef ≠ "" ∨
      ∀ before binding after, closure.nodeInputBindings = before ++ binding :: after →
        binding.nodeId = "run_code" →
        before.any (fun earlier => closure.isInputName earlier.nodeId) = true := by
  have agree : closure.SameInput ↔ closure.admissionBinding closure.dispatchedOperation =
      inputBindingFor closure closure.operationRef := by
    constructor
    · rintro ⟨selected, readiness, payload, admission, evidence⟩
      rw [admission, readiness]
    · intro admission
      exact ⟨_, rfl, rfl, admission, rfl⟩
  rw [agree, admissionBinding_eq, inputBindingFor_eq]
  by_cases named : operationName closure.operationRef = ""
  · have isRunCode : closure.dispatchedOperation = "run_code" := by
      unfold dispatchedOperation
      exact if_pos named
    have apart : ∀ binding : NodeInputBinding, decide (binding.nodeId = "run_code") = true →
        closure.isInputName binding.nodeId = false := by
      intro binding isRunCode
      have isNamed : operationName "run_code" ≠ "" := by decide
      have differs : "run_code" ≠ closure.operationRef := by
        intro same
        rw [← same] at named
        exact isNamed named
      rw [of_decide_eq_true isRunCode]
      unfold isInputName
      rw [named]
      simp [differs]
    rw [isRunCode, find?_or_eq _ apart]
    simp only [decide_eq_true_iff]
    exact ⟨Or.inr, fun fits => fits.resolve_left fun isNamed => isNamed named⟩
  · have same : closure.dispatchedOperation = operationName closure.operationRef := by
      unfold dispatchedOperation
      exact if_neg named
    have covered : ∀ binding : NodeInputBinding,
        (closure.isInputName binding.nodeId ||
          decide (binding.nodeId = closure.dispatchedOperation)) =
        closure.isInputName binding.nodeId := by
      intro binding
      rw [same]
      unfold isInputName
      cases decide (binding.nodeId = operationName closure.operationRef) <;> simp
    refine iff_of_true ?_ (Or.inl named)
    simp only [covered]

/-- A closure without an operation whose input is bound under `run_code` and, by another value,
under `default`. -/
def ambiguous : TaskClosure :=
  { nodeInputBindings :=
      [{ nodeId := "run_code"
         inputRef := { resourceId := contentPrefix ++ String.ofList (List.replicate 64 'a') } },
        { nodeId := "default"
          inputRef := { resourceId := contentPrefix ++ String.ofList (List.replicate 64 'b') } }] }

/-- Readiness checks the input under `default`, the Slave executes the one under `run_code`. -/
theorem ambiguous_input : ¬∀ closure : TaskClosure, closure.SameInput := by
  intro same
  obtain ⟨selected, readiness, payload, admission, evidence⟩ := same ambiguous
  rw [← readiness] at admission
  exact absurd admission (by decide)

end TaskClosure

end Loom
