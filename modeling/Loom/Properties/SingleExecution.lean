import Loom.Coroutine.Concurrent
import Loom.Coroutine.Obeys
import Loom.Properties.ActivationFencing

/-!
# Executions of one attempt

`SlaveService.run` looks for a result of the attempt, in memory and in the database, and records its
own one after the execution.  In between it awaits: the content of its schemas, the execution itself
and the upload of the result.  A second call of the attempt that starts in that time finds no result
either, executes again, and then inserts a second row under the same key.

Where no call of an attempt starts while another one is under way, and a restart leaves a row behind
for every result in memory, an attempt that has a result is not executed again.
-/

namespace Loom

open Coroutine

/-- The arguments of `run`. -/
structure RunArgs where
  attemptId : String
  operation : String
  payload : Dict
  closure : Option TaskClosure := none
  binding : Option ComputeBinding := none
  executionEpoch : Int := 1
  deriving Repr, DecidableEq, Inhabited

def RunArgs.prog (env : Env) (slaveId : String) (args : RunArgs) : RunOp ExecutionResult :=
  RunOp.run env slaveId args.attemptId args.operation args.payload args.closure args.binding
    args.executionEpoch

/-! ### What `run` asks for -/

namespace RunOp

/-- The execution itself. -/
def perform (env : Env) (package : CapabilityPackageVersion) (exported : CapabilityExport)
    (attemptId : String) (payload : Dict) : RunOp ExecutionResult :=
  if package.usesRuntimePlugin then invokePlugin env package exported payload attemptId
  else invokeExecutor env package payload

/-- What follows the upload of a result. -/
def record (attemptId : String) (stored : ExecutionResult) : RunOp ExecutionResult := do
  Prog.tell (.remember attemptId stored)
  .await (.storeAttempt attemptId stored) Prog.ofExcept
  .ret stored

/-- What follows the execution. -/
def conclude (env : Env) (attemptId : String) (executionEpoch : Int) (closure : Option TaskClosure)
    (exported : CapabilityExport) (result : ExecutionResult) : RunOp ExecutionResult := do
  let result ← validateTerminalResult env result attemptId executionEpoch closure (some exported)
  let content ← Prog.ofExcept (env.canonicalJsonBytes result.value)
  .await (.contentPut content "application/json") Prog.ofExcept
  record attemptId
    { result with
      resourceRef :=
        { resourceId := contentPrefix ++ env.sha256 content
          identityCriterion := some "content_digest"
          accessBinding := .obj [("media_type", .str "application/json")] } }

/-- The parts of an execution. -/
theorem execute_eq (env : Env) (attemptId operation : String) (payload : Dict)
    (closure : Option TaskClosure) (executionEpoch : Int) (package : CapabilityPackageVersion)
    (exported : CapabilityExport) :
    execute env attemptId operation payload closure executionEpoch package exported =
      (admissionPayload env payload operation closure (some exported)).bind fun payload =>
        (validateInputPayload env exported payload).bind fun _ =>
          (perform env package exported attemptId payload).bind
            (conclude env attemptId executionEpoch closure exported) := by
  unfold execute perform
  rw [Prog.bind_eq]
  congr 1
  funext payload
  rw [Prog.bind_eq]
  congr 1
  funext _
  split
  · rfl
  · rfl

end RunOp

namespace RunQuery

def isContent : RunQuery → Bool
  | .contentGet _ | .contentPut _ _ => true
  | _ => false

/-- The executor or a runtime plugin is invoked. -/
def executes : RunQuery → Bool
  | .runProgram _ _ | .invokePlugin _ _ _ _ _ => true
  | _ => false

/-- The rows of the attempts are read or written. -/
def isStored : RunQuery → Bool
  | .storedAttempt _ | .storeAttempt _ _ => true
  | _ => false

/-- Content is read or written, or a program is run. -/
def judges : RunQuery → Bool
  | .contentGet _ | .contentPut _ _ | .runProgram _ _ => true
  | _ => false

theorem judges_of_isContent {query : RunQuery} (isContent : query.isContent = true) :
    query.judges = true := by
  cases query with
  | contentGet digest => rfl
  | contentPut content mediaType => rfl
  | _ => cases isContent

theorem isStored_of_judges {query : RunQuery} (judges : query.judges = true) :
    query.isStored = false := by
  cases query with
  | storedAttempt attemptId => cases judges
  | storeAttempt attemptId result => cases judges
  | _ => rfl

theorem isStored_of_isContent {query : RunQuery} (isContent : query.isContent = true) :
    query.isStored = false := by
  cases query with
  | contentGet digest => rfl
  | contentPut content mediaType => rfl
  | _ => cases isContent

theorem executes_of_isContent {query : RunQuery} (isContent : query.isContent = true) :
    query.executes = false := by
  cases query with
  | contentGet digest => rfl
  | contentPut content mediaType => rfl
  | _ => cases isContent

end RunQuery

/-- A program that leaves the results alone and asks for content only. -/
def Consults {α : Type} (program : RunOp α) : Prop :=
  program.Keeps SlaveState.attempts fun query => query.isContent = true

section Consults

variable {env : Env}

theorem Consults.bind {α β : Type} {program : RunOp α} {rest : α → RunOp β}
    (first : Consults program) (second : ∀ value, Consults (rest value)) :
    Consults (program.bind rest) :=
  Prog.Keeps.bind first second

theorem contentGet_consults (ref : ResourceRef) : Consults (RunOp.contentGet env ref) := by
  unfold RunOp.contentGet
  cases Op.digestFromRef ref with
  | error error => trivial
  | ok digest =>
      refine ⟨rfl, fun answer => ?_⟩
      rcases answer with error | _ | content
      · trivial
      · trivial
      · dsimp only
        split
        · trivial
        · trivial

theorem contentGetExpected_consults (ref : ResourceRef) :
    Consults (RunOp.contentGetExpected env ref) := by
  refine Consults.bind (.ofExcept _) fun digest => ?_
  split
  · trivial
  · exact .bind (contentGet_consults ref) fun _ => .bind (.guard _ _) fun _ => trivial
  · exact contentGet_consults ref

theorem loadJson_consults (ref : ResourceRef) : Consults (RunOp.loadJson env ref) :=
  .bind (contentGet_consults ref) fun _ => .ofExcept _

theorem loadIoContract_consults (ref : ResourceRef) :
    Consults (RunOp.loadIoContract env ref) := by
  refine Consults.bind (contentGet_consults ref) fun raw => ?_
  cases (env.jsonLoads raw).bind env.ioContract with
  | ok contract => trivial
  | error error =>
      dsimp only
      split
      · trivial
      · trivial

theorem orMismatch_consults {α : Type} {program : RunOp α} (consults : Consults program) :
    Consults (RunOp.orMismatch program) := by
  refine Consults.bind (Prog.Keeps.attempt consults) fun outcome => ?_
  cases outcome with
  | ok value => trivial
  | error error =>
      dsimp only
      split
      · trivial
      · trivial

theorem evaluateSchema_consults (schemaRef : ResourceRef) (value : Json) :
    Consults (RunOp.evaluateSchema env schemaRef value) :=
  .bind (loadJson_consults schemaRef) fun _ => .bind (.ofExcept _) fun _ => .ofExcept _

theorem checkInput_consults (schemaRef : Option ResourceRef) (value : Json) :
    Consults (RunOp.checkInput env schemaRef value) := by
  cases schemaRef with
  | none => trivial
  | some schemaRef =>
      exact .bind (orMismatch_consults (evaluateSchema_consults schemaRef value)) fun _ =>
        .guard _ _

theorem admissionPayload_consults (payload : Dict) (operation : String)
    (closure : Option TaskClosure) (exported : Option CapabilityExport) :
    Consults (RunOp.admissionPayload env payload operation closure exported) := by
  unfold RunOp.admissionPayload
  cases closure with
  | none => trivial
  | some closure =>
      dsimp only
      split
      · trivial
      · cases closure.admissionBinding operation with
        | none => trivial
        | some binding =>
            have value : ∀ contract : Option IoContract, Consults
                ((RunOp.orMismatch (RunOp.loadJson env binding.inputRef)).bind fun value =>
                  (RunOp.checkInput env (contract.bind IoContract.inputSchemaRef) value).bind
                    fun _ => (.ret (validatorInput value).entries : RunOp Dict)) :=
              fun contract => .bind (orMismatch_consults (loadJson_consults _)) fun _ =>
                .bind (checkInput_consults _ _) fun _ => trivial
            cases contractRefFor exported (some closure) with
            | none => exact value none
            | some ref =>
                exact .bind (.bind (loadIoContract_consults ref) fun _ => trivial) value

theorem validateInputPayload_consults (exported : CapabilityExport) (payload : Dict) :
    Consults (RunOp.validateInputPayload env exported payload) :=
  .bind (loadIoContract_consults _) fun _ => checkInput_consults _ _

theorem outputErrors_consults (schemaRef : ResourceRef) (value : Json) :
    Consults (RunOp.outputErrors env schemaRef value) := by
  refine Consults.bind (Prog.Keeps.attempt (evaluateSchema_consults schemaRef value))
    fun outcome => ?_
  cases outcome with
  | ok errors => trivial
  | error error =>
      dsimp only
      split
      · trivial
      · trivial

theorem evidence_consults (subject : EvidenceSubject) (verdict : Verdict) (errors : List Json) :
    Consults (RunOp.evidence env subject verdict errors) :=
  .bind (fun _ => ⟨fun _ => rfl, trivial⟩) fun _ => .ofExcept _

theorem checkOutput_consults (contract : IoContract) (subject : EvidenceSubject) (value : Json) :
    Consults (RunOp.checkOutput env contract subject value) := by
  unfold RunOp.checkOutput
  cases contract.outputSchemaRef with
  | none => trivial
  | some schemaRef =>
      exact .bind (outputErrors_consults schemaRef value) fun _ =>
        .bind (evidence_consults _ _ _) fun _ => trivial

theorem findPackage_keeps (operation : String) (binding : Option ComputeBinding)
    (asks : RunQuery → Prop) :
    (RunOp.findPackage operation binding).Keeps SlaveState.attempts asks := by
  intro state
  split
  · dsimp only
    split
    · trivial
    · trivial
  · dsimp only
    split
    · trivial
    · trivial

end Consults

/-! ### The executions of one call -/

/-- A program is run, or a plugin is invoked, for the first time; or the success validator is run on
the result. -/
def InvokesOnce (trace : List (Exchange RunAnswer)) (query : RunQuery) : Prop :=
  query.executes = true →
    (trace.filter fun exchange => exchange.query.executes) = [] ∨
    ((trace.filter fun exchange => exchange.query.executes).length = 1 ∧
      ∃ program value, query = .runProgram program (validatorInput value))

section Once

variable {env : Env}

/-- The part of a trace that executes. -/
def executed (trace : List (Exchange RunAnswer)) : List (Exchange RunAnswer) :=
  trace.filter fun exchange => exchange.query.executes

theorem executed_concat_of_not (trace : List (Exchange RunAnswer)) {query : RunQuery}
    (silent : query.executes = false) (answer : RunAnswer query) :
    executed (trace ++ [⟨query, answer⟩]) = executed trace := by
  unfold executed
  rw [List.filter_append, List.filter_cons_of_neg (by simpa using silent), List.filter_nil,
    List.append_nil]

theorem length_executed_concat (trace : List (Exchange RunAnswer)) {query : RunQuery}
    (executes : query.executes = true) (answer : RunAnswer query) :
    (executed (trace ++ [⟨query, answer⟩])).length = (executed trace).length + 1 := by
  unfold executed
  rw [List.filter_append, List.filter_cons_of_pos (by simpa using executes), List.filter_nil,
    List.length_append, List.length_singleton]

/-- A program that executes nothing. -/
theorem obeys_of_keeps {α : Type} {program : RunOp α}
    (keeps : program.Keeps SlaveState.attempts fun query => query.executes = false)
    {trace : List (Exchange RunAnswer)}
    {post : List (Exchange RunAnswer) → Except Exc α → Prop}
    (holds : ∀ after result, executed after = executed trace → post after result) :
    program.Obeys InvokesOnce trace post := by
  induction program generalizing trace with
  | ret value => exact holds _ _ rfl
  | raise error => exact holds _ _ rfl
  | read next ih => exact fun state => ih state (keeps state) holds
  | write update next ih => exact ih keeps.2 holds
  | await query next ih =>
      refine ⟨fun executes => ?_, fun answer => ih answer (keeps.2 answer) fun after result same =>
        holds after result (same.trans (executed_concat_of_not trace keeps.1 answer))⟩
      rw [keeps.1] at executes
      cases executes

theorem Consults.obeys {α : Type} {program : RunOp α} (consults : Consults program)
    {trace : List (Exchange RunAnswer)}
    {post : List (Exchange RunAnswer) → Except Exc α → Prop}
    (holds : ∀ after result, executed after = executed trace → post after result) :
    program.Obeys InvokesOnce trace post :=
  obeys_of_keeps (Prog.Keeps.mono consults fun _ => RunQuery.executes_of_isContent) holds

/-- One execution. -/
theorem await_obeys {α : Type} {query : RunQuery} {next : RunAnswer query → RunOp α}
    {trace : List (Exchange RunAnswer)} {post : List (Exchange RunAnswer) → Except Exc α → Prop}
    (executes : query.executes = true) (none : executed trace = [])
    (rest : ∀ answer after, (executed after).length = 1 →
      (next answer).Obeys InvokesOnce after post) :
    (Prog.await query next : RunOp α).Obeys InvokesOnce trace post := by
  refine ⟨fun _ => Or.inl none, fun answer => rest answer _ ?_⟩
  rw [length_executed_concat trace executes, none, List.length_nil]

theorem invokeExecutor_obeys (package : CapabilityPackageVersion) (payload : Dict)
    {trace : List (Exchange RunAnswer)} (none : executed trace = []) :
    (RunOp.invokeExecutor env package payload).Obeys InvokesOnce trace fun after result =>
      ∀ value, result = .ok value → (executed after).length = 1 := by
  unfold RunOp.invokeExecutor
  have failed : ∀ (after : List (Exchange RunAnswer)) (error : Exc),
      ∀ value, (.error error : Except Exc ExecutionResult) = .ok value →
        (executed after).length = 1 := fun _ _ _ impossible => by cases impossible
  dsimp only
  cases packageBodyRef env package "program_content_ref" with
  | error error => exact failed _ _
  | ok programRef =>
      change Prog.Obeys InvokesOnce ((RunOp.contentGetExpected env programRef).bind _) trace _
      refine Prog.Obeys.bind (Consults.obeys (contentGetExpected_consults programRef)
        fun after result same => ?_)
      cases result with
      | error error => exact failed _ _
      | ok program =>
          refine Prog.Obeys.bind (.guard (fun _ => ?_) fun _ => failed _ _)
          refine Prog.Obeys.bind (await_obeys rfl (same.trans none) fun answer later once => ?_)
          refine .ofExcept ?_
          cases answer with
          | error error => exact failed _ _
          | ok value =>
              refine Prog.Obeys.bind (.ofExcept ?_)
              cases executorResult env value with
              | error error => exact failed _ _
              | ok result => exact fun _ _ => once

theorem invokePlugin_obeys (package : CapabilityPackageVersion) (exported : CapabilityExport)
    (payload : Dict) (attemptId : String) {trace : List (Exchange RunAnswer)}
    (none : executed trace = []) :
    (RunOp.invokePlugin env package exported payload attemptId).Obeys InvokesOnce trace
      fun after result => ∀ value, result = .ok value → (executed after).length = 1 := by
  have failed : ∀ (after : List (Exchange RunAnswer)) (error : Exc),
      ∀ value, (.error error : Except Exc ExecutionResult) = .ok value →
        (executed after).length = 1 := fun _ _ _ impossible => by cases impossible
  intro state
  dsimp only
  split
  · exact failed _ _
  · split
    · exact failed _ _
    · refine await_obeys rfl none fun answer later once => ?_
      cases answer with
      | error error =>
          dsimp only
          split
          · exact failed _ _
          · exact failed _ _
      | ok response =>
          refine .ofExcept ?_
          cases pluginResult env package exported response with
          | error error => exact failed _ _
          | ok result => exact fun _ _ => once

theorem perform_obeys (package : CapabilityPackageVersion) (exported : CapabilityExport)
    (attemptId : String) (payload : Dict) {trace : List (Exchange RunAnswer)}
    (none : executed trace = []) :
    (RunOp.perform env package exported attemptId payload).Obeys InvokesOnce trace
      fun after result => ∀ value, result = .ok value → (executed after).length = 1 := by
  unfold RunOp.perform
  split
  · exact invokePlugin_obeys package exported payload attemptId none
  · exact invokeExecutor_obeys package payload none

theorem checkValidator_obeys {contract : IoContract} {subject : EvidenceSubject} {value : Json}
    {trace : List (Exchange RunAnswer)} (once : (executed trace).length = 1)
    {post : List (Exchange RunAnswer) → Except Exc (Option (ValidationEvidence × Json)) → Prop}
    (holds : ∀ after result, post after result) :
    (RunOp.checkValidator env contract subject value).Obeys InvokesOnce trace post := by
  unfold RunOp.checkValidator
  cases contract.successValidatorRef with
  | none => exact holds _ _
  | some validatorRef =>
      have verdict : ∀ answer (trace : List (Exchange RunAnswer)),
          ((RunOp.evidence env subject (pluginVerdict answer) (pluginErrors answer)).bind
            fun item => (.ret (some (item, answer)) : RunOp _)).Obeys InvokesOnce trace post :=
        fun answer trace => by
          refine Prog.Obeys.bind (Consults.obeys (evidence_consults _ _ _)
            fun after item _ => ?_)
          cases item with
          | error error => exact holds _ _
          | ok item => exact holds _ _
      refine Prog.Obeys.bind (Prog.Obeys.bind (Consults.obeys (contentGet_consults validatorRef)
        fun after result same => ?_))
      cases result with
      | error error => exact holds _ _
      | ok program =>
          refine Prog.Obeys.bind (.guard (fun _ => ?_) fun _ => holds _ _)
          refine ⟨fun _ => Or.inr ⟨?_, program, value, rfl⟩, fun answer => .ofExcept ?_⟩
          · rw [← once]
            exact congrArg List.length same
          · cases answer with
            | error error => exact holds _ _
            | ok answer => exact verdict answer _

theorem validateTerminalResult_obeys {result : ExecutionResult} {attemptId : String}
    {executionEpoch : Int} {closure : Option TaskClosure} {exported : Option CapabilityExport}
    {trace : List (Exchange RunAnswer)} (once : (executed trace).length = 1)
    {post : List (Exchange RunAnswer) → Except Exc ExecutionResult → Prop}
    (holds : ∀ after result, post after result) :
    (RunOp.validateTerminalResult env result attemptId executionEpoch closure exported).Obeys
      InvokesOnce trace post := by
  unfold RunOp.validateTerminalResult
  cases contractRefFor exported closure with
  | none => exact holds _ _
  | some contractRef =>
      refine Prog.Obeys.bind (Consults.obeys (loadIoContract_consults contractRef)
        fun after outcome same => ?_)
      cases outcome with
      | error error => exact holds _ _
      | ok contract =>
          refine Prog.Obeys.bind (Consults.obeys (checkOutput_consults _ _ _)
            fun later checked same' => ?_)
          have still : (executed later).length = 1 := by rw [same', same, once]
          cases checked with
          | error error => exact holds _ _
          | ok checked =>
              dsimp only
              split
              · exact holds _ _
              · refine Prog.Obeys.bind (checkValidator_obeys still fun last answer => ?_)
                cases answer with
                | error error => exact holds _ _
                | ok answer => exact holds _ _

theorem conclude_obeys {attemptId : String} {closure : Option TaskClosure} {executionEpoch : Int}
    {exported : CapabilityExport} {result : ExecutionResult} {trace : List (Exchange RunAnswer)}
    (once : (executed trace).length = 1) :
    (RunOp.conclude env attemptId executionEpoch closure exported result).Obeys InvokesOnce trace
      fun _ _ => True := by
  refine Prog.Obeys.bind (validateTerminalResult_obeys once fun further verdict => ?_)
  cases verdict with
  | error error => trivial
  | ok result =>
      refine Prog.Obeys.bind (.ofExcept ?_)
      cases env.canonicalJsonBytes result.value with
      | error error => trivial
      | ok content =>
          refine ⟨(fun impossible => by cases impossible), fun answer => Prog.Obeys.bind ?_⟩
          refine .ofExcept ?_
          cases answer with
          | error error => trivial
          | ok put =>
              refine ⟨(fun impossible => by cases impossible), fun answer => Prog.Obeys.bind ?_⟩
              refine .ofExcept ?_
              cases answer with
              | error error => trivial
              | ok recorded => trivial

theorem execute_obeys {attemptId operation : String} {payload : Dict}
    {closure : Option TaskClosure} {executionEpoch : Int} (package : CapabilityPackageVersion)
    (exported : CapabilityExport) {trace : List (Exchange RunAnswer)} (none : executed trace = []) :
    (RunOp.execute env attemptId operation payload closure executionEpoch package
      exported).Obeys InvokesOnce trace fun _ _ => True := by
  rw [RunOp.execute_eq]
  refine Prog.Obeys.bind (Consults.obeys (admissionPayload_consults _ _ _ _)
    fun after admitted same => ?_)
  cases admitted with
  | error error => trivial
  | ok payload =>
      refine Prog.Obeys.bind (Consults.obeys (validateInputPayload_consults _ _)
        fun later checked same' => ?_)
      have still : executed later = [] := by rw [same', same, none]
      cases checked with
      | error error => trivial
      | ok checked =>
          refine Prog.Obeys.bind (Prog.Obeys.mono (perform_obeys package exported attemptId payload
            still) fun last result once => ?_)
          cases result with
          | error error => trivial
          | ok result => exact conclude_obeys (once result rfl)

/-- A call invokes the executor or a plugin at most once for its operation. -/
theorem run_invokesOnce (slaveId : String) (args : RunArgs) :
    (args.prog env slaveId).Obeys InvokesOnce [] fun _ _ => True := by
  intro state
  change Prog.Obeys InvokesOnce ((Prog.guard _ _).bind _) [] _
  refine Prog.Obeys.bind (.guard (fun _ => ?_) fun _ => trivial)
  refine Prog.Obeys.bind (Consults.obeys (findPackage_keeps _ _ _) fun found cached same => ?_)
  cases cached with
  | error error => trivial
  | ok cached =>
      refine Prog.Obeys.bind (.ofExcept ?_)
      cases admitClosure slaveId args.operation args.closure args.binding with
      | error error => trivial
      | ok admitted =>
          cases cached with
          | none => trivial
          | some package =>
              refine Prog.Obeys.bind (.ofExcept ?_)
              cases RunOp.revalidate env package with
              | error error => trivial
              | ok package =>
                  refine Prog.Obeys.bind (.ofExcept ?_)
                  cases selectedExport package args.binding with
                  | error error => trivial
                  | ok exported =>
                      dsimp only
                      cases state.attempts.lookup args.attemptId with
                      | some result => trivial
                      | none =>
                          refine ⟨(fun impossible => by cases impossible), fun answer => ?_⟩
                          have none : executed
                              (found ++ [⟨.storedAttempt args.attemptId, answer⟩]) = [] := by
                            rw [executed_concat_of_not found rfl answer, same]
                            rfl
                          cases answer with
                          | error error => trivial
                          | ok stored =>
                              cases stored with
                              | some result => trivial
                              | none => exact execute_obeys package exported none

end Once

/-! ### The parts of a call that record nothing -/

/-- A program that leaves the results alone, in memory and in the database. -/
def Leaves {α : Type} (program : RunOp α) : Prop :=
  program.Keeps SlaveState.attempts fun query => query.isStored = false

section Leaves

variable {env : Env}

theorem Consults.leaves {α : Type} {program : RunOp α} (consults : Consults program) :
    Leaves program :=
  Prog.Keeps.mono consults fun _ => RunQuery.isStored_of_isContent

theorem Leaves.bind {α β : Type} {program : RunOp α} {rest : α → RunOp β}
    (first : Leaves program) (second : ∀ value, Leaves (rest value)) :
    Leaves (program.bind rest) :=
  Prog.Keeps.bind first second

theorem perform_leaves (package : CapabilityPackageVersion) (exported : CapabilityExport)
    (attemptId : String) (payload : Dict) :
    Leaves (RunOp.perform env package exported attemptId payload) := by
  unfold RunOp.perform
  split
  · intro state
    dsimp only
    split
    · trivial
    · split
      · trivial
      · refine ⟨rfl, fun answer => ?_⟩
        cases answer with
        | error error =>
            dsimp only
            split
            · trivial
            · trivial
        | ok response => exact .ofExcept _
  · unfold RunOp.invokeExecutor
    dsimp only
    cases packageBodyRef env package "program_content_ref" with
    | error error => trivial
    | ok programRef =>
        change Leaves ((RunOp.contentGetExpected env programRef).bind _)
        refine Leaves.bind (contentGetExpected_consults programRef).leaves fun program => ?_
        refine Leaves.bind (.guard _ _) fun _ => ?_
        refine Leaves.bind ⟨rfl, fun answer => .ofExcept _⟩ fun value => ?_
        exact Leaves.bind (.ofExcept _) fun result => trivial

/-- The validation of a result reads content and runs the success validator. -/
theorem validateTerminalResult_judges (result : ExecutionResult) (attemptId : String)
    (executionEpoch : Int) (closure : Option TaskClosure) (exported : Option CapabilityExport) :
    (RunOp.validateTerminalResult env result attemptId executionEpoch closure exported).Keeps
      SlaveState.attempts fun query => query.judges = true := by
  have content {α : Type} {program : RunOp α} (consults : Consults program) :
      program.Keeps SlaveState.attempts fun query => query.judges = true :=
    Prog.Keeps.mono consults fun _ => RunQuery.judges_of_isContent
  unfold RunOp.validateTerminalResult
  cases contractRefFor exported closure with
  | none => trivial
  | some contractRef =>
      refine Prog.Keeps.bind (content (loadIoContract_consults contractRef)) fun contract => ?_
      refine Prog.Keeps.bind (content (checkOutput_consults _ _ _)) fun checked => ?_
      split
      · trivial
      · refine Prog.Keeps.bind ?_ fun answer => trivial
        unfold RunOp.checkValidator
        cases contract.successValidatorRef with
        | none => trivial
        | some validatorRef =>
            refine Prog.Keeps.bind (Prog.Keeps.bind (content (contentGet_consults validatorRef))
              fun program => ?_) fun answer => ?_
            · exact Prog.Keeps.bind (.guard _ _) fun _ => ⟨rfl, fun answer => .ofExcept _⟩
            · exact Prog.Keeps.bind (content (evidence_consults _ _ _)) fun item => trivial

theorem validateTerminalResult_leaves (result : ExecutionResult) (attemptId : String)
    (executionEpoch : Int) (closure : Option TaskClosure) (exported : Option CapabilityExport) :
    Leaves (RunOp.validateTerminalResult env result attemptId executionEpoch closure exported) :=
  Prog.Keeps.mono (validateTerminalResult_judges result attemptId executionEpoch closure exported)
    fun _ => RunQuery.isStored_of_judges

end Leaves

/-! ### Calls at the same time -/

/-- The rows of the attempts, where there is a database. -/
structure AttemptTable where
  hasDatabase : Bool := true
  rows : List (String × ExecutionResult) := []
  deriving Repr, DecidableEq, Inhabited

namespace AttemptTable

def row (table : AttemptTable) (attemptId : String) : Option ExecutionResult :=
  if table.hasDatabase then table.rows.lookup attemptId else none

def insert (table : AttemptTable) (attemptId : String) (result : ExecutionResult) : AttemptTable :=
  { table with rows := (attemptId, result) :: table.rows }

/-- How the database answers.  A row is inserted without a check: where the key is taken, that
fails.  A commit may fail in the database or on the way back. -/
def Serves (table : AttemptTable) :
    (query : RunQuery) → RunAnswer query → AttemptTable → Prop
  | .storedAttempt attemptId, answer, after => after = table ∧
      (answer = .ok (table.row attemptId) ∨
        (table.hasDatabase = true ∧ ∃ error, answer = .error error))
  | .storeAttempt attemptId result, answer, after =>
      if table.hasDatabase = false then answer = .ok () ∧ after = table
      else if table.row attemptId ≠ none then after = table ∧ ∃ error, answer = .error error
      else (answer = .ok () ∧ after = table.insert attemptId result) ∨
        ∃ error, answer = .error error ∧
          (after = table ∨ after = table.insert attemptId result)
  | _, _, after => after = table

theorem row_insert (table : AttemptTable) (attemptId other : String) (result : ExecutionResult) :
    (table.insert attemptId result).row other =
      if table.hasDatabase = true ∧ other = attemptId then some result else table.row other := by
  unfold insert row
  dsimp only
  cases table.hasDatabase with
  | false => rfl
  | true =>
      by_cases same : other = attemptId
      · subst same
        simp
      · have apart : (other == attemptId) = false := by simpa using same
        rw [if_pos rfl, if_pos rfl, List.lookup_cons, apart, if_neg fun both => same both.2]

theorem Serves.same {table after : AttemptTable} {query : RunQuery} {answer : RunAnswer query}
    (serves : table.Serves query answer after) (notStored : query.isStored = false) :
    after = table := by
  cases query with
  | storedAttempt attemptId => cases notStored
  | storeAttempt attemptId result => cases notStored
  | contentGet digest => exact serves
  | contentPut content mediaType => exact serves
  | runProgram program payload => exact serves
  | invokePlugin package exported payload activation attemptId => exact serves

end AttemptTable

/-- A Slave with its database. -/
abbrev AttemptPoint := SlaveState × AttemptTable

abbrev AttemptOpening := Opening SlaveState AttemptTable RunAnswer

abbrev AttemptStop := Stop Exc RunQuery ExecutionResult

abbrev AttemptBeat := Beat SlaveState Exc RunAnswer ExecutionResult RunArgs AttemptTable

/-- Calls of `run` on one Slave, where calls may overlap as `overlap` says and the Slave may restart
as `restarts` says.  Everything else that a Slave does leaves the results alone. -/
def attemptSetting (env : Env) (slaveId : String) (overlap : RunArgs → RunArgs → Prop)
    (restarts : AttemptPoint → AttemptPoint → Prop) :
    Setting SlaveState Exc RunWrite RunAnswer ExecutionResult RunArgs AttemptTable where
  code args := args.prog env slaveId
  overlap := overlap
  moves _ _ _ _ := False
  answers _ query table answer after := table.Serves query answer after
  drifts before after := after.1.attempts = before.1.attempts ∧ after.2 = before.2
  restarts := restarts

/-- A restart: the results in memory are lost. -/
def Restarts (before after : AttemptPoint) : Prop :=
  after.1.attempts = [] ∧ after.2 = before.2

/-- A restart of a Slave that has a row for every result in memory. -/
def RestartsBacked (before after : AttemptPoint) : Prop :=
  Restarts before after ∧ ∀ attemptId result,
    before.1.attempts.lookup attemptId = some result → before.2.row attemptId ≠ none

/-- The calls are of different attempts. -/
def RunArgs.Apart (first second : RunArgs) : Prop := first.attemptId ≠ second.attemptId

/-- The attempt has no result. -/
def Fresh (attemptId : String) (point : AttemptPoint) : Prop :=
  point.1.attempts.lookup attemptId = none ∧ point.2.row attemptId = none

/-- The results in memory are those in the database. -/
def Agrees (point : AttemptPoint) : Prop :=
  ∀ attemptId result stored, point.1.attempts.lookup attemptId = some result →
    point.2.row attemptId = some stored → result = stored

/-- What a beat of a call does to the results. -/
structure AttemptKept (args : RunArgs) (opening : AttemptOpening) (now : AttemptPoint)
    (stop : AttemptStop) : Prop where
  agrees : Agrees opening.before → Agrees now
  others : ∀ other, other ≠ args.attemptId →
    now.1.attempts.lookup other = opening.before.1.attempts.lookup other ∧
      now.2.row other = opening.before.2.row other
  kept : ∀ result, opening.before.1.attempts.lookup args.attemptId = some result →
    now.1.attempts.lookup args.attemptId = some result
  keptRow : ∀ result, opening.before.2.row args.attemptId = some result →
    now.2.row args.attemptId = some result
  returns : ∀ result, stop = .returns result →
    now.1.attempts.lookup args.attemptId = some result
  executes : ∀ query, stop = .awaits query → query.executes = true → Fresh args.attemptId now
  inserts : ∀ attemptId result answer,
    opening.answered = some ⟨.storeAttempt attemptId result, answer⟩ →
      opening.before.2.row attemptId = none

/-- A beat that has left the results alone so far. -/
structure Untouched (opening : AttemptOpening) (now : AttemptPoint) : Prop where
  attempts : now.1.attempts = opening.before.1.attempts
  table : now.2 = opening.before.2
  answered : ∀ attemptId result answer,
    opening.answered ≠ some ⟨.storeAttempt attemptId result, answer⟩

section Secure

variable {env : Env} {args : RunArgs} {opening : AttemptOpening} {now : AttemptPoint}
  {stop : AttemptStop}

theorem Untouched.keeps (untouched : Untouched opening now)
    (returns : ∀ result, stop = .returns result →
      now.1.attempts.lookup args.attemptId = some result)
    (executes : ∀ query, stop = .awaits query → query.executes = true →
      Fresh args.attemptId now) : AttemptKept args opening now stop := by
  obtain ⟨attempts, table, answered⟩ := untouched
  refine ⟨fun agrees => ?_, fun other _ => ?_, fun result isResult => ?_, fun result isRow => ?_,
    returns, executes, fun attemptId result answer isAnswer => ?_⟩
  · unfold Agrees at agrees ⊢
    rwa [attempts, table]
  · rw [attempts, table]
    exact ⟨rfl, rfl⟩
  · rwa [attempts]
  · rwa [table]
  · exact absurd isAnswer (answered attemptId result answer)

theorem Untouched.raises (untouched : Untouched opening now) (error : Exc) :
    AttemptKept args opening now (.raises error) :=
  untouched.keeps (fun _ impossible => by cases impossible) fun _ impossible => by cases impossible

theorem Untouched.awaits (untouched : Untouched opening now) (fresh : Fresh args.attemptId now)
    (query : RunQuery) : AttemptKept args opening now (.awaits query) :=
  untouched.keeps (fun _ impossible => by cases impossible) fun _ _ _ => fresh

/-- Between two beats of a call nobody else touches the result of its attempt. -/
def Undisturbed (args : RunArgs) (now later : AttemptPoint) : Prop :=
  later.1.attempts.lookup args.attemptId = now.1.attempts.lookup args.attemptId ∧
    later.2.row args.attemptId = now.2.row args.attemptId

theorem Fresh.later {later : AttemptPoint} (fresh : Fresh args.attemptId now)
    (undisturbed : Undisturbed args now later) : Fresh args.attemptId later :=
  ⟨undisturbed.1.trans fresh.1, undisturbed.2.trans fresh.2⟩

/-- A program of a call is secure. -/
abbrev SecureIn {α : Type} (args : RunArgs) (program : RunOp α) (opening : AttemptOpening)
    (now : AttemptPoint) (post : AttemptOpening → AttemptPoint → Except Exc α → Prop) : Prop :=
  program.Secure (fun query table answer after => table.Serves query answer after)
    (fun now later => Agrees later ∧ Undisturbed args now later)
    (fun opening now query => AttemptKept args opening now (.awaits query)) opening now post

theorem Leaves.secure {α : Type} {program : RunOp α} (leaves : Leaves program)
    {post : AttemptOpening → AttemptPoint → Except Exc α → Prop} (untouched : Untouched opening now)
    (fresh : Fresh args.attemptId now)
    (holds : ∀ opening now result, Untouched opening now → Fresh args.attemptId now →
      post opening now result) :
    SecureIn args program opening now post := by
  induction program generalizing opening now with
  | ret value => exact holds _ _ _ untouched fresh
  | raise error => exact holds _ _ _ untouched fresh
  | read next ih => exact ih _ (leaves now.1) untouched fresh
  | write update next ih =>
      have same := leaves.1 now.1
      refine ih leaves.2 ⟨same.trans untouched.attempts, untouched.table, untouched.answered⟩
        ⟨?_, fresh.2⟩
      rw [same]
      exact fresh.1
  | await query next ih =>
      refine ⟨untouched.awaits fresh query, fun later relied answer after serves => ?_⟩
      have same := serves.same leaves.1
      refine ih answer (leaves.2 answer) ⟨rfl, same, ?_⟩ ?_
      · intro attemptId result answer' isAnswer
        cases isAnswer
        cases leaves.1
      · rw [same]
        exact fresh.later relied.2

/-- A program that reads the state only. -/
theorem quiet_secure {α : Type} {program : RunOp α}
    (quiet : program.Keeps SlaveState.attempts fun _ => False)
    {post : AttemptOpening → AttemptPoint → Except Exc α → Prop} (untouched : Untouched opening now)
    (holds : ∀ later result, later.1.attempts = now.1.attempts → later.2 = now.2 →
      post opening later result) :
    SecureIn args program opening now post := by
  induction program generalizing now with
  | ret value => exact holds _ _ rfl rfl
  | raise error => exact holds _ _ rfl rfl
  | read next ih => exact ih _ (quiet now.1) untouched holds
  | write update next ih =>
      have same := quiet.1 now.1
      exact ih quiet.2 ⟨same.trans untouched.attempts, untouched.table, untouched.answered⟩
        fun later result attempts table => holds later result (attempts.trans same) table
  | await query next ih => exact quiet.1.elim

theorem lookup_remember (state : SlaveState) (attemptId other : String)
    (result : ExecutionResult) :
    (apply (RunWrite.remember attemptId result) state).attempts.lookup other =
      if other = attemptId then some result else state.attempts.lookup other := by
  change List.lookup other ((attemptId, result) :: state.attempts) = _
  by_cases same : other = attemptId
  · subst same
    rw [List.lookup_cons_self, if_pos rfl]
  · have apart : (other == attemptId) = false := by simpa using same
    rw [List.lookup_cons, apart, if_neg same]

/-- The last beats of an attempt, from a point where it has no result. -/
theorem record_secure {stored : ExecutionResult} (untouched : Untouched opening now)
    (fresh : Fresh args.attemptId now) :
    SecureIn args (RunOp.record args.attemptId stored) opening now
      fun opening now result => AttemptKept args opening now (.ofResult result) := by
  have remembered := fun other => lookup_remember now.1 args.attemptId other stored
  have isNew : opening.before.1.attempts.lookup args.attemptId = none := by
    rw [← untouched.attempts]
    exact fresh.1
  have noRow : opening.before.2.row args.attemptId = none := by
    rw [← untouched.table]
    exact fresh.2
  constructor
  · refine ⟨fun agrees => ?_, fun other apart => ?_, fun result isResult => ?_,
      fun result isRow => ?_, (fun _ impossible => by cases impossible),
      fun query same executes => ?_, fun attemptId result answer isAnswer => ?_⟩
    · intro other result row isResult isRow
      rw [remembered] at isResult
      by_cases same : other = args.attemptId
      · subst same
        cases fresh.2.symm.trans isRow
      · rw [if_neg same, untouched.attempts] at isResult
        exact agrees other result row isResult (untouched.table ▸ isRow)
    · refine ⟨?_, congrArg (fun table => AttemptTable.row table other) untouched.table⟩
      rw [remembered, if_neg apart, untouched.attempts]
    · cases isNew.symm.trans isResult
    · cases noRow.symm.trans isRow
    · cases same
      cases executes
    · exact absurd isAnswer (untouched.answered attemptId result answer)
  · intro later relied answer after serves
    have isStored : later.1.attempts.lookup args.attemptId = some stored := by
      rw [relied.2.1, remembered, if_pos rfl]
    have stillNone : later.2.row args.attemptId = none := relied.2.2.trans fresh.2
    have rows : (after = later.2 ∨ after = later.2.insert args.attemptId stored) := by
      unfold AttemptTable.Serves at serves
      dsimp only at serves
      split at serves
      · exact Or.inl serves.2
      · split at serves
        · exact Or.inl serves.1
        · rcases serves with ⟨-, inserted⟩ | ⟨error, -, either⟩
          · exact Or.inr inserted
          · exact either
    have inserted : ∀ other, after.row other = later.2.row other ∨
        (other = args.attemptId ∧ after.row other = some stored) := by
      intro other
      rcases rows with same | same
      · exact Or.inl (by rw [same])
      · rw [same, AttemptTable.row_insert]
        split
        · rename_i both
          exact Or.inr ⟨both.2, rfl⟩
        · exact Or.inl rfl
    have last : ∀ stop : AttemptStop, (∀ result, stop = .returns result → result = stored) →
        (∀ query, stop ≠ .awaits query) →
        AttemptKept args ⟨some ⟨.storeAttempt args.attemptId stored, answer⟩, later⟩
          (later.1, after) stop := by
      intro stop returns stops
      refine ⟨fun agrees => ?_, fun other apart => ⟨rfl, ?_⟩, fun result isResult => isResult,
        fun result isRow => ?_, fun result same => ?_, fun query same => absurd same (stops query),
        fun attemptId result answer' isAnswer => ?_⟩
      · intro other result row isResult isRow
        rcases inserted other with same | ⟨rfl, same⟩
        · exact agrees other result row isResult (same ▸ isRow)
        · cases isStored.symm.trans isResult
          cases same.symm.trans isRow
          rfl
      · rcases inserted other with same | ⟨same, -⟩
        · exact same
        · exact absurd same apart
      · cases stillNone.symm.trans isRow
      · rw [returns result same]
        exact isStored
      · cases isAnswer
        exact stillNone
    refine Prog.Secure.bind (.ofExcept ?_)
    cases answer with
    | error error =>
        exact last (.raises error) (fun _ impossible => by cases impossible)
          fun _ impossible => by cases impossible
    | ok recorded =>
        exact last (.returns stored) (fun result same => by cases same; rfl)
          fun _ impossible => by cases impossible

/-- A program that leaves the results alone, and what follows it. -/
theorem leaves_then {α : Type} {program : RunOp α} {rest : α → RunOp ExecutionResult}
    (leaves : Leaves program) (untouched : Untouched opening now)
    (fresh : Fresh args.attemptId now)
    (next : ∀ value opening now, Untouched opening now → Fresh args.attemptId now →
      SecureIn args (rest value) opening now
        fun opening now result => AttemptKept args opening now (.ofResult result)) :
    SecureIn args (program.bind rest) opening now
      fun opening now result => AttemptKept args opening now (.ofResult result) := by
  refine Prog.Secure.bind (leaves.secure untouched fresh
    fun opening now result untouched fresh => ?_)
  cases result with
  | ok value => exact next value opening now untouched fresh
  | error error => exact untouched.raises error

theorem execute_secure (package : CapabilityPackageVersion) (exported : CapabilityExport)
    (untouched : Untouched opening now) (fresh : Fresh args.attemptId now) :
    SecureIn args (RunOp.execute env args.attemptId args.operation args.payload args.closure
      args.executionEpoch package exported) opening now
        fun opening now result => AttemptKept args opening now (.ofResult result) := by
  rw [RunOp.execute_eq]
  refine leaves_then (admissionPayload_consults _ _ _ _).leaves untouched fresh ?_
  intro payload opening now untouched fresh
  refine leaves_then (validateInputPayload_consults _ _).leaves untouched fresh ?_
  intro _ opening now untouched fresh
  refine leaves_then (perform_leaves package exported args.attemptId payload) untouched fresh ?_
  intro result opening now untouched fresh
  refine leaves_then (validateTerminalResult_leaves _ _ _ _ _) untouched fresh ?_
  intro result opening now untouched fresh
  refine leaves_then (Prog.Keeps.ofExcept _) untouched fresh ?_
  intro content opening now untouched fresh
  refine leaves_then ⟨rfl, fun answer => .ofExcept _⟩ untouched fresh ?_
  intro _ opening now untouched fresh
  exact record_secure untouched fresh

/-- A call that finds a row takes its result over. -/
theorem replay_secure {found : ExecutionResult} {later : AttemptPoint}
    {answer : RunAnswer (.storedAttempt args.attemptId)}
    (unknown : later.1.attempts.lookup args.attemptId = none)
    (isRow : later.2.row args.attemptId = some found) :
    AttemptKept args ⟨some ⟨.storedAttempt args.attemptId, answer⟩, later⟩
      (apply (RunWrite.remember args.attemptId found) later.1, later.2) (.returns found) := by
  have remembered := fun other => lookup_remember later.1 args.attemptId other found
  refine ⟨fun agrees => ?_, fun other apart => ⟨?_, rfl⟩, fun result isResult => ?_,
    fun result isRow => isRow, fun result same => ?_, (fun _ impossible => by cases impossible),
    fun _ _ _ impossible => by cases impossible⟩
  · intro other result row isResult isRow'
    rw [remembered] at isResult
    by_cases same : other = args.attemptId
    · subst same
      rw [if_pos rfl] at isResult
      cases isResult
      exact Option.some.inj (isRow.symm.trans isRow')
    · rw [if_neg same] at isResult
      exact agrees other result row isResult isRow'
  · rw [remembered, if_neg apart]
  · cases unknown.symm.trans isResult
  · cases same
    rw [remembered, if_pos rfl]

/-- A call whose attempt has no result in memory. -/
theorem lookup_secure (package : CapabilityPackageVersion) (exported : CapabilityExport)
    (untouched : Untouched opening now) (unknown : now.1.attempts.lookup args.attemptId = none) :
    SecureIn args
      ((Prog.await (.storedAttempt args.attemptId) Prog.ofExcept : RunOp _).bind fun
        | some result => (Prog.tell (.remember args.attemptId result)).bind fun _ => .ret result
        | none => RunOp.execute env args.attemptId args.operation args.payload args.closure
            args.executionEpoch package exported) opening now
      fun opening now result => AttemptKept args opening now (.ofResult result) := by
  refine ⟨untouched.keeps (fun _ impossible => by cases impossible) fun query same executes => ?_,
    fun later relied answer after serves => Prog.Secure.bind (.ofExcept ?_)⟩
  · cases same
    cases executes
  · obtain ⟨rfl, answered⟩ := serves
    have stillUnknown := relied.2.1.trans unknown
    have resumed : Untouched ⟨some ⟨.storedAttempt args.attemptId, answer⟩, later⟩ later :=
      ⟨rfl, rfl, fun _ _ _ impossible => by cases impossible⟩
    cases answer with
    | error error => exact resumed.raises error
    | ok found =>
        have isRow : later.2.row args.attemptId = found := by
          rcases answered with same | ⟨-, error, impossible⟩
          · exact (Except.ok.inj same).symm
          · cases impossible
        cases found with
        | some result => exact replay_secure stillUnknown isRow
        | none => exact execute_secure package exported resumed ⟨stillUnknown, isRow⟩

theorem run_secure (slaveId : String) (point : AttemptPoint) :
    SecureIn args (args.prog env slaveId) ⟨none, point⟩ point
      fun opening now result => AttemptKept args opening now (.ofResult result) := by
  have start : Untouched ⟨none, point⟩ point :=
    ⟨rfl, rfl, fun _ _ _ impossible => by cases impossible⟩
  change SecureIn args ((Prog.guard _ _).bind _) ⟨none, point⟩ point _
  refine Prog.Secure.bind (.guard (fun _ => ?_) fun _ => start.raises _)
  refine Prog.Secure.bind (quiet_secure (findPackage_keeps _ _ _) start
    fun now cached attempts table => ?_)
  have untouched : Untouched ⟨none, point⟩ now :=
    ⟨attempts, table, fun _ _ _ impossible => by cases impossible⟩
  cases cached with
  | error error => exact untouched.raises error
  | ok cached =>
      refine Prog.Secure.bind (.ofExcept ?_)
      cases admitClosure slaveId args.operation args.closure args.binding with
      | error error => exact untouched.raises error
      | ok admitted =>
          cases cached with
          | none => exact untouched.raises _
          | some package =>
              refine Prog.Secure.bind (.ofExcept ?_)
              cases RunOp.revalidate env package with
              | error error => exact untouched.raises error
              | ok package =>
                  refine Prog.Secure.bind (.ofExcept ?_)
                  cases selectedExport package args.binding with
                  | error error => exact untouched.raises error
                  | ok exported =>
                      dsimp only
                      cases isKnown : point.1.attempts.lookup args.attemptId with
                      | some result =>
                          refine untouched.keeps (fun value same => ?_)
                            fun _ impossible => by cases impossible
                          cases same
                          rw [attempts]
                          exact isKnown
                      | none =>
                          exact lookup_secure package exported untouched (by rw [attempts, isKnown])

end Secure

/-! ### Runs -/

/-- Calls of one attempt do not overlap, and the Slave restarts only where every result in memory
has a row. -/
abbrev orderly (env : Env) (slaveId : String) :
    Setting SlaveState Exc RunWrite RunAnswer ExecutionResult RunArgs AttemptTable :=
  attemptSetting env slaveId RunArgs.Apart RestartsBacked

/-- What the calls of different attempts guarantee to each other. -/
def attemptContract (env : Env) (slaveId : String) : Contract (orderly env slaveId) where
  inv := Agrees
  rely := Undisturbed
  guar := AttemptKept
  reflexive _ _ := ⟨rfl, rfl⟩
  transitive _ _ _ _ first second := ⟨second.1.trans first.1, second.2.trans first.2⟩
  secure _ _ point _ := run_secure slaveId point
  keeps _ _ _ _ kept := kept.agrees
  respects label other _ _ _ overlap kept _ := by
    have apart : other.attemptId ≠ label.attemptId := by
      rcases overlap with apart | apart
      · exact fun same => apart same.symm
      · exact apart
    exact kept.others other.attemptId apart
  moves _ _ _ _ _ moved _ := moved.elim
  drifts before after drifted agrees := by
    obtain ⟨attempts, table⟩ := drifted
    refine ⟨?_, fun label => ⟨by rw [attempts], by rw [table]⟩⟩
    unfold Agrees at agrees ⊢
    rwa [attempts, table]
  restarts before after restarted _ := by
    intro attemptId result stored isResult
    rw [restarted.1.1] at isResult
    cases isResult

section Runs

variable {env : Env} {slaveId : String} {start system : System SlaveState Exc RunWrite RunAnswer
  ExecutionResult RunArgs AttemptTable} {beats : List AttemptBeat}

/-- Every result that was returned is still there, in memory or in the database. -/
def Remembered (beats : List AttemptBeat) (point : AttemptPoint) : Prop :=
  ∀ beat ∈ beats, ∀ result, beat.stop = .returns result →
    point.1.attempts.lookup beat.label.attemptId = some result ∨
      point.2.row beat.label.attemptId = some result

theorem Remembered.after_beat {beat : AttemptBeat}
    (remembered : Remembered beats beat.opening.before)
    (kept : AttemptKept beat.label beat.opening beat.after beat.stop) :
    Remembered (beats ++ [beat]) beat.after := by
  intro earlier member result returned
  rcases List.mem_append.1 member with member | member
  · have before := remembered earlier member result returned
    by_cases same : earlier.label.attemptId = beat.label.attemptId
    · rw [same] at before ⊢
      exact before.imp (kept.kept result) (kept.keptRow result)
    · obtain ⟨attempts, row⟩ := kept.others _ same
      rwa [attempts, row]
  · rw [List.mem_singleton.1 member] at returned ⊢
    exact Or.inl (kept.returns result returned)

/-- A result that is returned is the one that was returned before. -/
theorem Remembered.returns_same {beat : AttemptBeat}
    (remembered : Remembered beats beat.opening.before) (agrees : Agrees beat.opening.before)
    (kept : AttemptKept beat.label beat.opening beat.after beat.stop) {earlier : AttemptBeat}
    (member : earlier ∈ beats) (same : earlier.label.attemptId = beat.label.attemptId)
    {first second : ExecutionResult} (returned : earlier.stop = .returns first)
    (returns : beat.stop = .returns second) : first = second := by
  have current := kept.returns second returns
  have before := remembered earlier member first returned
  rw [same] at before
  rcases before with isResult | isRow
  · exact Option.some.inj ((kept.kept first isResult).symm.trans current)
  · exact (kept.agrees agrees _ _ _ current (kept.keptRow first isRow)).symm

theorem Remembered.executes_first {beat : AttemptBeat}
    (remembered : Remembered beats beat.opening.before)
    (kept : AttemptKept beat.label beat.opening beat.after beat.stop) {query : RunQuery}
    (awaits : beat.stop = .awaits query) (executes : query.executes = true)
    {earlier : AttemptBeat} (member : earlier ∈ beats)
    (same : earlier.label.attemptId = beat.label.attemptId) (result : ExecutionResult) :
    earlier.stop ≠ .returns result := by
  intro returned
  obtain ⟨noResult, noRow⟩ := kept.executes query awaits executes
  have before := remembered earlier member result returned
  rw [same] at before
  rcases before with isResult | isRow
  · cases noResult.symm.trans (kept.kept result isResult)
  · cases noRow.symm.trans (kept.keptRow result isRow)

/-- What is to hold of the beats of a run. -/
structure ExecutesOnce (beats : List AttemptBeat) : Prop where
  executes : ∀ earlier beat later, beats = earlier ++ beat :: later →
    ∀ query, beat.stop = .awaits query → query.executes = true →
      ∀ other ∈ earlier, other.label.attemptId = beat.label.attemptId →
        ∀ result, other.stop ≠ .returns result
  same : ∀ first ∈ beats, ∀ second ∈ beats, first.label.attemptId = second.label.attemptId →
    ∀ result result', first.stop = .returns result → second.stop = .returns result' →
      result = result'
  inserts : ∀ beat ∈ beats, ∀ attemptId result answer,
    beat.opening.answered = some ⟨.storeAttempt attemptId result, answer⟩ →
      beat.opening.before.2.row attemptId = none

theorem ExecutesOnce.after_beat {beat : AttemptBeat} (once : ExecutesOnce beats)
    (remembered : Remembered beats beat.opening.before) (agrees : Agrees beat.opening.before)
    (kept : AttemptKept beat.label beat.opening beat.after beat.stop) :
    ExecutesOnce (beats ++ [beat]) := by
  constructor
  · intro earlier last later split query awaits executes other isEarlier sameAttempt result
    rcases List.eq_nil_or_concat later with rfl | ⟨later', final, rfl⟩
    · obtain ⟨rfl, isLast⟩ := List.append_inj' split rfl
      cases isLast
      exact remembered.executes_first kept awaits executes isEarlier sameAttempt result
    · rw [List.concat_eq_append, ← List.cons_append, ← List.append_assoc] at split
      obtain ⟨rfl, -⟩ := List.append_inj' split rfl
      exact once.executes earlier last later' rfl query awaits executes other isEarlier sameAttempt
        result
  · intro first isFirst second isSecond sameAttempt result result' returned returned'
    rcases List.mem_append.1 isFirst with isFirst | isFirst
    · rcases List.mem_append.1 isSecond with isSecond | isSecond
      · exact once.same first isFirst second isSecond sameAttempt result result' returned returned'
      · rw [List.mem_singleton.1 isSecond] at sameAttempt returned'
        exact remembered.returns_same agrees kept isFirst sameAttempt returned returned'
    · rw [List.mem_singleton.1 isFirst] at sameAttempt returned
      rcases List.mem_append.1 isSecond with isSecond | isSecond
      · have same := remembered.returns_same agrees kept isSecond sameAttempt.symm returned'
          returned
        exact same.symm
      · rw [List.mem_singleton.1 isSecond] at returned'
        rw [returned] at returned'
        cases returned'
        rfl
  · intro other member attemptId result answer answered
    rcases List.mem_append.1 member with member | member
    · exact once.inserts other member attemptId result answer answered
    · rw [List.mem_singleton.1 member] at answered ⊢
      exact kept.inserts attemptId result answer answered

theorem Remembered.silent
    {system' : System SlaveState Exc RunWrite RunAnswer ExecutionResult RunArgs AttemptTable}
    (remembered : Remembered beats system.point) (agrees : Agrees system.point)
    (silent : (orderly env slaveId).Silent system system') : Remembered beats system'.point := by
  cases silent with
  | move member pending moved => exact moved.elim
  | drift drifted =>
      intro beat member result returned
      rw [drifted.1, drifted.2]
      exact remembered beat member result returned
  | @restart point point' tasks next restarted =>
      intro beat member result returned
      rw [restarted.1.2]
      rcases remembered beat member result returned with isResult | isRow
      · cases isStored : point.2.row beat.label.attemptId with
        | none => exact absurd isStored (restarted.2 _ _ isResult)
        | some stored => exact Or.inr (congrArg some (agrees _ _ _ isResult isStored).symm)
      · exact Or.inr isRow

/-- In every run in which calls of one attempt do not overlap and the Slave restarts only with a row
for every result in memory: the executor or a plugin is not invoked for an attempt once a call of it
has returned a result, all calls of the attempt that return give the same result, and no row is
inserted under a key that is taken.  Every call invokes the executor or a plugin at most once for
its operation. -/
theorem attempts_execute_once (idle : start.tasks = []) (empty : start.point.1.attempts = [])
    (run : (orderly env slaveId).Run start beats system) :
    ExecutesOnce beats ∧
      ∀ args : RunArgs, (args.prog env slaveId).Obeys InvokesOnce [] fun _ _ => True := by
  refine ⟨?_, run_invokesOnce slaveId⟩
  have sound : (attemptContract env slaveId).Sound start := by
    refine ⟨?_, ?_, ?_⟩
    · intro attemptId result stored isResult
      rw [empty] at isResult
      cases isResult
    · rw [idle]
      exact fun task member => (List.not_mem_nil member).elim
    · rw [idle]
      exact List.Pairwise.nil
  suffices both : (ExecutesOnce beats ∧ Remembered beats system.point) ∧
      (attemptContract env slaveId).Sound system from both.1.1
  refine Contract.induct (fun beats system =>
    ExecutesOnce beats ∧ Remembered beats system.point) sound ?_ ?_ ?_ run
  · refine ⟨⟨?_, ?_, ?_⟩, fun beat member => (List.not_mem_nil member).elim⟩
    · intro earlier beat later split
      cases List.append_eq_nil_iff.1 split.symm |>.2
    · exact fun beat member => (List.not_mem_nil member).elim
    · exact fun beat member => (List.not_mem_nil member).elim
  · intro beats system beat system' past before step kept _
    rw [← step.before_eq] at past
    have agrees := before.holds
    rw [← step.before_eq] at agrees
    rw [← step.after_eq]
    exact ⟨past.1.after_beat past.2 agrees kept, past.2.after_beat kept⟩
  · intro beats system system' past before silent
    exact ⟨past.1, past.2.silent before.holds silent⟩

end Runs

namespace AttemptDemo

def package : CapabilityPackageVersion :=
  { Demo.package "double" "container:http" "closure" [] with
    packageType := "service", packageDigest := "digest" }

/-- A Slave on which the package is provisioned. -/
def slave : SlaveState :=
  { packageCache := [(package.versionRef, package)]
    activations := [(package.versionRef,
      { packageVersionRef := package.versionRef, packageDigest := package.packageDigest
        targetSlave := "slave-a", activationClosureVersionRef := "closure", computeBindingRef := ""
        desiredState := .running, activationRevision := 1, lastIdempotencyKey := "key"
        activationState := .ready })] }

def args : RunArgs :=
  { attemptId := "attempt-1", operation := "double", payload := []
    binding := some
      { bindingId := "binding", holeId := "hole", capabilityDescriptorRef := Demo.descriptorRef
        capabilityPackageRef := some { resourceId := package.versionRef }
        targetResourceRef := { resourceId := "slave-a" } } }

/-- The answers to a task: the plugin returns its ticket. -/
def serve (ticket : Nat) :
    (query : RunQuery) → AttemptTable → RunAnswer query × AttemptTable
  | .contentGet digest, table => (.ok (Demo.contentOf digest), table)
  | .contentPut _ _, table => (.ok (), table)
  | .storedAttempt attemptId, table => (.ok (table.row attemptId), table)
  | .storeAttempt attemptId result, table =>
      if table.hasDatabase = false then (.ok (), table)
      else if table.row attemptId ≠ none then (.error ⟨.other, "UNIQUE constraint failed"⟩, table)
      else (.ok (), table.insert attemptId result)
  | .runProgram _ _, table => (.ok .null, table)
  | .invokePlugin _ _ _ _ _, table => (.ok [("value", .int ticket)], table)

theorem serve_serves (ticket : Nat) (query : RunQuery) (table : AttemptTable) :
    table.Serves query (serve ticket query table).1 (serve ticket query table).2 := by
  cases query with
  | storedAttempt attemptId => exact ⟨rfl, Or.inl rfl⟩
  | storeAttempt attemptId result =>
      unfold AttemptTable.Serves serve
      dsimp only
      split
      · exact ⟨rfl, rfl⟩
      · split
        · exact ⟨rfl, _, rfl⟩
        · exact Or.inl ⟨rfl, rfl⟩
  | _ => exact rfl

def start : System SlaveState Exc RunWrite RunAnswer ExecutionResult RunArgs AttemptTable :=
  { point := (slave, {}) }

/-- A call of another attempt begins and ends while one of the attempt is running. -/
def nested : List (Choice RunArgs) :=
  [.start args, .answer 0, .start { args with attemptId := "attempt-2" }] ++
    List.replicate 6 (.answer 1) ++ List.replicate 5 (.answer 0)

/-- The attempt is called again. -/
def again : List (Choice RunArgs) := [.start args, .answer 0]

/-- A second call of the attempt has found no result when the first one returns. -/
def duplicate : List (Choice RunArgs) :=
  [.start args, .start args, .answer 0, .answer 1] ++ List.replicate 5 (.answer 0) ++
    List.replicate 5 (.answer 1)

def played (overlap : RunArgs → RunArgs → Prop) (free : RunArgs → RunArgs → Bool)
    (choices : List (Choice RunArgs)) :=
  start.play (attemptSetting LifecycleDemo.env "slave-a" overlap RestartsBacked) free serve choices

theorem played_run {overlap : RunArgs → RunArgs → Prop} {free : RunArgs → RunArgs → Bool}
    (mayOverlap : ∀ first second, free first second = true → overlap first second)
    (choices : List (Choice RunArgs)) :
    (attemptSetting LifecycleDemo.env "slave-a" overlap RestartsBacked).Run start
      (played overlap free choices).1 (played overlap free choices).2 :=
  System.run_of_play mayOverlap serve_serves choices .nil

def isApart (first second : RunArgs) : Bool := first.attemptId ≠ second.attemptId

/-- The system after a restart of the Slave. -/
def reboot
    (system : System SlaveState Exc RunWrite RunAnswer ExecutionResult RunArgs AttemptTable) :
    System SlaveState Exc RunWrite RunAnswer ExecutionResult RunArgs AttemptTable :=
  { point := ({ system.point.1 with attempts := [] }, system.point.2), next := system.next }

/-- Every result in memory has a row. -/
def isBacked (point : AttemptPoint) : Bool :=
  point.1.attempts.all fun entry => (point.2.row entry.1).isSome

theorem reboot_silent
    {system : System SlaveState Exc RunWrite RunAnswer ExecutionResult RunArgs AttemptTable}
    (backed : isBacked system.point = true) :
    (orderly LifecycleDemo.env "slave-a").Silent system (reboot system) := by
  refine .restart ⟨⟨rfl, rfl⟩, fun attemptId result isResult noRow => ?_⟩
  have isRow := List.all_eq_true.1 backed _ (Keyed.mem_of_lookup isResult)
  rw [noRow] at isRow
  cases isRow

/-- The beats of the calls, and of the next call after a restart. -/
def resumed : List AttemptBeat :=
  (played RunArgs.Apart isApart nested).1 ++
    ((reboot (played RunArgs.Apart isApart nested).2).play (orderly LifecycleDemo.env "slave-a")
      isApart serve again).1

theorem resumed_run :
    ∃ system, (orderly LifecycleDemo.env "slave-a").Run start resumed system := by
  have mayOverlap : ∀ first second, isApart first second = true → first.Apart second :=
    fun first second free => show first.attemptId ≠ second.attemptId from of_decide_eq_true free
  have backed : isBacked (played RunArgs.Apart isApart nested).2.point = true := by decide +kernel
  have before := played_run mayOverlap nested
  have after := before.silent (reboot_silent backed)
  exact ⟨_, System.run_of_play mayOverlap serve_serves again after⟩

def overlapping : List AttemptBeat := (played (fun _ _ => True) (fun _ _ => true) duplicate).1

/-- A beat that inserts under a key that is taken. -/
def conflicts (beat : AttemptBeat) : Bool :=
  match beat.opening.answered with
  | some ⟨.storeAttempt attemptId _, _⟩ => (beat.opening.before.2.row attemptId).isSome
  | _ => false

def invokes (beat : AttemptBeat) : Bool :=
  match beat.stop with
  | .awaits query => query.executes
  | _ => false

/-- The attempt and the value that a call of it has returned. -/
def returned (beat : AttemptBeat) : Option (String × Json) :=
  match beat.stop with
  | .returns result => some (beat.label.attemptId, result.value)
  | _ => none

end AttemptDemo

/-- The attempt is called before and after a restart, and another attempt meanwhile: each of them is
executed once, and the second call returns what the first one has. -/
theorem attempts_execute_once_resumed :
    ExecutesOnce AttemptDemo.resumed ∧
      (AttemptDemo.resumed.filter AttemptDemo.invokes).length = 2 ∧
      AttemptDemo.resumed.filterMap AttemptDemo.returned =
        [("attempt-2", .int 1), ("attempt-1", .int 0), ("attempt-1", .int 0)] := by
  have facts : (AttemptDemo.resumed.filter AttemptDemo.invokes).length = 2 ∧
      AttemptDemo.resumed.filterMap AttemptDemo.returned =
        [("attempt-2", .int 1), ("attempt-1", .int 0), ("attempt-1", .int 0)] := by
    decide +kernel
  obtain ⟨system, run⟩ := AttemptDemo.resumed_run
  exact ⟨(attempts_execute_once rfl rfl run).1, facts⟩

/-- Two calls of one attempt that overlap: both invoke the plugin, and the second one fails to
insert its row. -/
theorem duplicate_executes_twice :
    (∃ system, (attemptSetting LifecycleDemo.env "slave-a" (fun _ _ => True) RestartsBacked).Run
      AttemptDemo.start AttemptDemo.overlapping system) ∧
    (AttemptDemo.overlapping.filter AttemptDemo.invokes).length = 2 ∧
    ¬ExecutesOnce AttemptDemo.overlapping := by
  have facts : (AttemptDemo.overlapping.filter AttemptDemo.invokes).length = 2 ∧
      AttemptDemo.overlapping.any AttemptDemo.conflicts = true := by
    decide +kernel
  refine ⟨⟨_, AttemptDemo.played_run (fun _ _ _ => trivial) AttemptDemo.duplicate⟩, facts.1,
    fun once => ?_⟩
  obtain ⟨beat, member, conflict⟩ := List.any_eq_true.1 facts.2
  unfold AttemptDemo.conflicts at conflict
  split at conflict
  · rename_i attemptId result answer answered
    rw [once.inserts beat member attemptId result answer answered] at conflict
    cases conflict
  · cases conflict

end Loom
