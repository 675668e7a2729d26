import Loom.Coroutine.Pool
import Loom.Observer.Calls

/-!
# What the checks of an operation may do

Most of an operation's text loads content, refreshes the Slaves and evaluates checks.  Those
parts await services only (`Query.isService`) and make minor writes only (`Write.isMinor`): they
consume uuids and store the Slave snapshot, but touch no record.  The lemmas below state this
once for each part (`Prog.Only`), so that the description of an operation starts at its own
writes.
-/

namespace Loom

open Coroutine

/-- The write touches no record and installs none. -/
def Write.isMinor : Write → Bool
  | .takeUuid | .storeSlaves _ | .acquire _ | .release _
  | .acquireCapability _ | .releaseCapability _ => true
  | .record _ _ | .alloc _ | .install _ _ | .storeReceipt _ _ => false

/-- The query asks for content, packages, Slaves, a validator or the type checker: what an
operation awaits between the checks on the record it loaded and its writes. -/
def Query.isService : Query → Bool
  | .load _ | .intentLock _ | .capabilityLock _ | .persist _ | .storeReceipt _ => false
  | .allRecords | .contentGet _ | .contentStat _ | .contentPut _ _ | .runValidator _ _
  | .listAgents _ | .checkProgram _ => true

/-- The program touches no record and awaits services only. -/
abbrev Op.Reads {α : Type} (program : Op α) : Prop :=
  program.Only (fun write => write.isMinor) (fun query => query.isService)

namespace Op

section Combinators

variable {α β : Type}

theorem Reads.ret (value : α) : Reads (.ret value) := trivial

theorem Reads.raise (error : Exc) : Reads (.raise error : Op α) := trivial

theorem Reads.bind {program : Op α} {rest : α → Op β} (first : Reads program)
    (second : ∀ value, Reads (rest value)) : Reads (program >>= rest) :=
  Prog.Only.bind first second

theorem Reads.attempt {program : Op α} (reads : Reads program) : Reads program.attempt :=
  Prog.Only.attempt reads

theorem Reads.check (condition : Prop) [Decidable condition] (text : String) :
    Reads (check condition text) :=
  Prog.Only.guard condition _

theorem Reads.ofExcept (outcome : Except Exc α) : Reads (Prog.ofExcept outcome) :=
  Prog.Only.ofExcept outcome

theorem Reads.fail (text : String) : Reads (fail text : Op α) := trivial

theorem Reads.get : Reads Prog.get := fun _ => trivial

theorem Reads.recordAt (address : Nat) : Reads (recordAt address) := fun _ => trivial

theorem Reads.uuid (env : Env) : Reads (uuid env) := fun _ => ⟨rfl, trivial⟩

end Combinators

/-! ### Content -/

theorem reads_contentGet (env : Env) (ref : ResourceRef) : Reads (contentGet env ref) := by
  unfold contentGet
  split
  · trivial
  · refine ⟨rfl, fun
      | .error _ => trivial
      | .ok none => trivial
      | .ok (some content) => ?_⟩
    dsimp only
    split
    · trivial
    · trivial

theorem reads_contentStat (ref : ResourceRef) : Reads (contentStat ref) := by
  unfold contentStat
  split
  · trivial
  · exact ⟨rfl, fun answer => Reads.ofExcept answer⟩

theorem reads_contentPut (env : Env) (content : Bytes) (mediaType : String) :
    Reads (contentPut env content mediaType) :=
  ⟨rfl, fun
    | .error _ => trivial
    | .ok () => trivial⟩

theorem reads_loadJsonContent (env : Env) (ref : ResourceRef) :
    Reads (loadJsonContent env ref) := by
  unfold loadJsonContent
  split
  · trivial
  · refine (reads_contentGet env ref).bind fun raw => ?_
    split
    · trivial
    · trivial

theorem reads_loadIoContract (env : Env) (ref : ResourceRef) : Reads (loadIoContract env ref) :=
  (reads_loadJsonContent env ref).bind fun _ => Reads.ofExcept _

theorem Reads.orContentError {α : Type} {program : Op α} (reads : Reads program) (text : String) :
    Reads (orContentError program text) := by
  refine reads.attempt.bind fun outcome => ?_
  split
  · trivial
  · split
    · trivial
    · trivial

/-! ### Packages and Slaves -/

theorem reads_allRecords : Reads allRecords :=
  ⟨rfl, fun
    | .error _ => trivial
    | .ok none => fun _ => trivial
    | .ok (some _) => fun _ => trivial⟩

theorem reads_refreshSlaves (workspaceId : String) : Reads (refreshSlaves workspaceId) :=
  ⟨rfl, fun
    | .error _ => trivial
    | .ok _ => (reads_allRecords).bind fun _ => (Reads.get).bind fun _ => ⟨rfl, trivial⟩⟩

theorem reads_getCapabilityPackage (ref : ResourceRef) (runId : String) :
    Reads (getCapabilityPackage ref runId) := by
  refine (reads_allRecords).bind fun _ => (Reads.get).bind fun repo => ?_
  split
  · trivial
  · trivial

/-! ### Readiness -/

section

-- Only the rules above are needed here: nothing has to compute on the programs.
attribute [local irreducible] Coroutine.Prog.Only

theorem reads_validateOperationDescriptorRef (env : Env) (ref : ResourceRef) :
    Reads (validateOperationDescriptorRef env ref) := by
  unfold validateOperationDescriptorRef
  refine (Reads.check _ _).bind fun _ => ?_
  split
  · refine (reads_contentGet env _).bind fun raw => ?_
    split
    · exact Reads.fail _
    · exact (Reads.ofExcept _).bind fun _ => Reads.check _ _
  · split
    · exact Reads.fail _
    · exact (Reads.ofExcept _).bind fun _ => Reads.check _ _

end

/-- The validator of a contract is loaded. -/
theorem reads_validatorContent (env : Env) (contract : IoContract) :
    Reads (match contract.successValidatorRef with
      | none => (.ret () : Op Unit)
      | some validatorRef => do
          Prog.ofExcept (requireContentRef validatorRef)
          let _ ← contentGet env validatorRef
          .ret ()) := by
  split
  · trivial
  · exact (Reads.ofExcept _).bind fun _ => (reads_contentGet env _).bind fun _ => Reads.ret _

/-- The output schema of a contract and its validator are loaded. -/
theorem reads_outputContent (env : Env) (contract : IoContract) :
    Reads (match contract.outputSchemaRef with
      | none => (do
          .ret ()
          match contract.successValidatorRef with
          | none => (.ret () : Op Unit)
          | some validatorRef => do
              Prog.ofExcept (requireContentRef validatorRef)
              let _ ← contentGet env validatorRef
              .ret ())
      | some schemaRef => do
          let schema ← loadJsonContent env schemaRef
          Prog.ofExcept (env.validateSchema schema)
          match contract.successValidatorRef with
          | none => (.ret () : Op Unit)
          | some validatorRef => do
              Prog.ofExcept (requireContentRef validatorRef)
              let _ ← contentGet env validatorRef
              .ret ()) := by
  split
  · exact reads_validatorContent env contract
  · exact (reads_loadJsonContent env _).bind fun _ => (Reads.ofExcept _).bind fun _ =>
      reads_validatorContent env contract

theorem reads_loadContractParts (env : Env) (ref : ResourceRef) :
    Reads (loadContractParts env ref) := by
  refine (reads_loadIoContract env ref).bind fun contract => ?_
  have output := reads_outputContent env contract
  dsimp only
  split
  · exact output
  · exact (reads_loadJsonContent env _).bind fun _ => (Reads.ofExcept _).bind fun _ => output

section

attribute [local irreducible] Coroutine.Prog.Only

theorem reads_validatePackageExports (env : Env) (exports : List CapabilityExport) :
    Reads (validatePackageExports env exports) := by
  induction exports with
  | nil =>
      rw [validatePackageExports]
      exact Reads.ret _
  | cons exported rest ih =>
      rw [validatePackageExports]
      exact (reads_validateOperationDescriptorRef env _).bind fun _ =>
        ((reads_loadContractParts env _).orContentError _).bind fun _ => ih

end

theorem reads_evaluateInputSchema (env : Env) (snapshot : TaskClosure) (operationRef : String) :
    Reads (evaluateInputSchema env snapshot operationRef) := by
  unfold evaluateInputSchema
  split
  · trivial
  · refine (reads_loadIoContract env _).attempt.bind fun outcome => ?_
    split
    · split
      · trivial
      · trivial
    · split
      · trivial
      · split
        · trivial
        · refine Reads.bind (Reads.attempt ?_) fun outcome => ?_
          · exact (reads_loadJsonContent env _).bind fun _ => (Reads.ofExcept _).bind fun _ =>
              (reads_loadJsonContent env _).bind fun _ => Reads.ret _
          · split
            · split
              · trivial
              · trivial
            · refine (Reads.ofExcept _).bind fun _ => ?_
              split
              · trivial
              · trivial

theorem reads_evaluateNodeExports (env : Env) (package : CapabilityPackageVersion)
    (exports : List CapabilityExport) : Reads (evaluateNodeExports env package exports) := by
  induction exports with
  | nil => trivial
  | cons exported rest ih =>
      have more : ∀ blockers : List Json, Reads (do
          let more ← evaluateNodeExports env package rest
          .ret (blockers ++ more)) := fun _ => ih.bind fun _ => Reads.ret _
      refine (reads_loadIoContract env _).attempt.bind fun outcome => ?_
      dsimp only
      split
      · exact more _
      · split
        · exact more _
        · trivial

theorem reads_evaluateNodePackages (env : Env) (runId : String) (refs : List ResourceRef) :
    Reads (evaluateNodePackages env runId refs) := by
  induction refs with
  | nil => trivial
  | cons ref rest ih =>
      have more : ∀ blockers : List Json, Reads (do
          let more ← evaluateNodePackages env runId rest
          .ret (blockers ++ more)) := fun _ => ih.bind fun _ => Reads.ret _
      refine (Reads.get).bind fun repo => ?_
      dsimp only
      split
      · exact more _
      · exact (reads_evaluateNodeExports env _ _).bind fun _ => (Reads.get).bind fun _ => more _

theorem reads_evaluateProgram (env : Env) (package : CapabilityPackageVersion)
    (programRef : ResourceRef) : Reads (evaluateProgram env package programRef) := by
  refine (reads_contentStat _).bind fun stat => ?_
  split
  · trivial
  · split
    · trivial
    · split
      · trivial
      · refine (reads_contentGet env _).bind fun content => ?_
        split
        · trivial
        · split
          · exact ⟨rfl, fun
              | .error (_, _) => trivial
              | .ok _ => trivial⟩
          · trivial

theorem reads_evaluateOrchestrationPackage (env : Env) (snapshot : TaskClosure)
    (runId : String) : Reads (evaluateOrchestrationPackage env snapshot runId) := by
  unfold evaluateOrchestrationPackage
  split
  · trivial
  · refine (Reads.get).bind fun repo => ?_
    split
    · split
      · trivial
      · trivial
    · split
      · trivial
      · dsimp only
        split
        · trivial
        · exact (reads_evaluateProgram env _ _).bind fun _ =>
            (reads_evaluateNodePackages env runId _).bind fun _ => Reads.ret _

theorem reads_evaluateReadiness (env : Env) (snapshot : TaskClosure) (runId : String) :
    Reads (evaluateReadiness env snapshot runId) := by
  refine (Reads.get).bind fun repo => ?_
  dsimp only
  split
  · refine (reads_refreshSlaves _).bind fun _ =>
      (reads_evaluateInputSchema env _ _).bind fun _ => ?_
    split
    · exact (reads_evaluateOrchestrationPackage env _ _).bind fun _ => (Reads.get).bind fun _ =>
        Reads.ret _
    · exact (Reads.get).bind fun _ => Reads.ret _
  · refine (reads_evaluateInputSchema env _ _).bind fun _ => ?_
    split
    · exact (reads_evaluateOrchestrationPackage env _ _).bind fun _ => (Reads.get).bind fun _ =>
        Reads.ret _
    · exact (Reads.get).bind fun _ => Reads.ret _

/-- The package of a header is validated. -/
theorem reads_finishPackage (env : Env) (address : Nat) (header : Dict)
    (packageId : String) : Reads (do
      let closureRef ← uuid env
      let record ← recordAt address
      match packageFromHeader env header packageId closureRef record with
      | .ok package =>
          validatePackageExports env package.capabilityExports
          .ret package
      | .error error =>
          if error.kind = .typeError ∨ error.kind = .valueError then
            fail (if error.text = "" then "capability_package_invalid" else error.text)
          else .raise error) := by
  refine (Reads.uuid env).bind fun closureRef => (Reads.recordAt address).bind fun record => ?_
  split
  · exact (reads_validatePackageExports env _).bind fun _ => Reads.ret _
  · split
    · trivial
    · trivial

theorem reads_preparePackage (env : Env) (address : Nat) (operation : Dict) :
    Reads (preparePackage env address operation) := by
  refine (Reads.ofExcept _).bind fun header => (Reads.check _ _).bind fun _ => ?_
  dsimp only
  split
  · exact reads_finishPackage env address header _
  · exact Reads.bind ((Reads.uuid env).bind fun _ => Reads.ret _) fun _ =>
      reads_finishPackage env address header _

/-! ### Results -/

theorem reads_loadCommittedContract (env : Env) (record : RunRecord) :
    Reads (loadCommittedContract env record) := by
  unfold loadCommittedContract
  split
  · trivial
  · exact ((reads_loadIoContract env _).orContentError _).bind fun _ => Reads.ret _

theorem reads_schemaErrors (env : Env) (schemaRef : ResourceRef) (value : Json)
    (message expected : String) : Reads (schemaErrors env schemaRef value message expected) := by
  refine Reads.bind (Reads.attempt ?_) fun outcome => ?_
  · exact (reads_loadJsonContent env _).bind fun _ => (Reads.ofExcept _).bind fun _ =>
      Reads.ofExcept _
  · split
    · trivial
    · split
      · trivial
      · trivial

theorem reads_runValidator (env : Env) (validatorRef : ResourceRef) (value : Json) :
    Reads (runValidator env validatorRef value) := by
  refine Reads.attempt ((reads_contentGet env _).bind fun _ => (Reads.check _ _).bind fun _ => ?_)
  exact ⟨rfl, fun answer => Reads.ofExcept answer⟩

theorem reads_observeSchema (env : Env) (report : Report) (contract : Option IoContract)
    (inputDigest : Option String) : Reads (observeSchema env report contract inputDigest) := by
  unfold observeSchema
  split
  · trivial
  · exact (reads_schemaErrors env _ _ _ _).bind fun _ => (Reads.uuid env).bind fun _ =>
      Reads.ret _

theorem reads_observeValidator (env : Env) (report : Report) (contract : Option IoContract)
    (inputDigest : Option String) : Reads (observeValidator env report contract inputDigest) := by
  unfold observeValidator
  split
  · trivial
  · exact (reads_runValidator env _ _).bind fun _ => (Reads.uuid env).bind fun _ => Reads.ret _

/-! ### Nodes -/

theorem reads_loadInputs (env : Env) (refs : List ResourceRef) : Reads (loadInputs env refs) := by
  induction refs with
  | nil => trivial
  | cons ref rest ih =>
      exact (reads_loadJsonContent env _).bind fun _ => ih.bind fun _ => Reads.ret _

theorem reads_checkInputSchema (env : Env) (contract : IoContract) (refs : List ResourceRef) :
    Reads (checkInputSchema env contract refs) := by
  unfold checkInputSchema
  split
  · trivial
  · refine Reads.bind (Reads.orContentError ?_ _) fun _ => Reads.check _ _
    exact (reads_loadJsonContent env _).bind fun _ => (Reads.ofExcept _).bind fun _ =>
      (reads_loadInputs env _).bind fun _ => Reads.ofExcept _

theorem reads_authorizedInputs (env : Env) (bindings : List NodeInputBinding) :
    Reads (authorizedInputs env bindings) := by
  induction bindings with
  | nil => trivial
  | cons binding rest ih =>
      have more : ∀ own : List String, Reads (do
          let more ← authorizedInputs env rest
          .ret (own ++ more)) := fun _ => ih.bind fun _ => Reads.ret _
      unfold authorizedInputs
      dsimp only
      split
      · exact more _
      · refine (reads_loadJsonContent env _).attempt.bind fun outcome => ?_
        split
        · exact more _
        · split
          · exact more _
          · trivial

theorem reads_checkInputs (env : Env) (authorized : List String) (refs : List ResourceRef) :
    Reads (checkInputs env authorized refs) := by
  induction refs with
  | nil => trivial
  | cons ref rest ih =>
      exact ((reads_loadJsonContent env _).orContentError _).bind fun _ =>
        (Reads.check _ _).bind fun _ => ih

theorem reads_checkTarget (env : Env) (record : RunRecord) (snapshot : TaskClosure)
    (package : CapabilityPackageVersion) (exported : CapabilityExport) (target : String) :
    Reads (checkTarget env record snapshot package exported target) :=
  (Reads.check _ _).bind fun _ => (Reads.get).bind fun _ => (Reads.check _ _).bind fun _ =>
    (Reads.check _ _).bind fun _ => (Reads.check _ _).bind fun _ => Reads.ret _

section

attribute [local irreducible] Coroutine.Prog.Only

theorem reads_intentExport (intent : NodeIntent) (runId : String) :
    Reads (intentExport intent runId) := by
  unfold intentExport
  refine (reads_getCapabilityPackage _ _).attempt.bind fun outcome => ?_
  split
  · split
    · exact Reads.fail _
    · exact Reads.raise _
  · refine (Reads.check _ _).bind fun _ => (Reads.get).bind fun _ => (Reads.check _ _).bind fun _ =>
      (Reads.check _ _).bind fun _ => ?_
    split
    · exact Reads.ret _
    · exact Reads.fail _

theorem reads_qualifyIntent (env : Env) (address : Nat) (runId : String) (record : RunRecord)
    (snapshot : TaskClosure) (intent : NodeIntent) (target : String) :
    Reads (qualifyIntent env address runId record snapshot intent target) := by
  unfold qualifyIntent
  exact (reads_intentExport _ _).bind fun _ => (reads_refreshSlaves _).bind fun _ =>
    ((reads_loadIoContract env _).orContentError _).bind fun _ =>
    (reads_checkInputSchema env _ _).bind fun _ => (reads_authorizedInputs env _).bind fun _ =>
    (Reads.recordAt _).bind fun _ => (reads_checkInputs env _ _).bind fun _ =>
    reads_checkTarget env _ _ _ _ _

end

theorem reads_reloadInputs (env : Env) (refs : List ResourceRef) :
    Reads (reloadInputs env refs) := by
  induction refs with
  | nil => trivial
  | cons ref rest ih =>
      exact ((reads_loadJsonContent env _).orContentError _).bind fun _ => ih

/-! ### Node results and completion -/

theorem reads_nodeSchemaErrors (env : Env) (report : NodeReport)
    (package : CapabilityPackageVersion) : Reads (nodeSchemaErrors env report package) := by
  have unreadable : ∀ (contract : Option IoContract) (error : Exc),
      Reads (if error.isContentError ∧ error.isEvidenceError = false then
        (.ret (contract, [unevaluated "node output schema could not be evaluated"
          "valid output schema" error]) : Op (Option IoContract × List SchemaError))
      else .raise error) := by
    intro contract error
    split
    · trivial
    · trivial
  refine Reads.bind (Reads.attempt ?_) fun outcome => ?_
  · exact (Reads.ofExcept _).bind fun _ => reads_loadIoContract env _
  · split
    · exact unreadable _ _
    · refine Reads.bind (Reads.attempt ((Reads.ofExcept _).bind fun _ => ?_)) fun outcome => ?_
      · split
        · trivial
        · exact (reads_loadJsonContent env _).bind fun _ => (Reads.ofExcept _).bind fun _ =>
            Reads.ofExcept _
      · split
        · exact unreadable _ _
        · trivial

theorem reads_nodeValidator (env : Env) (report : NodeReport) (contract : IoContract)
    (validatorRef : ResourceRef) : Reads (nodeValidator env report contract validatorRef) :=
  (reads_runValidator env _ _).bind fun _ => (Reads.uuid env).bind fun _ => Reads.ret _

theorem reads_judgeNode (env : Env) (runId : String) (report : NodeReport) :
    Reads (judgeNode env runId report) := by
  refine (reads_getCapabilityPackage _ _).attempt.bind fun outcome => ?_
  split
  · split
    · trivial
    · trivial
  · refine (Reads.check _ _).bind fun _ => (reads_nodeSchemaErrors env _ _).bind fun verdict => ?_
    rcases verdict with ⟨_ | contract, errors⟩
    · trivial
    · dsimp only
      split
      · exact (reads_nodeValidator env _ _ _).bind fun _ => Reads.ret _
      · trivial

theorem reads_loadFinal (env : Env) (finalRef contractRef : ResourceRef) :
    Reads (loadFinal env finalRef contractRef) := by
  have unreadable : ∀ (value : Option Json) (contract : Option IoContract) (error : Exc),
      Reads (if error.isContentError then
        (.ret ⟨value, contract, [unevaluated "final output schema could not be evaluated"
          "valid final output" error]⟩ : Op FinalValue)
      else .raise error) := by
    intro value contract error
    split
    · trivial
    · trivial
  refine (reads_loadJsonContent env _).attempt.bind fun outcome => ?_
  split
  · exact unreadable _ _ _
  · refine (reads_loadIoContract env _).attempt.bind fun outcome => ?_
    split
    · exact unreadable _ _ _
    · refine Reads.bind (Reads.attempt ?_) fun outcome => ?_
      · split
        · trivial
        · exact (reads_loadJsonContent env _).bind fun _ => (Reads.ofExcept _).bind fun _ =>
            Reads.ofExcept _
      · split
        · exact unreadable _ _ _
        · trivial

theorem reads_validateFinal (env : Env) (final : FinalValue) (errors : List SchemaError) :
    Reads (validateFinal env final errors) := by
  unfold validateFinal
  split
  · exact (reads_runValidator env _ _).bind fun _ => Reads.ret _
  · trivial

end Op

end Loom
