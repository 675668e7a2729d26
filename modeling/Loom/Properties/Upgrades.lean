import Loom.Observer.Boards
import Loom.Observer.SingleCalls
import Loom.Properties.Coherence
import Loom.Slave.Content

/-!
# Validation does not upgrade a result

A result passes two validations: `_validate_terminal_result` on the Slave, and `record_result` or
`record_dynamic_node_result` on Observer.  Observer never raises the state that it is told, and a
run with a failed result does not complete before it is started again.  The Slave raises the state
in one case: it asks for an attestation of a result that was reported as failed.
-/

namespace Loom

open Coroutine

namespace TerminalState

/-- `failed < decision_required < completed`. -/
def rank : TerminalState → Nat
  | .failed => 0
  | .decisionRequired => 1
  | .completed => 2

instance : LE TerminalState := ⟨fun one other => one.rank ≤ other.rank⟩

theorem failed_le (state : TerminalState) : failed ≤ state := Nat.zero_le _

theorem le_completed (state : TerminalState) : state ≤ completed := by
  cases state
  · exact Nat.le_refl 2
  · exact Nat.zero_le 2
  · exact Nat.le_succ 1

theorem le_refl (state : TerminalState) : state ≤ state := Nat.le_refl _

theorem le_trans {one two three : TerminalState} (first : one ≤ two) (second : two ≤ three) :
    one ≤ three := Nat.le_trans first second

theorem eq_failed {state : TerminalState} (below : state ≤ failed) : state = failed := by
  cases state with
  | completed => exact absurd below (by change ¬2 ≤ 0; omega)
  | failed => rfl
  | decisionRequired => exact absurd below (by change ¬1 ≤ 0; omega)

end TerminalState

/-- The state that a result reports, where it is one of the three. -/
def ExecutionResult.reported? (result : ExecutionResult) : Option TerminalState :=
  TerminalState.ofReport? (.str result.terminalState)

/-! ### The Slave -/

section Slave

variable {content : Content} {env : Env}

/-- The contract asks for an attestation of the value: it has success semantics and no validator,
and its output schema finds no error. -/
def IoContract.Undecided (contract : IoContract) (env : Env) (content : Content) (value : Json) :
    Prop :=
  contract.asksAttestation = true ∧ ∀ schemaRef, contract.outputSchemaRef = some schemaRef →
    content.outputErrors env schemaRef value = .ok []

/-- The IoContract that an operation is held to asks for an attestation of the value. -/
def AsksAttestation (env : Env) (content : Content) (closure : Option TaskClosure)
    (exported : Option CapabilityExport) (value : Json) : Prop :=
  ∃ contractRef contract, contractRefFor exported closure = some contractRef ∧
    content.contract env contractRef = .ok contract ∧ contract.Undecided env content value

theorem reported_reject (result : ExecutionResult) (code : String) (errors : List Json)
    (evidence : List ValidationEvidence) :
    (result.reject code errors evidence).reported? = some .failed := rfl

theorem reported_undecide (result : ExecutionResult) (evidence : List ValidationEvidence) :
    (result.undecide evidence).reported? = some .decisionRequired := rfl

theorem reported_accept (result : ExecutionResult) (evidence : List ValidationEvidence) :
    (result.accept evidence).reported? = result.reported? := rfl

/-- The state after the validator's verdict: the reported one, failed, or undecided where the
contract asks for an attestation. -/
theorem reported_judge {result : ExecutionResult} {contract : IoContract}
    {evidence : List ValidationEvidence} {answer : Option (ValidationEvidence × Json)}
    (run : answer = none → contract.successValidatorRef = none) :
    (result.judge contract evidence answer).reported? = result.reported? ∨
      (result.judge contract evidence answer).reported? = some .failed ∨
      contract.asksAttestation = true ∧
        (result.judge contract evidence answer).reported? = some .decisionRequired := by
  unfold ExecutionResult.judge
  cases answer with
  | some judged =>
      dsimp only
      split
      · exact Or.inl (reported_accept _ _)
      · exact Or.inr (Or.inl (reported_reject _ _ _ _))
  | none =>
      dsimp only
      split
      · rename_i asks
        refine Or.inr (Or.inr ⟨?_, reported_undecide _ _⟩)
        unfold IoContract.asksAttestation
        simp [run rfl, asks]
      · exact Or.inl (reported_accept _ _)

/-- A run of the validator is skipped only where there is none. -/
theorem checkValidator_none {contract : IoContract} {subject : EvidenceSubject} {value : Json}
    {state state' : SlaveState} {served : (query : RunQuery) → RunAnswer query → Prop}
    (runs : (RunOp.checkValidator env contract subject value).Runs served state state' (.ok none)) :
    contract.successValidatorRef = none := by
  unfold RunOp.checkValidator at runs
  cases isRef : contract.successValidatorRef with
  | none => rfl
  | some validatorRef =>
      rw [isRef] at runs
      rcases runs.of_bind with ⟨middle, answer, _, rest⟩ | ⟨error, _, impossible⟩
      · rcases rest.of_bind with ⟨later, item, _, returned⟩ | ⟨error, _, impossible⟩
        · cases returned
        · cases impossible
      · cases impossible

/-- An output without errors is one that its schema accepts. -/
theorem checkOutput_accepts {contract : IoContract} {subject : EvidenceSubject} {value : Json}
    {state state' : SlaveState} {checked : Option (ValidationEvidence × List SchemaError)}
    (runs : (RunOp.checkOutput env contract subject value).Runs (ServedBy content) state state'
      (.ok checked)) (passes : ∀ verdict, checked = some verdict → verdict.2 = []) :
    ∀ schemaRef, contract.outputSchemaRef = some schemaRef →
      content.outputErrors env schemaRef value = .ok [] := by
  intro schemaRef isRef
  unfold RunOp.checkOutput at runs
  rw [isRef] at runs
  rcases runs.of_bind with ⟨middle, errors, evaluated, rest⟩ | ⟨error, _, impossible⟩
  · have outcome := ((RunOp.outputErrors_computes schemaRef value _ _ _).1 evaluated).2
    rcases rest.of_bind with ⟨later, item, _, returned⟩ | ⟨error, _, impossible⟩
    · cases returned with
      | ret =>
          have empty := passes _ rfl
          dsimp only at empty
          rw [← outcome, empty]
    · cases impossible
  · cases impossible

/-- What `_validate_terminal_result` makes of the reported state. -/
theorem validateTerminalResult_state {result final : ExecutionResult} {attemptId : String}
    {executionEpoch : Int} {closure : Option TaskClosure} {exported : Option CapabilityExport}
    {state state' : SlaveState}
    (runs : (RunOp.validateTerminalResult env result attemptId executionEpoch closure exported).Runs
      (ServedBy content) state state' (.ok final)) :
    final.reported? = result.reported? ∨ final.reported? = some .failed ∨
      AsksAttestation env content closure exported result.value ∧
        final.reported? = some .decisionRequired := by
  unfold RunOp.validateTerminalResult at runs
  cases isRef : contractRefFor exported closure with
  | none =>
      rw [isRef] at runs
      cases runs with
      | ret => exact Or.inl rfl
  | some contractRef =>
      rw [isRef] at runs
      rcases runs.of_bind with ⟨middle, contract, loaded, rest⟩ | ⟨error, _, impossible⟩
      · have isContract := ((RunOp.loadIoContract_computes contractRef _ _ _).1 loaded).2
        rcases rest.of_bind with ⟨later, checked, output, rest⟩ | ⟨error, _, impossible⟩
        · have judged : (∀ verdict, checked = some verdict → verdict.2 = []) →
              ∀ {last : SlaveState} {answer : Option (ValidationEvidence × Json)}
                {subject : EvidenceSubject},
                (RunOp.checkValidator env contract subject result.value).Runs (ServedBy content)
                  later last (.ok answer) →
                let judged := result.judge contract (checked.map Prod.fst).toList answer
                judged.reported? = result.reported? ∨ judged.reported? = some .failed ∨
                  AsksAttestation env content closure exported result.value ∧
                    judged.reported? = some .decisionRequired := by
            intro passes last answer subject validated
            have accepts := checkOutput_accepts output passes
            refine (@reported_judge _ contract _ _ fun isNone => ?_).imp_right
              (Or.imp_right fun asks => ?_)
            · rw [isNone] at validated
              exact checkValidator_none validated
            · exact ⟨⟨contractRef, contract, isRef, isContract.symm, asks.1, accepts⟩, asks.2⟩
          have concluded : (∀ verdict, checked = some verdict → verdict.2 = []) →
              ∀ {subject : EvidenceSubject},
                ((RunOp.checkValidator env contract subject result.value).bind fun answer =>
                  .ret (result.judge contract (checked.map Prod.fst).toList answer)).Runs
                    (ServedBy content) later state' (.ok final) →
                final.reported? = result.reported? ∨ final.reported? = some .failed ∨
                  AsksAttestation env content closure exported result.value ∧
                    final.reported? = some .decisionRequired := by
            intro passes subject ends
            rcases ends.of_bind with ⟨last, answer, validated, returned⟩ | ⟨error, _, impossible⟩
            · cases returned with
              | ret => exact judged passes validated
            · cases impossible
          rcases checked with _ | ⟨item, _ | ⟨error, errors⟩⟩
          · exact concluded (fun _ impossible => by cases impossible) rest
          · refine concluded (fun verdict same => ?_) rest
            cases same
            rfl
          · cases rest with
            | ret => exact Or.inr (Or.inl (reported_reject _ _ _ _))
        · cases impossible
      · cases impossible

/-- Evidence without errors can always be built. -/
theorem evidence_runs (subject : EvidenceSubject) (verdict : Verdict) (state : SlaveState) :
    ∃ item state', (RunOp.evidence env subject verdict []).Runs (ServedBy content) state state'
      (.ok item) :=
  ⟨_, _, .read (.write .ret)⟩

/-- A value that the output schema accepts passes the check of the output. -/
theorem checkOutput_runs {contract : IoContract} {value : Json} (subject : EvidenceSubject)
    (accepts : ∀ schemaRef, contract.outputSchemaRef = some schemaRef →
      content.outputErrors env schemaRef value = .ok []) (state : SlaveState) :
    ∃ checked state', (RunOp.checkOutput env contract subject value).Runs (ServedBy content) state
      state' (.ok checked) ∧ ∀ verdict, checked = some verdict → verdict.2 = [] := by
  unfold RunOp.checkOutput
  cases isRef : contract.outputSchemaRef with
  | none => exact ⟨none, state, .ret, fun _ impossible => by cases impossible⟩
  | some schemaRef =>
      have evaluated : (RunOp.outputErrors env schemaRef value).Runs (ServedBy content) state state
          (.ok []) :=
        (RunOp.outputErrors_computes schemaRef value _ _ _).2
          ⟨rfl, (accepts schemaRef isRef).symm⟩
      obtain ⟨item, state', made⟩ := @evidence_runs content env subject .pass state
      refine ⟨some (item, []), state', evaluated.bind (made.bind .ret), fun verdict same => ?_⟩
      cases same
      rfl

/-- A contract that asks for an attestation makes the Slave report an undecided result. -/
theorem validateTerminalResult_undecided {closure : Option TaskClosure}
    {exported : Option CapabilityExport} {result : ExecutionResult}
    (asks : AsksAttestation env content closure exported result.value) (attemptId : String)
    (executionEpoch : Int) (state : SlaveState) :
    ∃ state' final,
      (RunOp.validateTerminalResult env result attemptId executionEpoch closure exported).Runs
        (ServedBy content) state state' (.ok final) ∧
      final.reported? = some .decisionRequired := by
  obtain ⟨contractRef, contract, isRef, isContract, asks, accepts⟩ := asks
  unfold IoContract.asksAttestation at asks
  simp only [decide_eq_true_eq] at asks
  unfold RunOp.validateTerminalResult
  rw [isRef]
  have loaded : (RunOp.loadIoContract env contractRef).Runs (ServedBy content) state state
      (.ok contract) := (RunOp.loadIoContract_computes contractRef _ _ _).2 ⟨rfl, isContract.symm⟩
  let subject : EvidenceSubject :=
    { attemptId, executionEpoch, schemaRef := contract.outputSchemaRef
      validatorRef := contract.successValidatorRef
      inputDigest := (closure.bind TaskClosure.evidenceBinding).bind fun binding =>
        binding.inputRef.digest
      outputDigest := result.digest }
  obtain ⟨checked, state', output, passes⟩ := checkOutput_runs subject accepts state
  have validated : (RunOp.checkValidator env contract subject result.value).Runs (ServedBy content)
      state' state' (.ok none) := by
    unfold RunOp.checkValidator
    rw [asks.1]
    exact .ret
  have judged : (result.judge contract (checked.map Prod.fst).toList none).reported? =
      some .decisionRequired := by
    unfold ExecutionResult.judge
    dsimp only
    rw [if_pos asks.2]
    exact reported_undecide _ _
  refine ⟨state', result.judge contract (checked.map Prod.fst).toList none, ?_, judged⟩
  refine loaded.bind (output.bind ?_)
  rcases checked with _ | ⟨item, _ | ⟨error, errors⟩⟩
  · exact validated.bind .ret
  · exact validated.bind .ret
  · cases passes _ rfl

end Slave

/-! ### Observer -/

/-- How often an execution of the run was started. -/
def Core.starts (core : Core) : Nat :=
  core.passages.countP fun passage => passage.1 = .executionStarted

/-- The run cannot complete before it is started again. -/
structure Core.Barred (core : Core) : Prop where
  running : core.state ≠ .running
  completed : core.state ≠ .completed
  decision : core.state = .awaitingDecision → core.decision ≠ .str "attestation"

theorem Core.starts_move (core : Core) (event : RunEvent) (target : RunState)
    (outcome : Option Dict) :
    (core.move event target outcome).starts =
      core.starts + if event = .executionStarted then 1 else 0 := by
  unfold starts move
  dsimp only
  rw [List.countP_append, List.countP_singleton]
  simp

/-- How the transition table enters the states of an execution. -/
theorem runTransitions_into {state target : RunState} {event : RunEvent}
    (legal : runTransitions state event = some target) :
    (target = .running → event = .executionStarted) ∧
      (target = .completed → state = .running ∨
        state = .awaitingDecision ∧ event = .decisionAccepted) ∧
      (target = .awaitingDecision → state = .running) := by
  cases state <;> cases event <;> cases legal <;> simp

theorem Advances.barred {before after : Core} (advances : Advances before after) :
    before.starts ≤ after.starts ∧
      (before.Barred → after.starts = before.starts → after.Barred) := by
  cases advances with
  | steady => exact ⟨Nat.le_refl _, fun barred _ => barred⟩
  | moved event target outcome legal accepts repairs closes =>
      rw [Core.starts_move]
      refine ⟨Nat.le_add_right _ _, fun barred same => ?_⟩
      have notStarted : event ≠ .executionStarted := by
        rintro rfl
        rw [if_pos rfl] at same
        omega
      obtain ⟨starts, completes, waits⟩ := runTransitions_into legal
      refine ⟨fun running => notStarted (starts running), fun completed => ?_,
        fun awaiting => absurd (waits awaiting) barred.running⟩
      rcases completes completed with running | ⟨awaiting, accepted⟩
      · exact barred.running running
      · exact barred.decision awaiting (accepts accepted)

theorem Lawful.barred {before after : Core} (lawful : Lawful before after) :
    before.starts ≤ after.starts ∧
      (before.Barred → after.starts = before.starts → after.Barred) := by
  obtain ⟨advances, -⟩ := lawful
  induction advances with
  | refl => exact ⟨Nat.le_refl _, fun barred _ => barred⟩
  | tail _ step ih =>
      obtain ⟨more, keeps⟩ := step.barred
      refine ⟨Nat.le_trans ih.1 more, fun barred same => ?_⟩
      have unchanged := Nat.le_antisymm (by rw [← same]; exact more) ih.1
      exact keeps (ih.2 barred unchanged) (same.trans unchanged.symm)

/-- What a report does to the lifecycle: Observer asks for a decision. -/
theorem Core.needsDecision {core : Core} (running : core.state = .running) (outcome : Option Dict)
    (reason : Option Json) :
    (core.after (.setOutcome outcome)).after (.transition .runNeedsDecision reason) =
      core.move .runNeedsDecision .awaitingDecision outcome := by
  rw [Core.after_transition]
  · rfl
  · rw [Core.target_ordinary (by simp) (by simp)]
    change runTransitions core.state .runNeedsDecision = _
    rw [running]
    rfl

theorem Core.barred_repair (core : Core) {outcome : Dict}
    (repair : Dict.get outcome "decision" = .str "repair") :
    (core.move .runNeedsDecision .awaitingDecision (some outcome)).Barred := by
  refine ⟨RunState.noConfusion, RunState.noConfusion, fun _ attested => ?_⟩
  have same : Json.str "repair" = .str "attestation" := repair.symm.trans attested
  exact absurd same (by decide)

/-- The verdict of `record_result` is not above the state that is reported. -/
theorem terminalVerdict_le {result : Dict} {error : Option Json} {recorded reported : TerminalState}
    {terminalError : Json}
    (verdict : Op.terminalVerdict result error = .ok (recorded, terminalError))
    (isReported : TerminalState.ofReport? (Dict.get result "terminal_state") = some reported) :
    recorded ≤ reported := by
  unfold Op.terminalVerdict at verdict
  rw [isReported] at verdict
  cases error with
  | none =>
      cases verdict
      exact TerminalState.le_refl _
  | some error =>
      cases verdict
      split
      · exact TerminalState.failed_le _
      · exact TerminalState.le_refl _

/-- The verdict of `record_dynamic_node_result` is not above the state that is reported. -/
theorem nodeVerdict_le (report : NodeReport) (errors : List SchemaError) :
    (Op.nodeVerdict report errors).1 ≤ report.reported := by
  unfold Op.nodeVerdict
  split
  · exact TerminalState.le_refl _
  · exact TerminalState.failed_le _

theorem fenceNodeReport_reported {env : Env} {record : RunRecord} {nodeId : String} {result : Dict}
    {report : NodeReport} (fenced : fenceNodeReport env record nodeId (.obj result) = .ok report) :
    TerminalState.ofReport? (Dict.get result "terminal_state") = some report.reported := by
  simp only [fenceNodeReport, bind, Except.bind] at fenced
  iterate 11
    split at fenced
    · cases fenced
  split at fenced
  · cases fenced
  rename_i reported isReported
  split at fenced
  · cases fenced
    exact isReported
  · split at fenced
    · cases fenced
    · cases fenced
      exact isReported
  · cases fenced

section Reports

variable {env : Env} {ok : (query : Query) → Answer query → Prop}

/-- The records of a run before and after a write block. -/
theorem Performs.records {answers : (query : Query) → Answer query → Prop} {call : Call}
    {before after : Repo} {site : Site} {updates : List RecordWrite} {fate : Fate} {runId : String}
    (performs : Performs env answers call before after site updates fate)
    (names : call.runId? = some runId) :
    before.run? runId = some site.record ∧
      after.run? runId = some (applyAll updates site.record) := by
  have found := performs.named runId names
  refine ⟨Repo.run?_eq_some.2 ⟨site.address, found, ?_⟩, Repo.run?_eq_some.2 ⟨site.address, ?_, ?_⟩⟩
  · rw [performs.start.heap]
    rfl
  · have runs := performs.final.runs
    rw [applyAll_writesAt] at runs
    unfold Repo.address? at found ⊢
    rw [runs]
    change site.start.runs.lookup runId = _
    rw [← performs.start.runs]
    exact found
  · rw [performs.final.heap, applyAll_writesAt]
    change Function.update site.start.heap site.address _ site.address = _
    rw [Function.update_self]
    rfl

/-- The call reports a result with a terminal state for the run. -/
inductive Reports (runId state : String) : Call → Prop where
  | result {report : Dict} (same : Dict.get report "terminal_state" = .str state) :
      Reports runId state (.recordResult runId report)
  | node {nodeId : String} {report : Dict}
      (same : Dict.get report "terminal_state" = .str state) :
      Reports runId state (.recordDynamicNodeResult runId nodeId (.obj report))

/-- What a report makes of the record of its run: no attempt and no run gets a state above the
reported one, and after a failed result the run cannot complete before it is started again. -/
structure Recorded (reported : TerminalState) (record record' : RunRecord) : Prop where
  attempts : ∀ (index : Nat) (attempt attempt' : Attempt), record.attempts[index]? = some attempt →
    record'.attempts[index]? = some attempt' → attempt' = attempt ∨
      ∃ recorded : TerminalState, recorded ≤ reported ∧ attempt'.state = recorded.attemptState
  completes : record'.state = .completed → record.state = .completed ∨ reported = .completed
  bars : reported = .failed → record' = record ∨ record'.core.Barred

theorem Recorded.refl (reported : TerminalState) (record : RunRecord) :
    Recorded reported record record :=
  ⟨fun _ _ _ found found' => Or.inl (Option.some.inj (found'.symm.trans found)), Or.inl,
    fun _ => Or.inl rfl⟩

/-- The attempts after one of them got a verdict. -/
theorem attempts_update {record : RunRecord} {updates : List RecordWrite} {index : Nat}
    {change : AttemptUpdate} {recorded reported : TerminalState} (below : recorded ≤ reported)
    (state : change.state = recorded.attemptState)
    (attempts : (updates.foldl Board.after record.board).attempts =
      record.attempts.modify index fun attempt => attempt.update change) :
    ∀ (position : Nat) (attempt attempt' : Attempt), record.attempts[position]? = some attempt →
      (applyAll updates record).attempts[position]? = some attempt' → attempt' = attempt ∨
      ∃ recorded : TerminalState, recorded ≤ reported ∧ attempt'.state = recorded.attemptState := by
  intro position attempt attempt' found found'
  have same : (applyAll updates record).attempts = _ :=
    congrArg Board.attempts (Board.board_applyAll updates record)
  rw [same, attempts, List.getElem?_modify, found] at found'
  change some (if index = position then attempt.update change else attempt) = _ at found'
  split at found'
  · cases found'
    exact Or.inr ⟨recorded, below, state⟩
  · cases found'
    exact Or.inl rfl

/-- The record after a verdict that is not a completion: the run awaits a decision. -/
theorem recorded_undecided {record : RunRecord} {updates : List RecordWrite} {index : Nat}
    {change : AttemptUpdate} {recorded reported : TerminalState} (below : recorded ≤ reported)
    (state : change.state = recorded.attemptState)
    (attempts : (updates.foldl Board.after record.board).attempts =
      record.attempts.modify index fun attempt => attempt.update change)
    (running : record.state = .running) (outcome : Dict) (reason : Option Json)
    (moved : updates.foldl Core.after record.core =
      (record.core.after (.setOutcome (some outcome))).after (.transition .runNeedsDecision reason))
    (repairs : recorded = .failed → Dict.get outcome "decision" = .str "repair") :
    Recorded reported record (applyAll updates record) := by
  have core : (applyAll updates record).core =
      record.core.move .runNeedsDecision .awaitingDecision (some outcome) := by
    rw [Core.core_applyAll, moved, Core.needsDecision running]
  refine ⟨attempts_update below state attempts, fun completed => ?_, fun failed => Or.inr ?_⟩
  · have awaiting : (applyAll updates record).state = .awaitingDecision := congrArg Core.state core
    rw [awaiting] at completed
    cases completed
  · rw [core]
    rw [failed] at below
    exact record.core.barred_repair (repairs (TerminalState.eq_failed below))

/-- The record after a completed result of an attempt. -/
theorem recorded_completed {record : RunRecord} {updates : List RecordWrite} {index : Nat}
    {change : AttemptUpdate} {reported : TerminalState}
    (below : TerminalState.completed ≤ reported)
    (state : change.state = TerminalState.completed.attemptState)
    (attempts : (updates.foldl Board.after record.board).attempts =
      record.attempts.modify index fun attempt => attempt.update change) :
    Recorded reported record (applyAll updates record) := by
  refine ⟨attempts_update below state attempts, fun _ => Or.inr ?_, fun failed => ?_⟩
  · cases reported with
    | completed => rfl
    | failed => cases TerminalState.eq_failed below
    | decisionRequired => exact absurd below (by change ¬2 ≤ 1; omega)
  · rw [failed] at below
    cases TerminalState.eq_failed below

/-- `record_result` records at most the state that was reported. -/
theorem Change.recorded_result {site : Site} {runId : String} {report : Dict}
    {updates : List RecordWrite} {fate : Fate} {reported : TerminalState}
    (change : Change env ok Repo.Still site (.recordResult runId report) updates fate)
    (still : site.before.Still site.start)
    (isReported : TerminalState.ofReport? (Dict.get report "terminal_state") = some reported) :
    Recorded reported site.record (applyAll updates site.record) := by
  have sameState := still_state still
  cases change with
  | rejected fenced judged evidence rejection running =>
      exact recorded_undecided (TerminalState.failed_le reported) rfl rfl running _
        (some (schemaMismatch rejection.errors)) rfl fun _ => by simp [repairOutcome]
  | rejectedLate fenced evidence rejection illegal =>
      obtain ⟨attempt, fence⟩ := fenceReport_ok fenced
      exact absurd (sameState.trans fence.running) illegal
  | settled fenced settled reason phase error resourceRef evidenceId running =>
      have below := terminalVerdict_le settled.verdict isReported
      cases isState : settled.terminalState with
      | failed =>
          rw [isState] at below
          exact recorded_undecided below rfl rfl running _ reason rfl
            fun _ => by simp [resultOutcome, repairOutcome]
      | decisionRequired =>
          rw [isState] at below
          refine recorded_undecided below rfl rfl running
            (resultOutcome .decisionRequired settled.terminalError settled.evidence report) reason
            rfl fun impossible => ?_
          cases impossible
      | completed =>
          rw [isState] at below
          exact recorded_completed below rfl rfl
  | settledUnreadable fenced settled reason error failed unreadable running =>
      exact recorded_undecided (TerminalState.failed_le reported) rfl rfl running _ reason rfl
        fun _ => by simp [resultOutcome, repairOutcome]
  | settledLate fenced settled illegal =>
      obtain ⟨attempt, fence⟩ := fenceReport_ok fenced
      exact absurd (sameState.trans fence.running) illegal

/-- `record_dynamic_node_result` records at most the state that was reported. -/
theorem Change.recorded_node {site : Site} {runId nodeId : String} {report : Dict}
    {updates : List RecordWrite} {fate : Fate} {reported : TerminalState}
    (change : Change env ok Repo.Still site (.recordDynamicNodeResult runId nodeId (.obj report))
      updates fate)
    (still : site.before.Still site.start)
    (isReported : TerminalState.ofReport? (Dict.get report "terminal_state") = some reported) :
    Recorded reported site.record (applyAll updates site.record) := by
  have sameState := still_state still
  have below : ∀ {parsed : NodeReport} (errors : List SchemaError),
      fenceNodeReport env site.loaded nodeId (.obj report) = .ok parsed →
      (Op.nodeVerdict parsed errors).1 ≤ reported := by
    intro parsed errors fenced
    have same := (fenceNodeReport_reported fenced).symm.trans isReported
    cases same
    exact nodeVerdict_le parsed errors
  have repairs : ∀ {parsed : NodeReport} (settled : NodeSettled env ok runId parsed),
      settled.terminalState = .failed →
      Dict.get (Op.nodeOutcome parsed site.record settled.resultRef settled.terminalState
        settled.terminalError) "decision" = .str "repair" := by
    intro parsed settled failed
    rw [failed]
    simp [Op.nodeOutcome, outcomeOf]
  cases change with
  | nodeCompleted fenced settled provenance completed =>
      have isBelow := below settled.errors fenced
      change settled.terminalState ≤ reported at isBelow
      rw [completed] at isBelow
      exact recorded_completed isBelow (congrArg TerminalState.attemptState completed) rfl
  | nodeCompletedUnresolved fenced settled error completed unresolved =>
      have isBelow := below settled.errors fenced
      change settled.terminalState ≤ reported at isBelow
      rw [completed] at isBelow
      exact recorded_completed isBelow (congrArg TerminalState.attemptState completed) rfl
  | nodeUndecided fenced settled provenance reason undecided running =>
      exact recorded_undecided (below settled.errors fenced) rfl rfl running _ reason rfl
        (repairs settled)
  | nodeUndecidedUnresolved fenced settled reason error undecided running unresolved =>
      exact recorded_undecided (below settled.errors fenced) rfl rfl running _ reason rfl
        (repairs settled)
  | nodeLate fenced settled undecided illegal =>
      exact absurd (sameState.trans (fenceNodeReport_ok fenced).running) illegal

/-- Observer records a report at most as the state that was reported. -/
theorem Reports.recorded {runId state : String} {call : Call} {reported : TerminalState}
    {before after : Repo} {result : Except Exc Reply} {record record' : RunRecord}
    (reports : Reports runId state call)
    (isReported : TerminalState.ofReport? (.str state) = some reported)
    (runs : (call.prog env).Runs ok before after result)
    (found : before.run? runId = some record) (found' : after.run? runId = some record') :
    Recorded reported record record' := by
  have known : call.runId? = some runId ∧ call.isSingle = true := by
    cases reports with
    | result same => exact ⟨rfl, rfl⟩
    | node same => exact ⟨rfl, rfl⟩
  cases Call.performed known.2 runs with
  | idle same =>
      have unchanged : after.run? runId = before.run? runId := by
        unfold Repo.run? Repo.address?
        rw [same.heap, same.runs]
      rw [unchanged, found] at found'
      cases found'
      exact .refl reported record
  | wrote site updates fate performs ends =>
      obtain ⟨isRecord, isRecord'⟩ := performs.records known.1
      rw [isRecord] at found
      rw [isRecord'] at found'
      cases found
      cases found'
      have change := performs.change
      cases reports with
      | result same =>
          rw [← same] at isReported
          exact change.recorded_result performs.undisturbed.still isReported
      | node same =>
          rw [← same] at isReported
          exact change.recorded_node performs.undisturbed.still isReported

theorem Recorded.mono {validated reported : TerminalState} {record record' : RunRecord}
    (recorded : Recorded validated record record') (below : validated ≤ reported) :
    Recorded reported record record' := by
  refine ⟨fun index attempt attempt' found found' => ?_, fun completed => ?_, fun failed => ?_⟩
  · rcases recorded.attempts index attempt attempt' found found' with same | ⟨state, less, isState⟩
    · exact Or.inl same
    · exact Or.inr ⟨state, TerminalState.le_trans less below, isState⟩
  · rcases recorded.completes completed with before | isCompleted
    · exact Or.inl before
    · rw [isCompleted] at below
      cases reported with
      | completed => exact Or.inr rfl
      | failed => cases TerminalState.eq_failed below
      | decisionRequired => exact absurd below (by change ¬2 ≤ 1; omega)
  · rw [failed] at below
    exact recorded.bars (TerminalState.eq_failed below)

/-- A run that is barred stays so in every later history in which it is not started again. -/
theorem barred_lasts {after repo' : Repo} {more : List (Entry Repo Exc Answer Reply Call)}
    {runId : String} {record' record'' : RunRecord} (allocated : after.Allocated)
    (later : History (Call.prog env) ok after more repo')
    (fresh : ∀ entry ∈ more, entry.before.isFresh env entry.label)
    (found' : after.run? runId = some record') (found'' : repo'.run? runId = some record'')
    (barred : record'.core.Barred) (unstarted : record''.core.starts = record'.core.starts) :
    record''.core.Barred := by
  have rule : Rule env ok (fun _ _ => True)
    fun before after => Lawful before.record.core after.record.core := lawful_rule
  obtain ⟨record, found, lawful⟩ :=
    rule.lasts later allocated (fun _ _ => trivial) fresh found'
  rw [found''] at found
  cases found
  exact (lawful.barred).2 barred unstarted

/-- The record of the run is at most what was reported, wherever a call reports `state` for it; and
if the result was reported as failed and the call has recorded it, the run does not complete in any
later history that does not start it again. -/
def RecordsAtMost (env : Env) (ok : (query : Query) → Answer query → Prop)
    (reported : TerminalState) (state : String) : Prop :=
  ∀ {entries : List (Entry Repo Exc Answer Reply Call)} {before after : Repo} {runId : String}
    {call : Call} {result : Except Exc Reply} {record record' : RunRecord},
    Observed env ok entries before → Reports runId state call →
    (call.prog env).Runs ok before after result → before.run? runId = some record →
    after.run? runId = some record' →
    Recorded reported record record' ∧
    (reported = .failed → record' ≠ record →
      ∀ {more : List (Entry Repo Exc Answer Reply Call)} {repo' : Repo} {record'' : RunRecord},
        History (Call.prog env) ok after more repo' →
        (∀ entry ∈ more, entry.before.isFresh env entry.label) →
        repo'.run? runId = some record'' → record''.core.starts = record'.core.starts →
        record''.state ≠ .completed)

theorem recordsAtMost {validated reported : TerminalState} {state : String}
    (isValidated : TerminalState.ofReport? (.str state) = some validated)
    (below : validated ≤ reported) : RecordsAtMost env ok reported state := by
  intro entries before after runId call result record record' history reports runs found found'
  have rule : Rule env ok (fun _ _ => True)
    fun before after => Lawful before.record.core after.record.core := lawful_rule
  have allocated : before.Allocated :=
    (rule.invariant (fun _ _ _ (trivially : True) => trivially)
      (fun _ _ _ _ _ _ => trivial) history fun _ _ => trivial).1.allocated
  have recorded := (reports.recorded isValidated runs found found').mono below
  refine ⟨recorded, fun failed changed more repo' record'' later fresh found'' unstarted => ?_⟩
  rcases recorded.bars failed with same | barred
  · exact absurd same changed
  · exact (barred_lasts (rule.relates allocated trivial runs).1 later fresh found' found'' barred
      unstarted).completed

end Reports

/-- Whatever state the result reports, neither the Slave nor Observer goes above it, and a failed
result does not lead to a completed run. -/
def NeverUpgraded (env : Env) (ok : (query : Query) → Answer query → Prop) (content : Content)
    (result : ExecutionResult) (attemptId : String) (executionEpoch : Int)
    (closure : Option TaskClosure) (exported : Option CapabilityExport) : Prop :=
  ∀ (state state' : SlaveState) (final : ExecutionResult),
    (RunOp.validateTerminalResult env result attemptId executionEpoch closure exported).Runs
      (ServedBy content) state state' (.ok final) →
    ∀ reported, result.reported? = some reported →
      (∃ validated, final.reported? = some validated ∧ validated ≤ reported) ∧
      RecordsAtMost env ok reported final.terminalState

/-- Validation upgrades a result exactly if it is reported as failed and the contract asks for an
attestation of its value. -/
theorem never_upgraded_iff (env : Env) (ok : (query : Query) → Answer query → Prop)
    (content : Content) (result : ExecutionResult) (attemptId : String) (executionEpoch : Int)
    (closure : Option TaskClosure) (exported : Option CapabilityExport) :
    NeverUpgraded env ok content result attemptId executionEpoch closure exported ↔
      ¬(result.reported? = some .failed ∧
        AsksAttestation env content closure exported result.value) := by
  constructor
  · rintro never ⟨failed, asks⟩
    obtain ⟨state', final, runs, undecided⟩ :=
      validateTerminalResult_undecided asks attemptId executionEpoch {}
    obtain ⟨⟨validated, isValidated, below⟩, -⟩ := never _ _ _ runs .failed failed
    rw [undecided] at isValidated
    cases isValidated
    cases TerminalState.eq_failed below
  · intro decided state state' final runs reported isReported
    have validated : ∃ validated, final.reported? = some validated ∧ validated ≤ reported := by
      rcases validateTerminalResult_state runs with same | failed | ⟨asks, undecided⟩
      · exact ⟨reported, same.trans isReported, TerminalState.le_refl _⟩
      · exact ⟨.failed, failed, TerminalState.failed_le _⟩
      · refine ⟨.decisionRequired, undecided, ?_⟩
        cases reported with
        | completed => exact TerminalState.le_completed _
        | failed => exact absurd ⟨isReported, asks⟩ decided
        | decisionRequired => exact TerminalState.le_refl _
    obtain ⟨state, isState, below⟩ := validated
    exact ⟨⟨state, isState, below⟩, recordsAtMost isState below⟩

/-- The result of a runtime plugin that reports a failure. -/
def failedResult : ExecutionResult :=
  { resourceRef := Demo.contentRef 5, value := .int 5, terminalState := "failed"
    terminalError := .obj [("code", .str "broken")], validationEvidence := [], provenance := .null
    replaySafety := "DeclaredByPackage" }

/-- An export whose contract has success semantics and no validator. -/
def attestedExport : CapabilityExport :=
  { capabilityDescriptorRef := Demo.descriptorRef, ioContractRef := Demo.contentRef 3
    replaySafety := "DeclaredByPackage" }

/-- The calls that record the attested result and accept it. -/
def acceptedCalls : List Call :=
  Demo.started 3 ++
    [.recordResult "run" [("attempt_id", .str "attempt-3"), ("execution_id", .str "execution-2"),
        ("execution_epoch", .int 1), ("value", .int 5),
        ("terminal_state", .str "decision_required")],
      .resolveRun "run" "accept"]

/-- The Slave turns a failed result into one that awaits an attestation, and the run completes when
the user accepts it. -/
theorem failed_result_accepted :
    ¬NeverUpgraded Demo.env (fun _ _ => True) Demo.contentOf failedResult "attempt-3" 1 none
      (some attestedExport) ∧
    ((Demo.after (Demo.usually acceptedCalls)).2.run? "run").map (fun record =>
      (record.state, record.core.starts)) = some (.completed, 1) := by
  refine ⟨fun never => ?_, by decide +kernel⟩
  have asks : AsksAttestation Demo.env Demo.contentOf none (some attestedExport)
      failedResult.value := by
    refine ⟨Demo.contentRef 3, { successSemantics := .str "the user is satisfied" }, rfl, ?_, rfl,
      fun schemaRef impossible => by cases impossible⟩
    decide +kernel
  obtain ⟨state', final, runs, undecided⟩ := validateTerminalResult_undecided asks "attempt-3" 1 {}
  obtain ⟨⟨validated, isValidated, below⟩, -⟩ := never _ _ _ runs .failed rfl
  rw [undecided] at isValidated
  cases isValidated
  cases TerminalState.eq_failed below

end Loom
