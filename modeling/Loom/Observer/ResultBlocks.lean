import Loom.Observer.Rules

/-!
# Segments of a result report
-/

namespace Loom

open Coroutine
open Prog (Does)

namespace Op

variable {env : Env} {ok : (query : Query) → Answer query → Prop} {rely : Repo → Repo → Prop}
variable {runId : String} {result : Dict} {before : Repo} {address : Nat} {report : Report}
variable {origin : Origin Repo Query} {made : List Write}

theorem rejectOutput_does (found : before.address? runId = some address)
    (reached : Reached rely ⟨some (.load runId), before⟩ [] origin made)
    (fenced : fenceReport env (before.heap address) result = .ok report)
    (judged : Judged env ok (before.heap address) report) (evidence : List ValidationEvidence)
    (rejection : ValidationEvidence) :
    Does ok rely (blockOf env ok rely (.recordResult runId result) .run)
      (rejectOutput address report result evidence rejection) origin made := by
  have calm : Calm (.recordResult runId result) origin made := calm_reached reached
  unfold rejectOutput
  rw [does_modify]
  dsimp only
  rw [does_modify, does_transition]
  simp only [List.append_assoc, List.cons_append, List.nil_append]
  rw [calm.heap_at _ address [.updateAttempt _ _, .setOutcome _] rfl,
    RunRecord.transitionTarget_runNeedsDecision]
  refine ⟨fun running => ?_, fun illegal => ?_⟩
  · rw [does_recordAt]
    rw [calm.heap_at _ address [.updateAttempt _ _, .setOutcome _, .transition _ _] rfl,
      applyAll_cons, applyAll_cons, applyAll_cons, applyAll_nil, transition_executionId,
      does_appendEvent]
    simp only [List.append_assoc, List.cons_append, List.nil_append]
    exact does_stored (block_of_stored rfl found reached
      (.rejected fenced judged evidence rejection running) rfl)
  · exact block_of_raised rfl found reached (.rejectedLate fenced evidence rejection
      fun same => RunRecord.transitionTarget_runNeedsDecision.2 same illegal) rfl

/-- The transition of an accepted report and what follows it. -/
theorem settleResult_does (found : before.address? runId = some address)
    (reached : Reached rely ⟨some (.load runId), before⟩ [] origin made)
    (fenced : fenceReport env (before.heap address) result = .ok report)
    (settled : Settled env ok (before.heap address) result report)
    (observed : Option ValidationEvidence) :
    Does ok rely (blockOf env ok rely (.recordResult runId result) .run)
      (settleResult address report result settled.evidence observed settled.terminalState
        settled.terminalError) origin made := by
  have calm : Calm (.recordResult runId result) origin made := calm_reached reached
  have late : ∀ running : ¬(origin.start.heap address).state = .running,
      Block env ok rely (.recordResult runId result) origin (made ++
        [.record address (.updateAttempt report.attemptIndex
            { state := settled.terminalState.attemptState }),
          .record address (.setOutcome (some (resultOutcome settled.terminalState
            settled.terminalError settled.evidence result)))]) (.raises illegalTransition) :=
    fun illegal => block_of_raised rfl found reached (.settledLate fenced settled illegal) rfl
  have log : ∀ (reason : Option Json) (phase : ResultPhase) (error resourceRef : Json)
      (evidenceId : Option String), (origin.start.heap address).state = .running →
      Does ok rely (blockOf env ok rely (.recordResult runId result) .run) (do
        let record ← recordAt address
        appendEvent address (.resultRecorded phase record.executionId report.attemptId
          report.executionEpoch error resourceRef evidenceId)
        persist address
        .ret address) origin (made ++
          [.record address (.updateAttempt report.attemptIndex
              { state := settled.terminalState.attemptState }),
            .record address (.setOutcome (some (resultOutcome settled.terminalState
              settled.terminalError settled.evidence result))),
            .record address (.transition settled.terminalState.runEvent reason)]) := by
    intro reason phase error resourceRef evidenceId running
    rw [does_recordAt,
      calm.heap_at _ address [.updateAttempt _ _, .setOutcome _, .transition _ _] rfl,
      applyAll_cons, applyAll_cons, applyAll_cons, applyAll_nil, transition_executionId,
      does_appendEvent]
    simp only [List.append_assoc, List.cons_append, List.nil_append]
    exact does_stored (block_of_stored rfl found reached
      (.settled fenced settled reason phase error resourceRef evidenceId running) rfl)
  unfold settleResult
  rw [does_modify, does_modify]
  simp only [List.append_assoc, List.cons_append, List.nil_append]
  have decide : ∀ {reason : Option Json} {rest : Unit → Op Nat},
      ((origin.start.heap address).state = .running →
        Does ok rely (blockOf env ok rely (.recordResult runId result) .run) (rest ()) origin
          (made ++ [Write.record address (.updateAttempt report.attemptIndex
              { state := settled.terminalState.attemptState }),
            .record address (.setOutcome (some (resultOutcome settled.terminalState
              settled.terminalError settled.evidence result))),
            .record address (.transition settled.terminalState.runEvent reason)])) →
      Does ok rely (blockOf env ok rely (.recordResult runId result) .run)
        (transition address settled.terminalState.runEvent reason >>= rest) origin
        (made ++ [Write.record address (.updateAttempt report.attemptIndex
            { state := settled.terminalState.attemptState }),
          .record address (.setOutcome (some (resultOutcome settled.terminalState
            settled.terminalError settled.evidence result)))]) := by
    intro reason rest goes
    have legal : ∀ record : RunRecord,
        record.transitionTarget settled.terminalState.runEvent ≠ none ↔
          record.state = .running := by
      intro record
      cases settled.terminalState with
      | failed => exact RunRecord.transitionTarget_runNeedsDecision
      | decisionRequired => exact RunRecord.transitionTarget_runNeedsDecision
      | completed => exact RunRecord.transitionTarget_runSucceeded
    rw [does_transition, calm.heap_at _ address [.updateAttempt _ _, .setOutcome _] rfl, legal]
    refine ⟨fun running => ?_, fun illegal => late fun running => ?_⟩
    · simpa only [List.append_assoc, List.cons_append, List.nil_append] using goes running
    · exact absurd illegal ((legal _).2 running)
  cases state : settled.terminalState with
  | failed =>
      rw [state] at late log decide
      refine decide fun running => ?_
      rw [does_ofExcept]
      refine ⟨fun phase _ => log _ _ _ _ _ running, fun error unreadable => ?_⟩
      exact block_of_raised rfl found reached
        (.settledUnreadable fenced settled _ error state unreadable running) rfl
  | decisionRequired =>
      rw [state] at late log decide
      exact decide fun running => log _ _ _ _ _ running
  | completed =>
      rw [state] at late log decide
      exact decide fun running => log _ _ _ _ _ running

theorem recordResult_does (tolerant : Tolerant rely) (runId : String) (result : Dict)
    (state : Repo) :
    Does ok rely (blockOf env ok rely (.recordResult runId result) .run)
      (recordResult env runId result) ⟨none, state⟩ [] := by
  refine does_loaded Calm.first fun before address moved found => ?_
  rw [does_recordAt]
  refine does_excepted Calm.loaded fun report fenced => ?_
  refine does_reads tolerant (reads_loadCommittedContract env _) Calm.loaded ?_
  intro origin made contract reached calm contractLoaded
  dsimp only
  refine does_excepted calm fun _ _ => ?_
  refine does_reads tolerant (reads_observeSchema env _ _ _) calm ?_
  intro origin made schema later calm schemaObserved
  have reached := reached.trans tolerant.minor later
  split
  · exact rejectOutput_does found reached fenced
      ⟨contract, schema, contractLoaded, schemaObserved⟩ _ _
  · rename_i passed
    refine does_reads tolerant (reads_observeValidator env _ _ _) calm ?_
    intro origin made validator later calm validatorObserved
    have reached := reached.trans tolerant.minor later
    refine does_excepted calm fun verdict decided => ?_
    obtain ⟨terminalState, terminalError⟩ := verdict
    have schemaPassed : ∀ verdict, schema = some verdict → verdict.2 = [] := by
      intro verdict same
      subst same
      by_contra fails
      simp [Option.filter, fails] at passed
    exact settleResult_does found reached fenced
      ⟨⟨contract, schema, contractLoaded, schemaObserved⟩, validator, terminalState,
        terminalError, _, schemaPassed, validatorObserved, decided⟩ _

end Op

end Loom
