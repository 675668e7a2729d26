import Loom.Observer.Provenance

/-!
# Segments of node results and of the completion of an orchestration
-/

namespace Loom

open Coroutine
open Prog (Does)

namespace Op

variable {env : Env} {ok : (query : Query) → Answer query → Prop} {rely : Repo → Repo → Prop}
variable {runId nodeId : String} {before : Repo} {address : Nat}
variable {origin : Origin Repo Query} {made : List Write}

/-! ### Node results -/

theorem settleNode_does {result : Json} {report : NodeReport}
    (found : before.address? runId = some address)
    (reached : Reached rely ⟨some (.load runId), before⟩ [] origin made)
    (fenced : fenceNodeReport env (before.heap address) nodeId result = .ok report)
    (settled : NodeSettled env ok runId report) :
    Does ok rely (blockOf env ok rely (.recordDynamicNodeResult runId nodeId result) .node)
      (settleNode env address runId report settled.resultRef settled.evidence
        settled.terminalState settled.terminalError) origin made := by
  have calm : Calm (.recordDynamicNodeResult runId nodeId result) origin made :=
    calm_reached reached
  unfold settleNode
  rw [does_modify, does_modify]
  simp only [List.append_assoc, List.cons_append, List.nil_append]
  have within : ∀ (more : List Write) (updates : List RecordWrite),
      effects more = writesAt address updates → (∀ update ∈ updates, update.keepsTask) →
      (applyAll (made ++ more) origin.start).provenance env
          ((applyAll (made ++ more) origin.start).heap address) none =
        origin.start.provenance env (origin.start.heap address) none := by
    intro more updates writes keep
    refine provenance_within updates ?_ keep
    rw [effects_append, calm.untouched, writes]
    rfl
  split
  · rename_i completed
    rw [does_pure_bind, does_recordAt,
      calm.heap_at _ address [.updateAttempt _ _, .setNodeState _ _] rfl, does_provenance,
      within _ [.updateAttempt _ _, .setNodeState _ _] rfl (by simp [RecordWrite.keepsTask])]
    refine ⟨fun provenance _ => ?_, fun error unresolved => ?_⟩
    · rw [does_appendEvent]
      simp only [List.append_assoc, List.cons_append, List.nil_append]
      exact does_stored (block_of_stored rfl found reached
        (.nodeCompleted fenced settled provenance completed) rfl)
    · exact block_of_raised rfl found reached
        (.nodeCompletedUnresolved fenced settled error completed unresolved) rfl
  · rename_i undecided
    rw [does_recordAt, calm.heap_at _ address [.updateAttempt _ _, .setNodeState _ _] rfl,
      does_modify, does_transition]
    simp only [List.append_assoc, List.cons_append, List.nil_append]
    rw [calm.heap_at _ address [.updateAttempt _ _, .setNodeState _ _, .setOutcome _] rfl,
      RunRecord.transitionTarget_runNeedsDecision]
    refine ⟨fun running => ?_, fun illegal => ?_⟩
    · rw [does_recordAt, calm.heap_at _ address [.updateAttempt _ _, .setNodeState _ _,
          .setOutcome _, .transition _ _] rfl, does_provenance,
        within _ [.updateAttempt _ _, .setNodeState _ _, .setOutcome _, .transition _ _] rfl
          (by simp [RecordWrite.keepsTask])]
      refine ⟨fun provenance _ => ?_, fun error unresolved => ?_⟩
      · rw [applyAll_cons, applyAll_cons, applyAll_cons, applyAll_cons, applyAll_nil,
          transition_executionId, does_appendEvent]
        simp only [List.append_assoc, List.cons_append, List.nil_append]
        exact does_stored (block_of_stored rfl found reached
          (.nodeUndecided fenced settled provenance _ undecided running) rfl)
      · exact block_of_raised rfl found reached
          (.nodeUndecidedUnresolved fenced settled _ error undecided running unresolved) rfl
    · exact block_of_raised rfl found reached (.nodeLate fenced settled undecided
        fun same => RunRecord.transitionTarget_runNeedsDecision.2 same illegal) rfl

theorem recordDynamicNodeResult_does (tolerant : Tolerant rely) (runId nodeId : String)
    (result : Json) (state : Repo) :
    Does ok rely (blockOf env ok rely (.recordDynamicNodeResult runId nodeId result) .node)
      (recordDynamicNodeResult env runId nodeId result) ⟨none, state⟩ [] := by
  refine does_loaded Calm.first fun before address _ found => ?_
  rw [does_recordAt]
  refine does_excepted Calm.loaded fun report fenced => ?_
  refine does_reads tolerant (reads_judgeNode env _ _) Calm.loaded ?_
  intro origin made verdict reached calm judged
  obtain ⟨evidence, errors⟩ := verdict
  dsimp only
  refine does_excepted calm fun content isContent => ?_
  refine does_reads tolerant (reads_contentPut env _ _) calm ?_
  intro origin made resultRef later calm stored
  exact settleNode_does found (reached.trans tolerant.minor later) fenced
    ⟨evidence, errors, resultRef, judged, content, isContent, stored⟩

/-! ### Failing a node -/

theorem failDynamicNode_does (runId nodeId : String) (attemptId : Option String)
    (error : Option Json) (state : Repo) :
    Does ok rely (blockOf env ok rely (.failDynamicNode runId nodeId attemptId error) .node)
      (failDynamicNode env runId nodeId attemptId error) ⟨none, state⟩ [] := by
  refine does_loaded Calm.first fun before address _ found => ?_
  have calm : Calm (.failDynamicNode runId nodeId attemptId error)
      ⟨some (.load runId), before⟩ [] := Calm.loaded
  rw [does_recordAt]
  split
  · exact calm.block _ rfl
  · rename_i nodeIndex nodeFound
    dsimp only
    refine does_checked calm fun isObject => does_checked calm fun current => ?_
    rw [does_modify, does_modify, does_transition,
      heap_at _ _ address [.setNodeState _ _, .failActive _ _ _] rfl,
      RunRecord.transitionTarget_runNeedsDecision]
    refine ⟨fun running => ?_, fun illegal => ?_⟩
    · rw [does_modify, does_provenance, provenance_within [.setNodeState _ _,
          .failActive _ _ _, .transition _ _, .setOutcome _] rfl (by simp [RecordWrite.keepsTask])]
      refine ⟨fun provenance _ => ?_, fun unknown unresolved => ?_⟩
      · rw [does_appendEvent, does_appendEvent]
        exact does_stored (block_of_stored rfl found .refl
          (.nodeFailed nodeIndex _ provenance nodeFound isObject current running) rfl)
      · exact block_of_raised rfl found .refl
          (.nodeFailedUnresolved nodeIndex unknown nodeFound isObject current running
            unresolved) rfl
    · exact block_of_raised rfl found .refl (.nodeFailedLate nodeIndex nodeFound isObject current
        fun same => RunRecord.transitionTarget_runNeedsDecision.2 same illegal) rfl

/-! ### Completing an orchestration -/

theorem start_of_reached (tolerant : Tolerant rely)
    (reached : Reached rely ⟨some (.load runId), before⟩ [] origin made) :
    rely before origin.start := by
  cases reached with
  | here more areMinor => exact tolerant.refl _
  | later query state more isService moved areMinor => exact moved

theorem start_of_reached_twice {origin' : Origin Repo Query} {made' : List Write}
    (tolerant : Tolerant rely)
    (first : Reached rely ⟨some (.load runId), before⟩ [] origin made)
    (second : Reached rely origin made origin' made') : rely origin.start origin'.start := by
  cases second with
  | here more areMinor => exact tolerant.refl _
  | later query state more isService moved areMinor =>
      refine tolerant.trans ?_ moved
      cases first with
      | here earlier areEarlierMinor => exact tolerant.minor.applyAll _ areEarlierMinor _
      | later query' state' earlier isService' moved' areEarlierMinor =>
          exact tolerant.minor.applyAll _ areEarlierMinor _

/-- The judgement of a final value does not depend on the uuids drawn since. -/
def finalAt {site : Site} {finalRef : ResourceRef} (final : Final env ok rely site finalRef)
    (uuids : Nat) : Final env ok rely { site with uuids } finalRef :=
  { contractRef := final.contractRef, value := final.value, middle := final.middle
    provenance := final.provenance, digest := final.digest, errors := final.errors
    fenced := final.fenced, loaded := final.loaded, digested := final.digested
    middleAfter := final.middleAfter, middleBefore := final.middleBefore
    validated := final.validated }

theorem settleOrchestration_does {finalRef : ResourceRef}
    (found : before.address? runId = some address)
    (reached : Reached rely ⟨some (.load runId), before⟩ [] origin made)
    (final : Final env ok rely ⟨address, before, origin.start, 0⟩ finalRef) :
    Does ok rely (blockOf env ok rely (.completeOrchestration runId finalRef) .run)
      (settleOrchestration address runId finalRef final.value final.errors final.lineage
        final.provenance) origin made := by
  have calm : Calm (.completeOrchestration runId finalRef) origin made := calm_reached reached
  unfold settleOrchestration
  rw [does_recordAt, calm.heap]
  dsimp only
  split
  · rename_i rejected
    rw [does_transition, calm.heap, RunRecord.transitionTarget_runNeedsDecision]
    refine ⟨fun running => ?_, fun _ => calm.block _ rfl⟩
    rw [does_modify, does_appendEvent]
    simp only [List.append_assoc, List.cons_append, List.nil_append]
    exact does_stored (block_of_stored rfl found reached
      (.finalRejected (finalAt final _) rejected running) rfl)
  · rename_i valid
    have valid := not_not.1 valid
    split
    · rename_i asks
      rw [does_transition, calm.heap, RunRecord.transitionTarget_runNeedsDecision]
      refine ⟨fun running => ?_, fun _ => calm.block _ rfl⟩
      rw [does_modify, does_appendEvent]
      simp only [List.append_assoc, List.cons_append, List.nil_append]
      exact does_stored (block_of_stored rfl found reached
        (.finalUndecided (finalAt final _) valid asks running) rfl)
    · rename_i asksNot
      rw [does_transition, calm.heap, RunRecord.transitionTarget_runSucceeded]
      refine ⟨fun running => ?_, fun _ => calm.block _ rfl⟩
      rw [does_modify, does_appendEvent]
      simp only [List.append_assoc, List.cons_append, List.nil_append]
      exact does_stored (block_of_stored rfl found reached
        (.finalCompleted (finalAt final _) valid (Bool.eq_false_iff.2 asksNot) running) rfl)

theorem completeOrchestration_does (tolerant : Tolerant rely) (runId : String)
    (finalRef : ResourceRef) (state : Repo) :
    Does ok rely (blockOf env ok rely (.completeOrchestration runId finalRef) .run)
      (completeOrchestration env runId finalRef) ⟨none, state⟩ [] := by
  refine does_loaded Calm.first fun before address _ found => ?_
  rw [does_recordAt]
  refine does_excepted Calm.loaded fun contractRef fenced => ?_
  refine does_reads tolerant (reads_loadFinal env _ _) Calm.loaded ?_
  intro middle made value reached calm loaded
  dsimp only
  have go : ∀ digest, (∀ final, value.value = some final → env.resultDigest final = .ok digest) →
      Does ok rely (blockOf env ok rely (.completeOrchestration runId finalRef) .run) (do
        let repo ← Prog.get
        let package := (before.heap address).snapshot.programSystems.packageRef.bind fun ref =>
          repo.findPackage ref (some runId)
        let provenance ← provenance env address package
        let lineage := (repo.heap address).lineage provenance
        let errors := value.errors ++
          (if value.value.isSome then finalRefErrors finalRef digest lineage else [])
        let errors ← validateFinal env value errors
        settleOrchestration address runId finalRef value errors lineage provenance)
        middle made := by
    intro digest digested
    rw [does_get, does_provenance]
    refine ⟨fun provenance _ => ?_, fun error _ => calm.block _ rfl⟩
    refine does_reads tolerant (reads_validateFinal env _ _) calm ?_
    intro origin made' errors later _ validated
    rw [calm.heap] at validated ⊢
    exact settleOrchestration_does found (reached.trans tolerant.minor later)
      { contractRef, value, middle := middle.start, provenance, digest, errors, fenced, loaded
        digested, middleAfter := start_of_reached tolerant reached
        middleBefore := start_of_reached_twice tolerant reached later, validated }
  split
  · rename_i final isFinal
    refine does_excepted calm fun digest digested => go digest ?_
    intro other isOther
    rw [isFinal, Option.some.injEq] at isOther
    rwa [← isOther]
  · rename_i isNone
    refine go "" ?_
    intro other isOther
    rw [isNone] at isOther
    cases isOther

end Op

end Loom
