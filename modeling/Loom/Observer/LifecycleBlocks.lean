import Loom.Observer.Rules

/-!
# Segments of the lifecycle operations
-/

namespace Loom

open Coroutine
open Prog (Does)

/-- The state of a record after a legal transition and a new outcome. -/
theorem resolved_state {record : RunRecord} {event : RunEvent} {target : RunState}
    {reason : Option Json} {outcome : Option Dict}
    (legal : record.transitionTarget event = some target) :
    (applyAll [RecordWrite.transition event reason, .setOutcome outcome] record).state
      = target := by
  simp [apply, RecordWrite.apply, legal]

namespace Op

variable {env : Env} {ok : (query : Query) → Answer query → Prop} {rely : Repo → Repo → Prop}

theorem appendMessage_does (runId role content : String) (requestId : Option String)
    (state : Repo) :
    Does ok rely (blockOf env ok rely (.appendMessage runId role content requestId) .event)
      (appendMessage env runId role content requestId) ⟨none, state⟩ [] := by
  refine does_checked Calm.first fun _ => does_checked Calm.first fun _ => ?_
  refine does_loaded Calm.first fun before address moved found => ?_
  rw [does_recordAt]
  dsimp only
  split
  · exact (Calm.loaded).block _ rfl
  · rw [does_uuid, does_appendEvent]
    exact does_stored (block_of_stored rfl found .refl (.message _) rfl)

theorem recordAgentSignal_does (runId kind : String) (payload : Json) (state : Repo) :
    Does ok rely (blockOf env ok rely (.recordAgentSignal runId kind payload) .event)
      (recordAgentSignal runId kind payload) ⟨none, state⟩ [] := by
  refine does_loaded Calm.first fun before address moved found => ?_
  exact does_stored (block_of_stored rfl found .refl .signal rfl)

theorem beginRefinement_does (runId : String) (state : Repo) :
    Does ok rely (blockOf env ok rely (.beginRefinement runId) .run) (beginRefinement runId)
      ⟨none, state⟩ [] := by
  refine does_loaded Calm.first fun before address moved found => ?_
  rw [does_recordAt]
  split
  · rename_i opened
    rw [does_transition]
    refine ⟨fun _ => ?_, fun _ => (Calm.loaded).block _ rfl⟩
    exact does_stored (block_of_stored rfl found .refl (.refined opened) rfl)
  · split
    · exact (Calm.loaded).block _ rfl
    · exact (Calm.loaded).block _ rfl

theorem inspectReadiness_does (tolerant : Tolerant rely) (runId : String)
    (versionId : Option String) (state : Repo) :
    Does ok rely (blockOf env ok rely (.inspectReadiness runId versionId) .readiness)
      (inspectReadiness env runId versionId) ⟨none, state⟩ [] := by
  refine does_loaded Calm.first fun before address moved found => ?_
  rw [does_recordAt]
  have inspect : ∀ version : ClosureVersion,
      Does ok rely (blockOf env ok rely (.inspectReadiness runId versionId) .readiness) (do
        let readiness ← evaluateReadiness env version.snapshot runId
        appendEvent address
          (.readinessInspected runId version.versionId readiness.ready readiness.blockers)
        persist address
        .ret readiness) ⟨some (.load runId), before⟩ [] := by
    intro version
    refine does_reads tolerant (reads_evaluateReadiness env _ _) Calm.loaded ?_
    intro origin made readiness reached calm _
    rw [does_appendEvent]
    exact does_stored (block_of_stored rfl found reached (.inspected _ readiness) rfl)
  dsimp only
  split
  · exact inspect _
  · split
    · split
      · exact inspect _
      · exact (Calm.loaded).block _ rfl
    · exact (Calm.loaded).block _ rfl

theorem cancelRun_does (runId : String) (reason : Json) (state : Repo) :
    Does ok rely (blockOf env ok rely (.cancelRun runId reason) .run) (cancelRun runId reason)
      ⟨none, state⟩ [] := by
  refine does_loaded Calm.first fun before address moved found => ?_
  rw [does_recordAt]
  split
  · exact (Calm.loaded).block _ rfl
  · rename_i live
    rw [does_transition]
    refine ⟨fun _ => ?_, fun _ => (Calm.loaded).block _ rfl⟩
    rw [does_modify]
    exact does_stored
      (block_of_stored rfl found .refl (.cancelled (Bool.not_eq_true _ ▸ live)) rfl)

theorem failRun_does (runId : String) (reason : Json) (state : Repo) :
    Does ok rely (blockOf env ok rely (.failRun runId reason) .run) (failRun runId reason)
      ⟨none, state⟩ [] := by
  refine does_loaded Calm.first fun before address moved found => ?_
  rw [does_recordAt]
  split
  · exact (Calm.loaded).block _ rfl
  · rename_i live
    rw [does_transition]
    refine ⟨fun legal => ?_, fun _ => (Calm.loaded).block _ rfl⟩
    rw [does_modify]
    refine does_stored (block_of_stored rfl found .refl (.failed ?_) rfl)
    rw [RunRecord.transitionTarget_eq (by simp) (by simp)] at legal
    show (before.heap address).state = .thinking ∨ (before.heap address).state = .running
    cases state : (before.heap address).state <;> simp_all

theorem closeRun_does (runId : String) (state : Repo) :
    Does ok rely (blockOf env ok rely (.closeRun runId) .run) (closeRun runId)
      ⟨none, state⟩ [] := by
  refine does_loaded Calm.first fun before address moved found => ?_
  rw [does_recordAt]
  refine does_checked Calm.loaded fun finished => ?_
  rw [does_transition]
  refine ⟨fun _ => ?_, fun _ => (Calm.loaded).block _ rfl⟩
  rw [does_appendEvent]
  exact does_stored (block_of_stored rfl found .refl (.closed finished) rfl)

theorem resolveRun_does (runId decision : String) (state : Repo) :
    Does ok rely (blockOf env ok rely (.resolveRun runId decision) .run)
      (resolveRun runId decision) ⟨none, state⟩ [] := by
  refine does_loaded Calm.first fun before address moved found => ?_
  rw [does_recordAt]
  dsimp only
  split
  · exact (Calm.loaded).block _ rfl
  · split
    · exact (Calm.loaded).block _ rfl
    · split
      · rename_i outcome awaiting reported
        split
        · rename_i isAccept
          subst isAccept
          refine does_checked Calm.loaded fun asked => ?_
          rw [does_transition]
          refine ⟨fun _ => ?_, fun _ => (Calm.loaded).block _ rfl⟩
          rw [does_modify, does_recordAt, heap_at _ _ address [.transition .decisionAccepted none,
            .setOutcome (some (acceptedOutcome outcome))] rfl]
          have target : (before.heap address).transitionTarget .decisionAccepted =
              some .completed := by
            simp_all [RunRecord.transitionTarget, RunRecord.decision]
          rw [resolved_state target, does_appendEvent]
          exact does_stored
            (block_of_stored rfl found .refl (.accepted awaiting reported asked) rfl)
        · split
          · rename_i isAbandon
            subst isAbandon
            rw [does_transition]
            refine ⟨fun _ => ?_, fun _ => (Calm.loaded).block _ rfl⟩
            rw [does_modify, does_recordAt, heap_at _ _ address
              [.transition .decisionAbandoned none,
                .setOutcome (some (abandonedOutcome outcome))] rfl]
            have target : (before.heap address).transitionTarget .decisionAbandoned =
                some .failed := by
              rw [RunRecord.transitionTarget_eq (by simp) (by simp),
                show (before.heap address).state = .awaitingDecision from awaiting]
              rfl
            rw [resolved_state target, does_appendEvent]
            exact does_stored
              (block_of_stored rfl found .refl (.abandoned awaiting reported) rfl)
          · exact (Calm.loaded).block _ rfl
      · exact (Calm.loaded).block _ rfl

theorem does_canReplay {call : Call} {β : Type} {reply : β → Reply} {rest : Bool → Op β}
    {address : Nat} {origin : Origin Repo Query} {made : List Write}
    (calm : Calm call origin made)
    (cannot : Does ok rely (blockOf env ok rely call reply) (rest false) origin made)
    (can : (origin.start.heap address).state = .running →
      (origin.start.heap address).executionId ≠ none →
      (origin.start.heap address).isOrchestration →
      Does ok rely (blockOf env ok rely call reply) (rest true) origin made) :
    Does ok rely (blockOf env ok rely call reply) (canReplay address >>= rest) origin made := by
  unfold canReplay
  rw [does_read]
  dsimp only
  rw [calm.heap]
  split
  · rename_i replays
    split
    · exact cannot
    · rename_i package found
      rw [Prog.bind_bind]
      refine does_excepted calm fun exported _ => ?_
      rw [does_pure_bind]
      cases replayable package exported with
      | false => exact cannot
      | true => exact can replays.1 replays.2.1 replays.2.2
  · exact cannot

/-- The recovery of one record: it is checked in the segment that writes to it. -/
theorem recoverRecord_does (owners : List String) {β : Type} {reply : β → Reply}
    {rest : Bool → Op β} {address : Nat} {origin : Origin Repo Query} {made : List Write}
    (calm : Calm (.recoverStaleRuns owners) origin made)
    (skipped : Does ok rely (blockOf env ok rely (.recoverStaleRuns owners) reply) (rest false)
      origin made)
    (recovered : ∀ record state,
      Does ok rely (blockOf env ok rely (.recoverStaleRuns owners) reply) (rest true)
        ⟨some (.persist record), state⟩ []) :
    Does ok rely (blockOf env ok rely (.recoverStaleRuns owners) reply)
      (recoverRecord owners address >>= rest) origin made := by
  have place : ∀ final : List Write, Site.Place
      ⟨address, origin.start, origin.start, (applyAll final origin.start).uuids⟩ rely
      (.recoverStaleRuns owners) origin final :=
    fun final => ⟨rfl, rfl, fun _ names => (by cases names), .inl ⟨rfl, .inl rfl⟩⟩
  have store : ∀ more : List Write,
      Block env ok rely (.recoverStaleRuns owners) origin (made ++ more)
        (.awaits (.persist ((applyAll (made ++ more) origin.start).heap address))) →
      Does ok rely (blockOf env ok rely (.recoverStaleRuns owners) reply)
        (persist address >>= fun _ => (.ret true : Op Bool) >>= rest) origin (made ++ more) := by
    intro more stored
    rw [does_persist]
    refine ⟨stored, fun state next answer allowed => ⟨fun _ => ?_, fun error _ => ?_⟩⟩
    · exact recovered _ _
    · exact (Calm.resumed rfl).block _ rfl
  unfold recoverRecord
  rw [Prog.bind_bind, does_recordAt, calm.heap]
  split
  · exact skipped
  · rename_i stale
    have unowned : owners.contains (origin.start.heap address).runId = false := by
      simp_all
    have live : (origin.start.heap address).state = .thinking ∨
        (origin.start.heap address).state = .running := by
      by_contra other
      exact stale (.inr (by simpa [not_or] using other))
    have restart : Does ok rely (blockOf env ok rely (.recoverStaleRuns owners) reply)
        (do
          modify address (.failActive none none (origin.start.heap address).restartReason)
          transition address .runFailed (some (origin.start.heap address).restartReason)
          modify address (.setOutcome (some (origin.start.heap address).restartOutcome))
          appendEvent address (.runRecovered (origin.start.heap address).runId
            (origin.start.heap address).executionId (origin.start.heap address).restartReason none)
          persist address
          let recovered ← (.ret true : Op Bool)
          rest recovered) origin made := by
      have legal : ((applyAll (made ++ [Write.record address (.failActive none none
          (origin.start.heap address).restartReason)]) origin.start).heap
            address).transitionTarget .runFailed ≠ none := by
        rw [applyAll_append, RunRecord.transitionTarget_eq (by simp) (by simp)]
        have same : (applyAll made origin.start).heap address = origin.start.heap address := by
          rw [calm.heap]
        rcases live with thinking | running
        · simp [apply, RecordWrite.apply, same, thinking]
        · simp [apply, RecordWrite.apply, same, running]
      rw [does_modify, does_transition]
      refine ⟨fun _ => ?_, fun illegal => absurd illegal legal⟩
      rw [does_modify, does_appendEvent]
      simp only [List.append_assoc, List.cons_append, List.nil_append]
      exact store _ (block_of_place calm (place _) (.restarted unowned live) rfl)
    rw [Prog.bind_bind]
    refine does_canReplay calm ?_ fun running started orchestrated => ?_
    · simp only [Bool.false_eq_true, if_false, Prog.bind_bind]
      exact restart
    simp only [if_true, Prog.bind_bind]
    rw [does_modify, does_modify, does_modify, does_appendEvent]
    simp only [List.append_assoc, List.cons_append, List.nil_append]
    exact store _
      (block_of_place calm (place _) (.replayed unowned running started orchestrated) rfl)

theorem recoverRecords_does (owners : List String) (addresses : List Nat) {β : Type}
    {reply : β → Reply} {rest : List Nat → Op β} {origin : Origin Repo Query}
    {made : List Write} (calm : Calm (.recoverStaleRuns owners) origin made)
    (goes : ∀ origin made found, Calm (.recoverStaleRuns owners) origin made →
      Does ok rely (blockOf env ok rely (.recoverStaleRuns owners) reply) (rest found)
        origin made) :
    Does ok rely (blockOf env ok rely (.recoverStaleRuns owners) reply)
      (recoverRecords owners addresses >>= rest) origin made := by
  induction addresses generalizing origin made rest with
  | nil => exact goes _ _ _ calm
  | cons address addresses ih =>
      unfold recoverRecords
      rw [Prog.bind_bind]
      simp only [Prog.bind_bind]
      refine recoverRecord_does owners calm ?_ ?_
      · exact ih calm fun origin made found calm => goes _ _ _ calm
      · intro record state
        refine ih ⟨rfl, fun last => by cases last⟩ fun origin made found calm => goes _ _ _ calm

theorem recoverStaleRuns_does (tolerant : Tolerant rely) (owners : List String) (state : Repo) :
    Does ok rely (blockOf env ok rely (.recoverStaleRuns owners) .recovered)
      (recoverStaleRuns owners) ⟨none, state⟩ [] := by
  refine does_reads tolerant reads_allRecords Calm.first ?_
  intro origin made addresses _ calm _
  rw [← Prog.bind_ret (recoverRecords owners addresses)]
  exact recoverRecords_does owners addresses calm fun _ _ found calm => calm.block _ rfl

theorem openRun_does (args : OpenArgs) (state : Repo) :
    Does ok rely (blockOf env ok rely (.openRun args) .run) (openRun env args)
      ⟨none, state⟩ [] := by
  have install : ∀ (runId : String) (made : List Write), effects made = [] →
      runId = args.newRunId env state.uuids →
      Does ok rely (blockOf env ok rely (.openRun args) .run) (do
        let contract ← Prog.ofExcept args.contract
        let versionId ← uuid env
        let digest ← Prog.ofExcept (env.closureDigest contract.body)
        let createdAt ← now env
        let address ← alloc
          { runId, taskRef := args.taskRef, goal := args.goal
            draft :=
              { versionId := "draft-" ++ versionId, closureId := contract.closureId
                snapshot := contract.body, snapshotDigest := digest }
            closureContract := some contract
            allowReassignment := args.allowReassignment
            events := [.runOpened runId createdAt] }
        Prog.tell (.install runId address)
        persist address
        .ret address) ⟨none, state⟩ made := by
    intro runId made untouched named
    have calm : Calm (.openRun args) ⟨none, state⟩ made :=
      ⟨untouched, fun last => by cases last⟩
    refine does_excepted calm fun contract contracted => ?_
    rw [does_uuid]
    have calm : Calm (.openRun args) ⟨none, state⟩ (made ++ [Write.takeUuid]) := calm.minor rfl
    refine does_excepted calm fun digest _ => ?_
    rw [does_now, does_alloc, does_tell]
    refine does_stored ?_
    have next : (applyAll (made ++ [Write.takeUuid]) state).next = state.next := by
      have alike := (alike_effects (made ++ [Write.takeUuid]) state).next
      rwa [calm.untouched] at alike
    refine .opened args
      { runId, taskRef := args.taskRef, goal := args.goal
        draft :=
          { versionId := "draft-" ++ env.hex (applyAll made state).uuids
            closureId := contract.closureId, snapshot := contract.body, snapshotDigest := digest }
        closureContract := some contract, allowReassignment := args.allowReassignment
        events := [.runOpened runId
          (env.now (applyAll (made ++ [Write.takeUuid]) state).uuids)] }
      contract rfl rfl ?_ named contracted ⟨_, rfl⟩ ?_
      (applyAll made state).uuids ⟨uuids_le made state, ?_⟩ rfl rfl
    · rw [effects_append, effects_append, calm.untouched, next]
      rfl
    · simp [apply]
    · simp [applyAll_append, apply]
  unfold openRun
  dsimp only
  split
  · rename_i runId given
    split
    · rename_i empty
      rw [Prog.bind_bind, does_uuid]
      refine install _ _ rfl ?_
      simp [OpenArgs.newRunId, given, empty]
    · rename_i nonempty
      refine install _ _ rfl ?_
      simp [OpenArgs.newRunId, given, nonempty]
  · rename_i absent
    rw [Prog.bind_bind, does_uuid]
    refine install _ _ rfl ?_
    simp [OpenArgs.newRunId, absent]

end Op

end Loom
