import Loom.Observer.Provenance

/-!
# Segments of the node operations

Accepting and reassigning run under the intent lock, dispatching does not.
-/

namespace Loom

open Coroutine
open Prog (Does)

namespace Op

variable {env : Env} {ok : (query : Query) → Answer query → Prop} {rely : Repo → Repo → Prop}
variable {runId : String} {before : Repo} {address : Nat}
variable {origin : Origin Repo Query} {made : List Write}

/-! ### Accepting an intent -/

theorem does_orchestrationPackage {call : Call} {β : Type} {reply : β → Reply}
    {rest : CapabilityPackageVersion × OrchestrationLimits → Op β}
    (calm : Calm call origin made)
    (goes : ∀ bound, (origin.start.heap address).isOrchestration →
      Does ok rely (blockOf env ok rely call reply) (rest bound) origin made) :
    Does ok rely (blockOf env ok rely call reply)
      (orchestrationPackage env address runId >>= rest) origin made := by
  unfold orchestrationPackage
  rw [does_read]
  dsimp only
  rw [calm.heap]
  split
  · exact calm.block _ rfl
  · split
    · exact calm.block _ rfl
    · rename_i orchestrated
      split
      · split
        · exact calm.block _ rfl
        · exact calm.block _ rfl
      · split
        · exact calm.block _ rfl
        · split
          · rw [Bool.not_eq_false] at orchestrated
            exact goes _ orchestrated
          · split
            · exact calm.block _ rfl
            · exact calm.block _ rfl

variable {intent : NodeIntent} {target : String}

theorem installNode_does {middle state : Repo} {query : Query} {limits : OrchestrationLimits}
    {package : CapabilityPackageVersion} {selected : String}
    (found : before.address? runId = some address)
    (running : (before.heap address).state = .running)
    (execution : (before.heap address).executionId = some intent.executionId)
    (orchestrated : (before.heap address).isOrchestration)
    (middleAfter : rely before middle) (middleBefore : rely middle state)
    (moved : rely before state) (isService : query.isService)
    (unknown : (middle.heap address).nodeOfIntent intent.intentId = none)
    (calm : Calm (.acceptNodeIntent runId intent target) ⟨some query, state⟩ made) :
    Does ok rely (blockOf env ok rely (.acceptNodeIntent runId intent target) .node)
      (installNode env address runId intent package limits selected) ⟨some query, state⟩ made := by
  have place : ∀ final, Site.Place ⟨address, before, state, (applyAll final state).uuids⟩ rely
      (.acceptNodeIntent runId intent target) ⟨some query, state⟩ final :=
    Site.place_late rfl found moved isService
  unfold installNode
  rw [does_recordAt, calm.heap]
  refine does_excepted calm fun _ limited => ?_
  dsimp only
  split
  · rename_i executionId current
    rw [does_pure_bind, does_modify, does_provenance]
    refine ⟨fun provenance _ => ?_, fun error _ => ?_⟩
    · rw [does_appendEvent]
      simp only [List.append_assoc, List.cons_append, List.nil_append]
      exact does_stored (block_of_place calm (place _)
        (.installed limits middle executionId selected provenance running execution orchestrated
          middleAfter middleBefore unknown limited current) rfl)
    · exact block_of_place_raised calm (place _)
        (.installUnresolved limits middle executionId error running execution orchestrated
          middleAfter middleBefore unknown limited current) rfl
  · exact calm.block _ rfl

/-- `_accept_node_intent` once the request is logged. -/
theorem answerIntent_does (tolerant : Tolerant rely) {limits : OrchestrationLimits}
    {package : CapabilityPackageVersion} {snapshot : TaskClosure}
    (found : before.address? runId = some address)
    (running : (before.heap address).state = .running)
    (execution : (before.heap address).executionId = some intent.executionId)
    (orchestrated : (before.heap address).isOrchestration)
    (moved : rely before origin.start)
    (calm : Calm (.acceptNodeIntent runId intent target) origin []) :
    Does ok rely (blockOf env ok rely (.acceptNodeIntent runId intent target) .node) (do
      let record ← recordAt address
      match record.nodeOfIntent intent.intentId with
      | some existing =>
          check (existing.answers intent) "node_intent_conflict"
          .ret existing
      | none =>
          Prog.ofExcept (record.checkNodeLimits limits)
          let selected ← admitIntent env address runId snapshot intent limits target
          installNode env address runId intent package limits selected) origin [] := by
  rw [does_recordAt]
  split
  · exact does_checked calm fun _ => calm.block _ rfl
  · rename_i unknown
    refine does_excepted calm fun _ _ => ?_
    unfold admitIntent
    rw [Prog.bind_bind]
    refine does_checked calm fun _ => ?_
    rw [Prog.bind_bind, does_recordAt]
    refine does_awaits tolerant rfl (reads_qualifyIntent env _ _ _ _ _ _) calm ?_
    intro query state made selected isService movedOn calmLater _
    exact installNode_does found running execution orchestrated moved movedOn
      (tolerant.trans moved movedOn) isService unknown calmLater

theorem acceptNodeIntent_does (tolerant : Tolerant rely) (runId : String) (intent : NodeIntent)
    (target : String) (state : Repo) :
    Does ok rely (blockOf env ok rely (.acceptNodeIntent runId intent target) .node)
      (acceptNodeIntent env runId intent target) ⟨none, state⟩ [] := by
  refine does_withIntentLock fun locked => ?_
  have entered : Calm (.acceptNodeIntent runId intent target)
      ⟨some (.intentLock runId), locked⟩ [.acquire runId] := ⟨rfl, fun last => by cases last⟩
  refine does_loaded entered fun before address _ found => ?_
  rw [does_recordAt]
  refine does_checked Calm.loaded fun running => does_checked Calm.loaded fun execution => ?_
  dsimp only
  refine does_orchestrationPackage Calm.loaded fun bound orchestrated => ?_
  obtain ⟨package, limits⟩ := bound
  dsimp only
  unfold requestNode
  rw [Prog.bind_bind, does_recordAt]
  dsimp only
  split
  · exact answerIntent_does tolerant found running.1 execution.symm orchestrated
      (tolerant.refl _) Calm.loaded
  · rw [Prog.bind_bind, does_provenance]
    refine ⟨fun provenance _ => ?_, fun _ _ => (Calm.loaded).block _ rfl⟩
    rw [Prog.bind_bind, does_appendEvent]
    refine does_stored_then rfl (block_of_stored rfl found .refl
      (.requested provenance running.1 execution.symm) rfl) fun record state moved => ?_
    exact answerIntent_does tolerant found running.1 execution.symm orchestrated
      (tolerant.trans (tolerant.write before rfl) moved) (Calm.resumed rfl)

/-! ### Dispatching a node -/

theorem writeDispatch_does {nodeId : String} {nodeIndex : Nat} {normalized : String}
    {agent : Dict} (found : before.address? runId = some address)
    (reached : Reached rely ⟨some (.load runId), before⟩ [] origin made)
    (running : (before.heap address).state = .running)
    (nodeFound : firstIndex? (fun node => node.nodeId = nodeId)
      (before.heap address).dynamicNodes = some nodeIndex)
    (accepted : ((before.heap address).dynamicNodes.getD nodeIndex default).state = .accepted) :
    Does ok rely (blockOf env ok rely (.dispatchDynamicNode runId nodeId target) .attempt)
      (writeDispatch env address runId nodeIndex
        ((before.heap address).dynamicNodes.getD nodeIndex default) normalized agent)
      origin made := by
  have calm : Calm (.dispatchDynamicNode runId nodeId target) origin made := calm_reached reached
  unfold writeDispatch
  rw [does_recordAt, calm.heap]
  refine does_excepted calm fun _ budget => ?_
  rw [does_uuid]
  have calmUuid :
    Calm (.dispatchDynamicNode runId nodeId target) origin (made ++ [Write.takeUuid]) :=
    calm.minor rfl
  refine does_excepted calmUuid fun instanceId _ => does_excepted calmUuid fun agentEpoch _ => ?_
  dsimp only
  rw [does_modify, does_modify]
  simp only [List.append_assoc, List.cons_append, List.nil_append]
  have drawn : ∀ later, Site.Drawn ⟨address, before, origin.start,
      (applyAll (made ++ Write.takeUuid :: later) origin.start).uuids⟩
      (applyAll made origin.start).uuids := by
    intro later
    have within := drawn_within made [] later origin.start
    rwa [List.append_nil] at within
  have within : ∀ (more : List Write) (attempt : Attempt),
      effects (made ++ more) =
        writesAt address [.appendAttempt attempt, .setNodeState nodeIndex .dispatched] →
      (applyAll (made ++ more) origin.start).provenance env
          ((applyAll (made ++ more) origin.start).heap address) none =
        origin.start.provenance env (origin.start.heap address) none :=
    fun more attempt writes => provenance_within _ writes (by simp [RecordWrite.keepsTask])
  rw [does_provenance, within _ _ (by rw [effects_append, calm.untouched]; rfl)]
  refine ⟨fun provenance _ => ?_, fun error unresolved => ?_⟩
  · rw [does_appendEvent]
    simp only [List.append_assoc, List.cons_append, List.nil_append]
    exact does_stored (block_of_stored rfl found reached
      (.dispatched nodeIndex _ normalized instanceId agentEpoch provenance running nodeFound
        accepted budget (drawn _)) rfl)
  · exact block_of_raised rfl found reached
      (.dispatchUnresolved nodeIndex _ normalized instanceId agentEpoch error unresolved running
        nodeFound accepted budget (drawn _)) rfl

/-- The part of `dispatch_dynamic_node` after the look-up of the package. -/
theorem dispatchTo_does {nodeId : String} {nodeIndex : Nat}
    (found : before.address? runId = some address)
    (reached : Reached rely ⟨some (.load runId), before⟩ [] origin made)
    (running : (before.heap address).state = .running)
    (nodeFound : firstIndex? (fun node => node.nodeId = nodeId)
      (before.heap address).dynamicNodes = some nodeIndex)
    (accepted : ((before.heap address).dynamicNodes.getD nodeIndex default).state = .accepted)
    (calm : Calm (.dispatchDynamicNode runId nodeId target) origin made) (repo : Repo) :
    Does ok rely (blockOf env ok rely (.dispatchDynamicNode runId nodeId target) .attempt)
      (match repo.findPackage ((before.heap address).dynamicNodes.getD nodeIndex default).packageRef
          (some runId) with
      | none => fail "node_target_unavailable"
      | some package => do
          check (repo.slaves.supports (repo.slaves.canonicalTarget target) package)
            "node_target_unavailable"
          match package.exportFor
              ((before.heap address).dynamicNodes.getD nodeIndex default).capabilityDescriptorRef
            with
          | .error _ => fail "node_capability_export_not_found"
          | .ok _ =>
              match repo.slaves.agents.lookup (repo.slaves.canonicalTarget target) with
              | none => .raise (.keyError (repo.slaves.canonicalTarget target))
              | some agent =>
                  writeDispatch env address runId nodeIndex
                    ((before.heap address).dynamicNodes.getD nodeIndex default)
                    (repo.slaves.canonicalTarget target) agent) origin made := by
  split
  · exact calm.block _ rfl
  · refine does_checked calm fun _ => ?_
    split
    · exact calm.block _ rfl
    · split
      · exact calm.block _ rfl
      · exact writeDispatch_does found reached running nodeFound accepted

theorem dispatchDynamicNode_does (tolerant : Tolerant rely) (runId nodeId target : String)
    (state : Repo) :
    Does ok rely (blockOf env ok rely (.dispatchDynamicNode runId nodeId target) .attempt)
      (dispatchDynamicNode env runId nodeId target) ⟨none, state⟩ [] := by
  refine does_loaded Calm.first fun before address _ found => ?_
  rw [does_recordAt]
  refine does_checked Calm.loaded fun running => ?_
  split
  · exact (Calm.loaded).block _ rfl
  · rename_i nodeIndex nodeFound
    dsimp only
    refine does_checked Calm.loaded fun accepted => does_checked Calm.loaded fun _ => ?_
    refine does_reads tolerant (reads_refreshSlaves _) Calm.loaded ?_
    intro origin made _ reached calm _
    rw [does_get]
    split
    · exact does_checked calm fun _ =>
        dispatchTo_does found reached running.1 nodeFound accepted calm _
    · exact dispatchTo_does found reached running.1 nodeFound accepted calm _

/-! ### Reassigning a node -/

/-- Storing a changed copy and swapping it in. -/
theorem storeCopy_does {args : ReassignArgs} {copied : RunRecord} {replacement : Attempt}
    {more : List Write} {updates : List RecordWrite}
    (calm : Calm (.reassignDynamicNode args) origin made)
    (writes : effects more = .alloc copied :: writesAt origin.start.next updates)
    (block : ∀ stop, stop = .awaits (.persist (applyAll updates copied)) →
      Block env ok rely (.reassignDynamicNode args) origin (made ++ more) stop) :
    Does ok rely (blockOf env ok rely (.reassignDynamicNode args) .attempt) (do
      persist origin.start.next
      Prog.tell (.install args.runId origin.start.next)
      .ret replacement) origin (made ++ more) := by
  have all : effects (made ++ more) = .alloc copied :: writesAt origin.start.next updates := by
    rw [effects_append, calm.untouched, writes]
    rfl
  obtain ⟨heap, next⟩ := heap_of_alloc all
  have copy : (applyAll (made ++ more) origin.start).heap origin.start.next =
      applyAll updates copied := by
    rw [heap, Function.update_self]
  rw [does_persist, copy]
  refine ⟨block _ rfl, fun state moved answer allowed => ⟨fun _ => ?_, fun error _ => ?_⟩⟩
  · exact .swapped args _ _ origin.start.next rfl rfl copy next.symm moved rfl ⟨replacement, rfl⟩
  · exact (Calm.resumed rfl).block _ rfl

theorem swapRecord_does {args : ReassignArgs} {node : DynamicNode} {lost : Attempt}
    {lease : Json} {exported : CapabilityExport} {agent : Dict} {middle state : Repo}
    {query : Query} (found : before.address? args.runId = some address)
    (elsewhere : target ≠ lost.target)
    (fenced : fenceReassign (before.heap address) args = .ok (.lost node lost))
    (middleAfter : rely before middle) (middleBefore : rely middle state)
    (moved : rely before state) (isService : query.isService)
    (budget : (middle.heap address).checkAttemptBudget = .ok ())
    (calm : Calm (.reassignDynamicNode args) ⟨some query, state⟩ made) :
    Does ok rely (blockOf env ok rely (.reassignDynamicNode args) .attempt)
      (swapRecord env address args node lost lease exported target agent)
      ⟨some query, state⟩ made := by
  have next : (applyAll made state).next = state.next := by
    have alike := (alike_effects made state).next
    rwa [calm.untouched] at alike
  have place : ∀ final, Site.Place ⟨address, before, state, (applyAll final state).uuids⟩ rely
      (.reassignDynamicNode args) ⟨some query, state⟩ final :=
    Site.place_late rfl found moved isService
  have failed : ∀ (more : List Write) (error : Exc),
      effects more = [.alloc (state.heap address)] →
      Block env ok rely (.reassignDynamicNode args) ⟨some query, state⟩ (made ++ more)
        (.raises error) := by
    intro more error writes
    refine .copyFailed _ args error rfl (place _) ?_ rfl
    rw [effects_append, calm.untouched, writes]
    rfl
  unfold swapRecord
  rw [does_recordAt, calm.heap, does_alloc, next]
  split
  · rename_i attemptIndex nodeIndex attemptFound nodeFound
    rw [does_uuid]
    simp only [List.append_assoc, List.cons_append, List.nil_append]
    rw [does_ofExcept]
    refine ⟨fun instanceId _ => ?_, fun error _ => failed _ error rfl⟩
    rw [does_ofExcept]
    refine ⟨fun agentEpoch _ => ?_, fun error _ => failed _ error rfl⟩
    rw [does_modify, does_modify, does_modify, does_appendEvent]
    simp only [List.append_assoc, List.cons_append, List.nil_append]
    refine storeCopy_does calm ?_ fun stop ends =>
      .copied ⟨address, before, state, (applyAll _ state).uuids⟩ args
        { node, lost, lease, replaySafety := exported.replaySafety, attemptIndex, nodeIndex
          number := _, target, instanceId, agentEpoch, middle, fenced, middleAfter, middleBefore
          budget, attemptFound, nodeFound, drawn := drawn_within made [_] _ _, elsewhere }
        rfl (place _) ?_ ends
    · rfl
    · rw [effects_append, calm.untouched]
      rfl
  · exact failed _ _ rfl

theorem reassignDynamicNode_does (tolerant : Tolerant rely) (args : ReassignArgs)
    (state : Repo) :
    Does ok rely (blockOf env ok rely (.reassignDynamicNode args) .attempt)
      (reassignDynamicNode env args) ⟨none, state⟩ [] := by
  refine does_withIntentLock fun locked => ?_
  have entered : Calm (.reassignDynamicNode args)
      ⟨some (.intentLock args.runId), locked⟩ [.acquire args.runId] :=
    ⟨rfl, fun last => by cases last⟩
  refine does_loaded entered fun before address _ found => ?_
  rw [does_recordAt]
  refine does_excepted Calm.loaded fun case fenced => ?_
  cases case with
  | replaced replacement => exact (Calm.loaded).block _ rfl
  | lost node lost =>
      dsimp only
      unfold replaceAttempt
      rw [does_get]
      split
      · exact (Calm.loaded).block _ rfl
      · rename_i package _
        split
        · exact (Calm.loaded).block _ rfl
        · rename_i exported _
          refine does_checked Calm.loaded fun _ => ?_
          refine does_reads tolerant (reads_reloadInputs env _) Calm.loaded ?_
          intro origin made _ reached calm _
          rw [does_recordAt]
          refine does_excepted calm fun _ budget => ?_
          have middleAfter : rely before (applyAll made origin.start) :=
            reached.rely_end tolerant.minor
          refine does_awaits tolerant rfl (reads_refreshSlaves _) calm ?_
          intro query state made' _ isService movedOn calm' _
          rw [does_get]
          refine does_excepted calm' fun lease _ => ?_
          dsimp only
          refine does_checked calm' fun suited => does_checked calm' fun _ => ?_
          split
          · exact calm'.block _ rfl
          · exact swapRecord_does found suited.2.1 fenced middleAfter movedOn
              (tolerant.trans middleAfter movedOn) isService budget calm'

end Op

end Loom
