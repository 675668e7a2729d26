import Loom.Observer.Rules

/-!
# Segments of patch, commit and start
-/

namespace Loom

open Coroutine
open Prog (Does)

namespace Op

variable {env : Env} {ok : (query : Query) → Answer query → Prop} {rely : Repo → Repo → Prop}

theorem commit_does (tolerant : Tolerant rely) (runId versionId digest : String) (state : Repo) :
    Does ok rely (blockOf env ok rely (.commit runId versionId digest) .version)
      (commit env runId versionId digest) ⟨none, state⟩ [] := by
  refine does_loaded Calm.first fun before address moved found => ?_
  rw [does_recordAt]
  refine does_checked Calm.loaded fun thinking => does_checked Calm.loaded fun inspected => ?_
  refine does_reads tolerant (reads_evaluateReadiness env _ _) Calm.loaded ?_
  intro origin made readiness reached calm evaluated
  rw [does_recordAt, calm.heap, does_appendEvent]
  split
  · rename_i isReady
    rw [does_uuid, does_modify, does_transition]
    simp only [List.append_assoc, List.cons_append, List.nil_append]
    rw [calm.heap_at _ address [.appendEvent _, .setCommitted _] rfl,
      RunRecord.transitionTarget_committed]
    refine ⟨fun legal => ?_, fun illegal => ?_⟩
    · rw [does_appendEvent]
      simp only [List.append_assoc, List.cons_append, List.nil_append]
      refine does_stored (block_of_stored rfl found reached
        (.committed readiness _ thinking inspected legal evaluated isReady) rfl)
    · exact block_of_raised rfl found reached
        (.commitLate readiness _ thinking
          fun same => RunRecord.transitionTarget_committed.2 same illegal) rfl
  · exact does_stored_end rfl (fun _ => ⟨rfl, rfl⟩)
      (block_of_stored rfl found reached (.commitBlocked readiness) rfl)

theorem beginOrchestration_does {runId versionId : String} {before : Repo} {address : Nat}
    {readiness : Readiness} {origin : Origin Repo Query} {made : List Write}
    (found : before.address? runId = some address)
    (reached : Reached rely ⟨some (.load runId), before⟩ [] origin made)
    (committed : (before.heap address).state = .committed)
    (orchestrated : (origin.start.heap address).isOrchestration) :
    Does ok rely (blockOf env ok rely (.start runId versionId) .started)
      (beginExecution env address runId (origin.start.heap address).snapshot) origin
      (made ++ [Write.record address (.appendEvent (.readinessInspected runId
        (origin.start.heap address).closureVersionRef readiness.ready readiness.blockers))]) := by
  have calm : Calm (.start runId versionId) origin made := calm_reached reached
  have isOrchestrator : (origin.start.heap address).snapshot.programSystems.execution.isOrchestrator
    = true := orchestrated
  unfold beginExecution
  rw [does_recordAt, calm.heap_at _ address [.appendEvent _] rfl]
  dsimp only
  rw [does_uuid, does_modify, does_modify, does_transition]
  simp only [List.append_assoc, List.cons_append, List.nil_append]
  rw [calm.heap_at _ address [.appendEvent _, .setExecution _ _, .setOutcome none] rfl,
    RunRecord.transitionTarget_executionStarted]
  refine ⟨fun legal => ?_, fun illegal => ?_⟩
  · rw [if_pos isOrchestrator]
    rw [does_pure_bind, does_appendEvent, if_pos isOrchestrator]
    simp only [List.append_assoc, List.cons_append, List.nil_append]
    rw [does_provenance]
    refine ⟨fun provenance _ => ?_, fun error _ => ?_⟩
    · rw [does_appendEvent]
      simp only [List.append_assoc, List.cons_append, List.nil_append]
      exact does_stored_end rfl (fun _ => ⟨rfl, rfl⟩) (block_of_stored rfl found reached
        (.startedOrchestration readiness _ provenance committed legal orchestrated
          (drawn_within made [_] _ _)) rfl)
    · exact block_of_raised rfl found reached
        (.startUnresolved readiness _ error committed legal orchestrated
          (drawn_within made [_] _ _)) rfl
  · exact block_of_raised rfl found reached (.startLate readiness _ committed
      fun same => RunRecord.transitionTarget_executionStarted.2 same illegal) rfl

theorem beginTask_does {runId versionId : String} {before : Repo} {address : Nat}
    {readiness : Readiness} {origin : Origin Repo Query} {made : List Write}
    (found : before.address? runId = some address)
    (reached : Reached rely ⟨some (.load runId), before⟩ [] origin made)
    (committed : (before.heap address).state = .committed)
    (ordinary : (origin.start.heap address).isOrchestration = false)
    (budget : (origin.start.heap address).checkAttemptBudget = .ok ()) :
    Does ok rely (blockOf env ok rely (.start runId versionId) .started)
      (beginExecution env address runId (origin.start.heap address).snapshot) origin
      (made ++ [Write.record address (.appendEvent (.readinessInspected runId
        (origin.start.heap address).closureVersionRef readiness.ready readiness.blockers))]) := by
  have calm : Calm (.start runId versionId) origin made := calm_reached reached
  have isTask : ¬(origin.start.heap address).snapshot.programSystems.execution.isOrchestrator
    = true := by
    rw [show (origin.start.heap address).snapshot.programSystems.execution.isOrchestrator = false
      from ordinary]
    simp
  unfold beginExecution
  rw [does_recordAt, calm.heap_at _ address [.appendEvent _] rfl]
  dsimp only
  rw [does_uuid, does_modify, does_modify, does_transition]
  simp only [List.append_assoc, List.cons_append, List.nil_append]
  rw [calm.heap_at _ address [.appendEvent _, .setExecution _ _, .setOutcome none] rfl,
    RunRecord.transitionTarget_executionStarted]
  refine ⟨fun legal => ?_, fun illegal => ?_⟩
  · rw [if_neg isTask, does_get, does_uuid, does_modify, does_appendEvent, if_neg isTask,
      does_pure_bind]
    simp only [List.append_assoc, List.cons_append, List.nil_append]
    exact does_stored_end rfl (fun _ => ⟨rfl, rfl⟩) (block_of_stored rfl found reached
      (.startedTask readiness _ _ _ committed legal ordinary budget
        (drawn_within made [_] _ _) (drawn_within made [_, _, _, _, _] _ _)) rfl)
  · exact block_of_raised rfl found reached (.startLate readiness _ committed
      fun same => RunRecord.transitionTarget_executionStarted.2 same illegal) rfl

theorem start_does (tolerant : Tolerant rely) (runId versionId : String) (state : Repo) :
    Does ok rely (blockOf env ok rely (.start runId versionId) .started)
      (start env runId versionId) ⟨none, state⟩ [] := by
  refine does_loaded Calm.first fun before address moved found => ?_
  rw [does_recordAt]
  dsimp only
  split
  · exact does_checked Calm.loaded fun _ => (Calm.loaded).block _ rfl
  · refine does_checked Calm.loaded fun committed => does_checked Calm.loaded fun _ => ?_
    refine does_reads tolerant (reads_evaluateReadiness env _ _) Calm.loaded ?_
    intro origin made readiness reached calm _
    rw [does_recordAt, calm.heap, does_appendEvent]
    split
    · split
      · rename_i orchestrated
        exact beginOrchestration_does found reached committed orchestrated
      · rename_i ordinary
        rw [does_ofExcept]
        refine ⟨fun _ budget => ?_, fun error _ => ?_⟩
        · exact beginTask_does found reached committed (by simpa using ordinary) budget
        · exact block_of_raised rfl found reached (.startBlocked readiness (.raised error)) rfl
    · exact does_stored_end rfl (fun _ => ⟨rfl, rfl⟩)
        (block_of_stored rfl found reached (.startBlocked readiness .stored) rfl)

/-! ### Patches -/

/-- The writes of the operations of a patch: minor ones, and packages that are appended to the
record. -/
def IsPackageWrite (address : Nat) (write : Write) : Prop :=
  write.isMinor ∨ ∃ package, write = .record address (.appendPackage package)

/-- The writes of a program are those of the operations of a patch. -/
abbrev Packs {α : Type} (address : Nat) (program : Op α) : Prop :=
  program.Only (IsPackageWrite address) (fun query => query.isService)

theorem Reads.packs {α : Type} {program : Op α} (reads : Reads program) (address : Nat) :
    Packs address program :=
  reads.mono (fun _ isMinor => .inl isMinor) fun _ isService => isService

theorem packs_materializePackage (address : Nat) (operation : Dict) (snapshot : TaskClosure) :
    Packs address (materializePackage env address operation snapshot) := by
  refine Prog.Only.bind ((reads_preparePackage env address operation).packs address)
    fun package => ?_
  refine Prog.Only.bind ((Reads.recordAt address).packs address) fun record => ?_
  split
  · exact ⟨.inr ⟨package, rfl⟩, Prog.Only.ofExcept _⟩
  · exact Prog.Only.bind (Prog.Only.guard _ _) fun _ => Prog.Only.ofExcept _

theorem packs_applyOperations (address : Nat) (operations : List Dict) (snapshot : TaskClosure) :
    Packs address (applyOperations env address operations snapshot) := by
  induction operations generalizing snapshot with
  | nil => trivial
  | cons operation rest ih =>
      refine Prog.Only.bind ?_ fun changed => ih changed
      unfold applyOperation
      split
      · exact packs_materializePackage address operation snapshot
      · exact fun repo => Prog.Only.ofExcept _

theorem packages_of_packs {address : Nat} {made : List Write}
    (packed : ∀ write ∈ made, IsPackageWrite address write) :
    ∃ packages : List CapabilityPackageVersion,
      effects made = writesAt address (packages.map .appendPackage) := by
  induction made with
  | nil => exact ⟨[], rfl⟩
  | cons write made ih =>
      obtain ⟨packages, rest⟩ := ih fun other member => packed other (List.mem_cons_of_mem _ member)
      rcases packed write List.mem_cons_self with isMinor | ⟨package, rfl⟩
      · exact ⟨packages, by rw [effects_cons_minor isMinor, rest]⟩
      · exact ⟨package :: packages, by rw [effects_cons_record, rest]; rfl⟩

theorem applyAll_packages (packages : List CapabilityPackageVersion) (record : RunRecord) :
    applyAll (packages.map RecordWrite.appendPackage) record =
      { record with capabilityPackages := record.capabilityPackages ++ packages } := by
  induction packages generalizing record with
  | nil => simp
  | cons package packages ih =>
      rw [List.map_cons, applyAll_cons, ih]
      simp [apply, RecordWrite.apply]

section Patch

variable {runId baseVersion baseDigest operationId : String} {operations : List Dict}
variable {origin : Origin Repo Query} {made : List Write} {address : Nat}

/-- Readiness, receipt and storage of a patch, from any segment whose continuations are
described. -/
theorem concludePatch_does (tolerant : Tolerant rely) (version : ClosureVersion)
    (blocks : ∀ origin' made' more stop, Reached rely origin made origin' made' →
      (effects more = [] ∨ IsReceipt operationId address (effects more)) →
      Block env ok rely (.applyPatch runId baseVersion baseDigest operationId operations) origin'
        (made' ++ more) stop) :
    Does ok rely (blockOf env ok rely
        (.applyPatch runId baseVersion baseDigest operationId operations) .receipt)
      (concludePatch env address runId operationId version) origin made := by
  have silent : ∀ origin' made' stop, Reached rely origin made origin' made' →
      Block env ok rely (.applyPatch runId baseVersion baseDigest operationId operations) origin'
        made' stop := by
    intro origin' made' stop reached
    have block := blocks origin' made' [] stop reached (.inl rfl)
    rwa [List.append_nil] at block
  unfold concludePatch
  rw [does_uuid, Prog.bind_eq, Does.bind_iff]
  have drawn : Reached rely origin made origin (made ++ [Write.takeUuid]) :=
    .here _ (by simp [Write.isMinor])
  refine Prog.Only.does tolerant.minor (reads_evaluateReadiness env _ _) ?_ ?_ ?_
  · exact fun _ _ _ reached _ => silent _ _ _ (drawn.trans tolerant.minor reached)
  · intro origin' made' readiness reached _
    have reached := drawn.trans tolerant.minor reached
    have finish : ∀ (receipt : PatchReceipt) (events : List Event),
        (∀ event ∈ events, event.isLight) →
        Does ok rely (blockOf env ok rely
            (.applyPatch runId baseVersion baseDigest operationId operations) .receipt)
          (do
            (.await (.storeReceipt operationId) Prog.ofExcept : Op Unit)
            persist address
            .ret receipt) origin'
          (made' ++ Write.storeReceipt operationId receipt ::
            writesAt address (events.map .appendEvent)) := by
      intro receipt events ordinary
      refine ⟨blocks _ _ _ _ reached (.inr ⟨receipt, events, ordinary, ?_⟩), ?_⟩
      · rw [effects_cons_storeReceipt, effects_writesAt]
      · intro state _ answer _
        refine does_excepted (Calm.resumed rfl) fun _ _ => ?_
        exact does_stored (.quiet rfl ((Calm.resumed rfl).silent fun notPatch => by cases notPatch))
    show Does _ _ _ _ _ _
    dsimp only
    rw [does_tell, does_appendEvent]
    split
    · rw [does_appendEvent]
      simp only [List.append_assoc, List.cons_append, List.nil_append]
      exact finish _ [_, _] (by simp [Event.isLight])
    · rw [does_pure_bind]
      simp only [List.append_assoc, List.cons_append, List.nil_append]
      exact finish _ [_] (by simp [Event.isLight])
  · exact fun _ _ _ reached _ => silent _ _ _ (drawn.trans tolerant.minor reached)

theorem installDraft_does (tolerant : Tolerant rely) {before : Repo} {snapshot : TaskClosure}
    (found : before.address? runId = some address)
    (admitted : (before.heap address).draft.versionId = baseVersion ∧
      (before.heap address).draft.snapshotDigest = baseDigest)
    (editable : (before.heap address).state = .opened ∨ (before.heap address).state = .thinking ∨
      (before.heap address).state = .awaitingDecision ∧
        (before.heap address).decision = .str "repair")
    (reached : Prog.Passes rely (IsPackageWrite address) (fun query : Query => query.isService)
      ⟨some (.load runId), before⟩ [] origin made)
    (applied : (applyOperations env address operations
      (before.heap address).draft.snapshot).Returns ok (.ok snapshot)) :
    Does ok rely (blockOf env ok rely
        (.applyPatch runId baseVersion baseDigest operationId operations) .receipt)
      (installDraft env address (before.heap address).state snapshot >>= fun version =>
        concludePatch env address runId operationId version) origin made := by
  obtain ⟨packages, packed⟩ : ∃ packages : List CapabilityPackageVersion,
      effects made = writesAt address (packages.map .appendPackage) := by
    cases reached with
    | here more areMinor => exact packages_of_packs areMinor
    | later query state more isService moved areMinor => exact packages_of_packs areMinor
  have patched : ∀ (more : List Write) (draft : List RecordWrite) (receipt : List Write)
      (stop : Stop Exc Query Reply), effects more = writesAt address draft ++ receipt →
      (draft = [] ∨ DraftChange env ok
        ⟨address, before, origin.start, (applyAll (made ++ more) origin.start).uuids⟩ operations
        draft) →
      (receipt = [] ∨ IsReceipt operationId address receipt) →
      Block env ok rely (.applyPatch runId baseVersion baseDigest operationId operations) origin
        (made ++ more) stop := by
    intro more draft receipt stop writes drafted concluded
    refine .patched ⟨address, before, origin.start, (applyAll (made ++ more) origin.start).uuids⟩
      runId baseVersion baseDigest operationId operations packages draft receipt rfl
      (Site.place_of_reached rfl found reached _) admitted editable ?_ drafted concluded
    rw [effects_append, packed, writes]
    unfold writesAt
    simp
  -- whatever follows the draft's own updates: the same segment, or a later one
  have conclude : ∀ (version : ClosureVersion) (more : List Write) (draft : List RecordWrite),
      effects more = writesAt address draft →
      (∀ later, DraftChange env ok ⟨address, before, origin.start,
        (applyAll (made ++ (more ++ later)) origin.start).uuids⟩ operations draft) →
      Does ok rely (blockOf env ok rely
          (.applyPatch runId baseVersion baseDigest operationId operations) .receipt)
        (concludePatch env address runId operationId version) origin (made ++ more) := by
    intro version more draft writes drafted
    refine concludePatch_does tolerant version ?_
    intro origin' made' last stop continued receipt
    cases continued with
    | here minors areMinor =>
        simp only [List.append_assoc]
        refine patched _ draft (effects last) stop ?_ (.inr (drafted _)) receipt
        rw [effects_append, effects_append, effects_minor areMinor, writes]
        rfl
    | later query state minors isService moved areMinor =>
        have all : effects (made' ++ last) = effects last := by
          rw [effects_append, effects_minor areMinor]
          rfl
        rcases receipt with silent | isReceipt
        · have calm : Calm (.applyPatch runId baseVersion baseDigest operationId operations)
              ⟨some query, state⟩ (made' ++ last) :=
            ⟨by rw [all, silent], fun single => by cases single⟩
          exact .quiet calm.untouched (calm.silent fun notPatch => by cases notPatch)
        · have since : rely before origin.start := by
            cases reached with
            | here => exact tolerant.refl _
            | later _ _ _ _ movedFirst _ => exact movedFirst
          refine .concluded runId baseVersion baseDigest operationId operations address before
            origin.start (made ++ more) (effects last) (packages.map .appendPackage ++ draft)
            rfl found since ?_ moved ⟨query, rfl, isService⟩ all isReceipt
          rw [effects_append, packed, writes]
          unfold writesAt
          simp
  have silent : ∀ (more : List Write) (stop : Stop Exc Query Reply), effects more = [] →
      Block env ok rely (.applyPatch runId baseVersion baseDigest operationId operations) origin
        (made ++ more) stop :=
    fun more stop none => patched more [] [] stop (by rw [none]; rfl) (.inl rfl) (.inl rfl)
  have record : (applyAll (made ++ [Write.takeUuid]) origin.start).heap address =
      { origin.start.heap address with
        capabilityPackages := (origin.start.heap address).capabilityPackages ++ packages } := by
    rw [heap_at _ _ address (packages.map .appendPackage) (by simp [packed]), applyAll_packages]
  unfold installDraft
  rw [Prog.bind_bind, does_uuid, Prog.bind_bind, does_recordAt, record, Prog.bind_bind,
    does_ofExcept]
  refine ⟨fun digest _ => ?_, fun error _ => silent _ _ rfl⟩
  rw [Prog.bind_bind, does_modify]
  simp only [List.append_assoc, List.cons_append, List.nil_append]
  have target :
    ∀ version, ((applyAll (made ++ [Write.takeUuid, .record address (.setDraft version)])
      origin.start).heap address).transitionTarget .refinementStarted =
        (origin.start.heap address).transitionTarget .refinementStarted := by
    intro version
    rw [heap_at _ _ address (packages.map .appendPackage ++ [.setDraft version])
      (by simp [packed, writesAt]), applyAll_append, applyAll_packages]
    rfl
  have drawn : ∀ version later, Site.Drawn ⟨address, before, origin.start,
      (applyAll (made ++ ([Write.takeUuid, .record address (.setDraft version)] ++ later))
        origin.start).uuids⟩ (applyAll made origin.start).uuids := by
    intro version later
    have within := drawn_within made [] (.record address (.setDraft version) :: later) origin.start
    rwa [List.append_nil] at within
  split
  · rename_i opened
    rw [Prog.bind_bind, does_transition, target]
    refine ⟨fun legal => ?_, fun illegal => ?_⟩
    · rw [does_pure_bind]
      simp only [List.append_assoc, List.cons_append, List.nil_append]
      exact conclude _ [_, _, _] [_, _] rfl fun later =>
        .begun _ digest snapshot applied (drawn _ _) opened legal
    · exact patched [_, _] [_] [] _ rfl
        (.inr (.late _ digest snapshot applied (drawn _ []) (.inl opened) illegal)) (.inl rfl)
  · rename_i notOpened
    split
    · rename_i awaiting
      rw [Prog.bind_bind, does_transition, target]
      refine ⟨fun legal => ?_, fun illegal => ?_⟩
      · rw [Prog.bind_bind, does_modify, does_pure_bind]
        simp only [List.append_assoc, List.cons_append, List.nil_append]
        exact conclude _ [_, _, _, _] [_, _, _] rfl fun later =>
          .repaired _ digest snapshot applied (drawn _ _) awaiting legal
      · exact patched [_, _] [_] [] _ rfl
          (.inr (.late _ digest snapshot applied (drawn _ []) (.inr awaiting) illegal)) (.inl rfl)
    · rename_i notAwaiting
      have thinking : (before.heap address).state = .thinking := by
        rcases editable with opened | thinking | ⟨awaiting, -⟩
        · exact absurd opened notOpened
        · exact thinking
        · exact absurd awaiting notAwaiting
      rw [Prog.bind_bind, does_pure_bind, does_pure_bind]
      exact conclude _ [_, _] [_] rfl fun later =>
        .refined _ digest snapshot applied (drawn _ _) thinking

theorem applyPatch_does (tolerant : Tolerant rely) (state : Repo) :
    Does ok rely (blockOf env ok rely
        (.applyPatch runId baseVersion baseDigest operationId operations) .receipt)
      (applyPatch env runId baseVersion baseDigest operationId operations) ⟨none, state⟩ [] := by
  unfold applyPatch
  rw [does_get]
  split
  · exact (Calm.first).block _ rfl
  · unfold admitPatch
    rw [Prog.bind_bind]
    refine does_loaded Calm.first fun before address moved found => ?_
    rw [Prog.bind_bind, does_recordAt, Prog.bind_bind]
    refine does_checked Calm.loaded fun admitted => ?_
    rw [Prog.bind_bind]
    refine does_checked Calm.loaded fun editable => ?_
    rw [Prog.bind_bind]
    refine does_checked Calm.loaded fun repairs => ?_
    rw [does_pure_bind]
    dsimp only
    have decided : (before.heap address).state = .opened ∨
        (before.heap address).state = .thinking ∨
        (before.heap address).state = .awaitingDecision ∧
          (before.heap address).decision = .str "repair" := by
      rcases editable with opened | thinking | awaiting
      · exact .inl opened
      · exact .inr (.inl thinking)
      · exact .inr (.inr ⟨awaiting, repairs awaiting⟩)
    rw [Prog.bind_eq, Does.bind_iff]
    have quietly : ∀ origin' made' stop,
        Prog.Passes rely (IsPackageWrite address) (fun query : Query => query.isService)
          ⟨some (.load runId), before⟩ [] origin' made' →
        Block env ok rely (.applyPatch runId baseVersion baseDigest operationId operations)
          origin' made' stop := by
      intro origin' made' stop reached
      obtain ⟨packages, packed⟩ : ∃ packages : List CapabilityPackageVersion,
          effects made' = writesAt address (packages.map .appendPackage) := by
        cases reached with
        | here more areMinor => exact packages_of_packs areMinor
        | later query state more isService moved areMinor => exact packages_of_packs areMinor
      refine .patched ⟨address, before, origin'.start, (applyAll made' origin'.start).uuids⟩
        runId baseVersion baseDigest operationId operations packages [] [] rfl
        (Site.place_of_reached rfl found reached _) admitted decided ?_ (.inl rfl) (.inl rfl)
      rw [packed]
      simp
    refine Prog.Only.does (tolerant.mono ?_) (packs_applyOperations address operations _) ?_ ?_ ?_
    · rintro write (isMinor | ⟨package, rfl⟩)
      · exact Write.isLight_of_isMinor isMinor
      · rfl
    · exact fun _ _ _ reached _ => quietly _ _ _ reached
    · exact fun _ _ _ reached applied =>
        installDraft_does tolerant found admitted decided reached applied
    · exact fun _ _ _ reached _ => quietly _ _ _ reached

end Patch

end Op

end Loom
