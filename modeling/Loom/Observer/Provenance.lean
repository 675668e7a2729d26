import Loom.Observer.Rules

/-!
# Provenance across a segment

The provenance of orchestration events is read in the middle of a write block.  It depends on
the packages and contracts of all records and on the task of the record itself, none of which
the updates before it change.
-/

namespace Loom

open Coroutine

/-- The two repositories have the same packages, visible to the same runs. -/
structure Repo.SamePackages (repo other : Repo) : Prop where
  runs : repo.runs = other.runs
  packages : ∀ address, (repo.heap address).capabilityPackages =
    (other.heap address).capabilityPackages
  contracts : ∀ address, (repo.heap address).closureContract =
    (other.heap address).closureContract

namespace Repo.SamePackages

variable {repo other : Repo}

theorem address (same : repo.SamePackages other) (runId : String) :
    repo.address? runId = other.address? runId := by
  unfold Repo.address?
  rw [same.runs]

theorem contract (same : repo.SamePackages other) (runId : String) :
    ((repo.run? runId).bind fun run => run.closureContract) =
      (other.run? runId).bind fun run => run.closureContract := by
  unfold Repo.run?
  rw [same.address]
  cases other.address? runId with
  | none => rfl
  | some address => exact same.contracts address

theorem visible (same : repo.SamePackages other) (package : CapabilityPackageVersion)
    (runId : Option String) :
    repo.packageVisible package runId = other.packageVisible package runId := by
  cases runId with
  | none => rfl
  | some runId =>
      have own := same.contract runId
      have source := same.contract package.sourceRunRef
      unfold Repo.packageVisible
      unfold Repo.run? at own source ⊢
      simp only [same.address] at own source ⊢
      cases found : other.address? runId with
      | none => rfl
      | some address =>
          simp only [found, Option.map_some, Option.bind_some] at own source ⊢
          rw [source, own]

theorem findPackage (same : repo.SamePackages other) (ref : ResourceRef)
    (runId : Option String) : repo.findPackage ref runId = other.findPackage ref runId := by
  have packages : (repo.records.flatMap fun record => record.capabilityPackages) =
      other.records.flatMap fun record => record.capabilityPackages := by
    unfold Repo.records
    rw [List.flatMap_map, List.flatMap_map, same.runs]
    congr 1
    funext entry
    exact same.packages entry.2
  unfold Repo.findPackage
  simp only [packages, same.visible]

end Repo.SamePackages

/-- What provenance reads of a record. -/
structure RunRecord.SameTask (record other : RunRecord) : Prop where
  runId : record.runId = other.runId
  executionId : record.executionId = other.executionId
  committed : record.committed = other.committed
  draft : record.draft = other.draft
  packages : record.capabilityPackages = other.capabilityPackages
  contract : record.closureContract = other.closureContract

theorem provenance_congr {env : Env} {repo other : Repo} {record record' : RunRecord}
    (same : repo.SamePackages other) (task : record.SameTask record') :
    repo.provenance env record none = other.provenance env record' none := by
  have snapshot : record.snapshot = record'.snapshot := by
    unfold RunRecord.snapshot
    rw [task.committed, task.draft]
  have version : record.closureVersionRef = record'.closureVersionRef := by
    unfold RunRecord.closureVersionRef
    rw [task.committed, task.draft]
  unfold Repo.provenance
  simp only [snapshot, version, task.executionId, task.runId, same.findPackage]

theorem provenance_alike {env : Env} {repo other : Repo} (alike : repo.Alike other)
    (record : RunRecord) :
    repo.provenance env record none = other.provenance env record none := by
  refine provenance_congr ⟨alike.runs, fun _ => ?_, fun _ => ?_⟩ ⟨rfl, rfl, rfl, rfl, rfl, rfl⟩
  · rw [alike.heap]
  · rw [alike.heap]

/-- The updates that leave a record's task alone. -/
def RecordWrite.keepsTask : RecordWrite → Bool
  | .transition _ _ | .setOutcome _ | .appendEvent _ | .appendAttempt _ | .updateAttempt _ _
  | .failActive _ _ _ | .appendNode _ | .setNodeState _ _ | .releaseNodes
  | .putActivation _ => true
  | .setDraft _ | .setCommitted _ | .setExecution _ _ | .appendPackage _
  | .abandonPackage _ => false

theorem sameTask_apply {update : RecordWrite} (keeps : update.keepsTask)
    (record : RunRecord) : (apply update record).SameTask record := by
  cases update with
  | transition event reason =>
      obtain ⟨state, events, same⟩ := apply_transition record event reason
      rw [same]
      exact ⟨rfl, rfl, rfl, rfl, rfl, rfl⟩
  | setOutcome outcome => exact ⟨rfl, rfl, rfl, rfl, rfl, rfl⟩
  | appendEvent event => exact ⟨rfl, rfl, rfl, rfl, rfl, rfl⟩
  | appendAttempt attempt => exact ⟨rfl, rfl, rfl, rfl, rfl, rfl⟩
  | updateAttempt index change => exact ⟨rfl, rfl, rfl, rfl, rfl, rfl⟩
  | failActive nodeId attemptId reason => exact ⟨rfl, rfl, rfl, rfl, rfl, rfl⟩
  | appendNode node => exact ⟨rfl, rfl, rfl, rfl, rfl, rfl⟩
  | setNodeState index state => exact ⟨rfl, rfl, rfl, rfl, rfl, rfl⟩
  | releaseNodes => exact ⟨rfl, rfl, rfl, rfl, rfl, rfl⟩
  | setDraft version => cases keeps
  | setCommitted version => cases keeps
  | setExecution executionId epoch => cases keeps
  | appendPackage package => cases keeps
  | abandonPackage index => cases keeps
  | putActivation activation => exact ⟨rfl, rfl, rfl, rfl, rfl, rfl⟩

theorem sameTask_applyAll (updates : List RecordWrite)
    (keep : ∀ update ∈ updates, update.keepsTask) (record : RunRecord) :
    (applyAll updates record).SameTask record := by
  induction updates generalizing record with
  | nil => exact ⟨rfl, rfl, rfl, rfl, rfl, rfl⟩
  | cons update updates ih =>
      have first := sameTask_apply (keep update List.mem_cons_self) record
      have rest := ih (fun other member => keep other (List.mem_cons_of_mem _ member))
        (apply update record)
      exact ⟨rest.runId.trans first.runId, rest.executionId.trans first.executionId,
        rest.committed.trans first.committed, rest.draft.trans first.draft,
        rest.packages.trans first.packages, rest.contract.trans first.contract⟩

/-- Provenance read in the middle of a segment is that of its start. -/
theorem provenance_within {env : Env} {made : List Write} {repo : Repo} {address : Nat}
    (updates : List RecordWrite) (writes : effects made = writesAt address updates)
    (keep : ∀ update ∈ updates, update.keepsTask) :
    (applyAll made repo).provenance env ((applyAll made repo).heap address) none =
      repo.provenance env (repo.heap address) none := by
  have alike := alike_effects made repo
  have task := sameTask_applyAll updates keep (repo.heap address)
  have heap : (applyAll made repo).heap = _ := heap_of_writes writes
  refine provenance_congr ⟨?_, fun other => ?_, fun other => ?_⟩ ?_
  · rw [alike.runs, writes, applyAll_writesAt]
  · rw [heap]
    by_cases isSite : other = address
    · subst isSite
      rw [Function.update_self]
      exact task.packages
    · rw [Function.update_of_ne isSite]
  · rw [heap]
    by_cases isSite : other = address
    · subst isSite
      rw [Function.update_self]
      exact task.contract
    · rw [Function.update_of_ne isSite]
  · rw [heap, Function.update_self]
    exact task

end Loom
