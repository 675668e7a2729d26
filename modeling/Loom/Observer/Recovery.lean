import Loom.Coroutine.Ensures
import Loom.Observer.Histories
import Loom.Observer.Provenance
import Loom.Keyed

/-!
# What recovery makes of the records

`recover_stale_runs` replays the orchestrations that can be replayed and fails the other runs that
nobody owns.  It visits each listed record once, since every run id is bound to one record of that
id (`Repo.Named`), and makes `Repo.recovered` of it.
-/

namespace Loom

open Coroutine

/-- Whether recovery can replay the run of a record. -/
def Repo.replays (repo : Repo) (record : RunRecord) : Bool :=
  record.state = .running && record.executionId ≠ none && record.isOrchestration &&
    (record.snapshot.programSystems.packageRef.bind fun ref =>
      repo.findPackage ref (some record.runId)).any fun package =>
        match singleExport package with
        | .ok exported => replayable package exported
        | .error _ => false

namespace RunRecord

/-- The run is left alone: it is owned, or it needs no owner. -/
def isSpared (record : RunRecord) (owners : List String) : Bool :=
  owners.contains record.runId || (record.state ≠ .thinking && record.state ≠ .running)

/-- The record of a replayed run. -/
def replayed (record : RunRecord) : RunRecord :=
  applyAll [RecordWrite.setExecution record.executionId (record.executionEpoch + 1),
    RecordWrite.failActive none none replayReason, RecordWrite.releaseNodes,
    RecordWrite.appendEvent (.runRecovered record.runId record.executionId replayReason
      (some (record.executionEpoch + 1)))] record

/-- The record of a run that recovery fails. -/
def restarted (record : RunRecord) : RunRecord :=
  applyAll [RecordWrite.failActive none none record.restartReason,
    RecordWrite.transition .runFailed (some record.restartReason),
    RecordWrite.setOutcome (some record.restartOutcome),
    RecordWrite.appendEvent (.runRecovered record.runId record.executionId record.restartReason
      none)] record

end RunRecord

section Recovered

variable (record : RunRecord)

theorem replayed_eq : record.replayed =
    { record with
      executionEpoch := record.executionEpoch + 1
      attempts := record.attempts.map fun attempt => attempt.failIfActive none none replayReason
      dynamicNodes := record.dynamicNodes.map DynamicNode.release
      events := record.events ++ [.runRecovered record.runId record.executionId replayReason
        (some (record.executionEpoch + 1))] } := rfl

theorem transitionTarget_runFailed {record : RunRecord}
    (live : record.state = .thinking ∨ record.state = .running) :
    record.transitionTarget .runFailed = some .failed := by
  unfold RunRecord.transitionTarget
  rw [runTransitions_runFailed, if_pos live]
  simp

theorem restarted_eq {record : RunRecord}
    (live : record.state = .thinking ∨ record.state = .running) : record.restarted =
    { record with
      state := .failed
      attempts := record.attempts.map fun attempt =>
        attempt.failIfActive none none record.restartReason
      outcome := some record.restartOutcome
      events := record.events ++
        [.runTransition .runFailed record.state .failed (some record.restartReason),
          .runRecovered record.runId record.executionId record.restartReason none] } := by
  have legal : (apply (RecordWrite.failActive none none record.restartReason)
      record).transitionTarget .runFailed = some .failed := transitionTarget_runFailed live
  have moved : apply (RecordWrite.transition .runFailed (some record.restartReason))
      (apply (RecordWrite.failActive none none record.restartReason) record) =
      { apply (RecordWrite.failActive none none record.restartReason) record with
        state := .failed
        events := record.events ++
          [.runTransition .runFailed record.state .failed (some record.restartReason)] } := by
    change RecordWrite.apply (.transition _ _) _ = _
    unfold RecordWrite.apply
    dsimp only
    rw [legal]
    rfl
  unfold RunRecord.restarted
  rw [applyAll_cons, applyAll_cons, moved]
  simp [apply, RecordWrite.apply]

end Recovered

/-- What recovery makes of a record. -/
def Repo.recovered (repo : Repo) (owners : List String) (record : RunRecord) : RunRecord :=
  if record.isSpared owners then record
  else if repo.replays record then record.replayed
  else record.restarted

namespace Op

variable {ok : (query : Query) → Answer query → Prop} {repo : Repo} {owners : List String}

/-- The repository with one record changed. -/
def changed (repo : Repo) (address : Nat) (record : RunRecord) : Repo :=
  { repo with heap := Function.update repo.heap address record }

theorem heap_changed (repo : Repo) (address other : Nat) (record : RunRecord) :
    (changed repo address record).heap other = if other = address then record
      else repo.heap other := by
  exact Function.update_apply repo.heap address record other

theorem changed_self (repo : Repo) (address : Nat) :
    changed repo address (repo.heap address) = repo := by
  unfold changed
  rw [Function.update_eq_self]

theorem persist_ensures {address : Nat} {post : Repo → Except Exc Unit → Prop}
    (done : post repo (.ok ())) (failed : ∀ error, post repo (.error error)) :
    (persist address).Ensures ok repo post := by
  intro answer _
  refine Prog.Ensures.ofExcept ?_
  cases answer with
  | ok value => exact done
  | error error => exact failed error

theorem load_ensures {runId : String} {post : Repo → Except Exc Nat → Prop}
    (found : ∀ address, repo.address? runId = some address → post repo (.ok address))
    (missing : ∀ error, post repo (.error error)) :
    (load runId).Ensures ok repo post := by
  unfold load
  intro _ _
  dsimp only [Prog.Ensures]
  cases isFound : repo.address? runId with
  | some address => exact found address isFound
  | none => exact missing _

theorem canReplay_ensures {address : Nat} {post : Repo → Except Exc Bool → Prop}
    (done : post repo (.ok (repo.replays (repo.heap address))))
    (failed : ∀ error, post repo (.error error)) :
    (canReplay address).Ensures ok repo post := by
  change Prog.Ensures ok (if _ then _ else _) repo post
  unfold Repo.replays at done
  split
  · rename_i running
    have live : (decide ((repo.heap address).state = .running) &&
        decide ((repo.heap address).executionId ≠ none) &&
          (repo.heap address).isOrchestration) = true := by
      simp [running]
    rw [live, Bool.true_and] at done
    split
    · rename_i absent
      rw [absent] at done
      exact done
    · rename_i package found
      rw [found] at done
      dsimp only [Option.any] at done
      refine .bind (Prog.Ensures.ofExcept ?_)
      cases exported : singleExport package with
      | error error => exact failed error
      | ok value =>
          rw [exported] at done
          exact done
  · rename_i idle
    have dead : (decide ((repo.heap address).state = .running) &&
        decide ((repo.heap address).executionId ≠ none) &&
          (repo.heap address).isOrchestration) = false := by
      simpa using idle
    rw [dead, Bool.false_and] at done
    exact done

theorem transition_ensures {address : Nat} {event : RunEvent} {reason : Option Json}
    {target : RunState} {post : Repo → Except Exc Unit → Prop}
    (legal : (repo.heap address).transitionTarget event = some target)
    (done : post (apply (Write.record address (.transition event reason)) repo) (.ok ())) :
    (transition address event reason).Ensures ok repo post := by
  unfold transition
  dsimp only [Prog.Ensures]
  rw [legal]
  exact done

/-- The record is stored, or storage raises. -/
theorem stored {address : Nat} {final : Repo} {post : Repo → Except Exc Bool → Prop}
    (made : ∀ result, post final result) :
    Prog.Ensures ok (Prog.bind (persist address) fun _ => Prog.ret true) final post :=
  .bind (persist_ensures (made _) fun _ => made _)

/-- Recovery computes `Repo.recovered` on each record, unless it raises before. -/
theorem recoverRecord_ensures {address : Nat} {post : Repo → Except Exc Bool → Prop}
    (kept : ∀ error, post repo (.error error))
    (made : ∀ result, post (changed repo address (repo.recovered owners (repo.heap address)))
      result) :
    (recoverRecord owners address).Ensures ok repo post := by
  change Prog.Ensures ok (if _ then _ else _) repo _
  unfold Repo.recovered at made
  split
  · rename_i spared
    have isSpared : (repo.heap address).isSpared owners = true := by
      simpa [RunRecord.isSpared] using spared
    rw [if_pos isSpared, changed_self] at made
    exact made _
  · rename_i stale
    have notSpared : ¬(repo.heap address).isSpared owners = true := by
      simpa [RunRecord.isSpared] using stale
    rw [if_neg notSpared] at made
    refine .bind (canReplay_ensures ?_ kept)
    dsimp only
    split
    · rename_i replays
      rw [if_pos replays] at made
      change Prog.Ensures ok (Prog.bind (persist address) fun _ => Prog.ret true)
        (applyAll (writesAt address
          [.setExecution (repo.heap address).executionId ((repo.heap address).executionEpoch + 1),
            .failActive none none replayReason, .releaseNodes,
            .appendEvent (.runRecovered (repo.heap address).runId (repo.heap address).executionId
              replayReason (some ((repo.heap address).executionEpoch + 1)))]) repo) _
      rw [applyAll_writesAt]
      exact stored made
    · rename_i fails
      rw [if_neg fails] at made
      have live : (repo.heap address).state = .thinking ∨ (repo.heap address).state = .running := by
        by_contra neither
        rw [not_or] at neither
        exact stale (Or.inr neither)
      have legal : ((apply (Write.record address
          (.failActive none none (repo.heap address).restartReason)) repo).heap
            address).transitionTarget .runFailed = some .failed := by
        refine transitionTarget_runFailed ?_
        change (Function.update repo.heap address _ address).state = _ ∨
          (Function.update repo.heap address _ address).state = _
        rw [Function.update_self]
        exact live
      refine .bind (?_ : Prog.Ensures ok (modify address _) repo _)
      refine Prog.Ensures.bind (transition_ensures legal ?_)
      change Prog.Ensures ok (Prog.bind (persist address) fun _ => Prog.ret true)
        (applyAll (writesAt address
          [.failActive none none (repo.heap address).restartReason,
            .transition .runFailed (some (repo.heap address).restartReason),
            .setOutcome (some (repo.heap address).restartOutcome),
            .appendEvent (.runRecovered (repo.heap address).runId (repo.heap address).executionId
              (repo.heap address).restartReason none)]) repo) _
      rw [applyAll_writesAt]
      exact stored made

/-- Recovery does not change what it reads of the other records. -/
theorem replays_changed (repo : Repo) (owners : List String) (address : Nat)
    (record : RunRecord) :
    (changed repo address (repo.recovered owners (repo.heap address))).replays record =
      repo.replays record := by
  have task : ∀ other : RunRecord, (repo.recovered owners other).capabilityPackages =
      other.capabilityPackages ∧
        (repo.recovered owners other).closureContract = other.closureContract := by
    intro other
    unfold Repo.recovered
    split
    · exact ⟨rfl, rfl⟩
    · split
      · exact ⟨rfl, rfl⟩
      · refine ⟨(sameTask_applyAll _ ?_ other).packages, (sameTask_applyAll _ ?_ other).contract⟩
        all_goals simp [RecordWrite.keepsTask]
  generalize isNew : repo.recovered owners (repo.heap address) = new
  have same : (changed repo address new).SamePackages repo := by
    refine ⟨rfl, fun other => ?_, fun other => ?_⟩
    · rw [heap_changed]
      split
      · rename_i isSite
        rw [isSite, ← isNew, (task _).1]
      · rfl
    · rw [heap_changed]
      split
      · rename_i isSite
        rw [isSite, ← isNew, (task _).2]
      · rfl
  unfold Repo.replays
  simp only [same.findPackage]

theorem recovered_changed (repo : Repo) (owners : List String) (address : Nat)
    (record : RunRecord) :
    (changed repo address (repo.recovered owners (repo.heap address))).recovered owners record =
      repo.recovered owners record := by
  have replays := replays_changed repo owners address record
  generalize repo.recovered owners (repo.heap address) = new at replays ⊢
  unfold Repo.recovered
  rw [replays]

/-- The loop changes each record once. -/
theorem recoverRecords_ensures {addresses : List Nat} (distinct : addresses.Nodup) :
    (recoverRecords owners addresses).Ensures ok repo fun after result => ∀ found,
      result = .ok found → after.runs = repo.runs ∧ ∀ address, after.heap address =
        if address ∈ addresses then repo.recovered owners (repo.heap address)
        else repo.heap address := by
  induction addresses generalizing repo with
  | nil =>
      intro found _
      exact ⟨rfl, fun address => by simp⟩
  | cons first rest ih =>
      obtain ⟨isNew, distinctRest⟩ := List.nodup_cons.1 distinct
      refine .bind (recoverRecord_ensures (fun _ found impossible => by cases impossible)
        fun result => ?_)
      cases result with
      | error error => exact fun found impossible => by cases impossible
      | ok flag =>
          refine .bind ((ih distinctRest).mono fun after result others => ?_)
          cases result with
          | error error => exact fun found impossible => by cases impossible
          | ok more =>
              obtain ⟨runs, heap⟩ := others more rfl
              intro found _
              refine ⟨runs, fun address => ?_⟩
              rw [heap address, recovered_changed, heap_changed]
              by_cases isFirst : address = first
              · subst isFirst
                rw [if_neg isNew, if_pos rfl, if_pos List.mem_cons_self]
              · simp [isFirst]

/-- What recovery keeps of each record it keeps over the loop, however that ends. -/
theorem recoverRecords_keeps {holds : Repo → Prop}
    (step : ∀ state address, holds state →
      holds (changed state address (state.recovered owners (state.heap address))))
    (addresses : List Nat) (held : holds repo) :
    (recoverRecords owners addresses).Ensures ok repo fun after _ => holds after := by
  induction addresses generalizing repo with
  | nil => exact held
  | cons first rest ih =>
      have next := step repo first held
      refine .bind (recoverRecord_ensures (fun _ => held) fun result => ?_)
      cases result with
      | error error => exact next
      | ok flag =>
          refine .bind ((ih next).mono fun after result held' => ?_)
          cases result with
          | error error => exact held'
          | ok more => exact held'

theorem recoverStaleRuns_keeps {holds : Repo → Prop}
    (step : ∀ state address, holds state →
      holds (changed state address (state.recovered owners (state.heap address))))
    (held : holds repo) :
    (recoverStaleRuns owners).Ensures ok repo fun after _ => holds after := by
  intro answer _
  match answer with
  | .error error => exact held
  | .ok none => exact recoverRecords_keeps step _ held
  | .ok (some runIds) => exact recoverRecords_keeps step _ held

/-- What `_all_records` may answer: all installed records, or those that storage has a row for. -/
def Lists (answers : (query : Query) → Answer query → Prop) (repo : Repo) (addresses : List Nat) :
    Prop :=
  (answers .allRecords (.ok none) ∧ addresses = repo.runs.map fun entry => entry.2) ∨
    ∃ runIds, answers .allRecords (.ok (some runIds)) ∧
      addresses = runIds.filterMap repo.address?

theorem recoverStaleRuns_ensures {answers : (query : Query) → Answer query → Prop}
    (distinct : ∀ addresses, Lists answers repo addresses → addresses.Nodup) :
    (recoverStaleRuns owners).Ensures answers repo fun after result => ∀ found,
      result = .ok found → after.runs = repo.runs ∧ ∃ addresses, Lists answers repo addresses ∧
        ∀ address, after.heap address =
          if address ∈ addresses then repo.recovered owners (repo.heap address)
          else repo.heap address := by
  have loop : ∀ addresses, Lists answers repo addresses →
      (recoverRecords owners addresses).Ensures answers repo fun after result => ∀ found,
        result = .ok found → after.runs = repo.runs ∧ ∃ addresses, Lists answers repo addresses ∧
          ∀ address, after.heap address =
            if address ∈ addresses then repo.recovered owners (repo.heap address)
            else repo.heap address := by
    intro addresses lists
    refine (recoverRecords_ensures (distinct addresses lists)).mono ?_
    intro after result recovered found isFound
    obtain ⟨runs, heap⟩ := recovered found isFound
    exact ⟨runs, addresses, lists, heap⟩
  intro answer isAnswer
  match answer, isAnswer with
  | .error error, _ => exact fun found impossible => by cases impossible
  | .ok none, isAnswer => exact loop _ (Or.inl ⟨isAnswer, rfl⟩)
  | .ok (some runIds), isAnswer => exact loop _ (Or.inr ⟨runIds, isAnswer, rfl⟩)

end Op

/-! ### Names of runs -/

/-- Every run id is bound once, to a record of that id. -/
structure Repo.Named (repo : Repo) : Prop where
  keys : (repo.runs.map Prod.fst).Nodup
  named : ∀ runId record, repo.run? runId = some record → record.runId = runId

theorem Repo.Named.injective {repo : Repo} (named : repo.Named) {first second : String}
    {address : Nat} (one : repo.address? first = some address)
    (two : repo.address? second = some address) : first = second := by
  have isFirst := named.named first _ (Repo.run?_eq_some.2 ⟨address, one, rfl⟩)
  have isSecond := named.named second _ (Repo.run?_eq_some.2 ⟨address, two, rfl⟩)
  exact isFirst.symm.trans isSecond

/-- No record is listed twice. -/
theorem Repo.Named.distinct {repo : Repo} (named : repo.Named)
    {answers : (query : Query) → Answer query → Prop}
    (table : ∀ runIds, answers .allRecords (.ok (some runIds)) → runIds.Nodup)
    {addresses : List Nat} (lists : Op.Lists answers repo addresses) : addresses.Nodup := by
  rcases lists with ⟨_, rfl⟩ | ⟨runIds, isAnswer, rfl⟩
  · refine List.Nodup.map_on ?_ (List.Nodup.of_map Prod.fst named.keys)
    rintro ⟨first, address⟩ one ⟨second, other⟩ two same
    dsimp only at same
    subst same
    have names := named.injective (Keyed.lookup_of_mem named.keys one)
      (Keyed.lookup_of_mem named.keys two)
    rw [names]
  · refine (table runIds isAnswer).filterMap ?_
    intro first second address one two
    exact named.injective one two

theorem keys_assign {entries : List (String × Nat)} (keys : (entries.map Prod.fst).Nodup)
    (runId : String) (address : Nat) : ((assign entries runId address).map Prod.fst).Nodup := by
  unfold assign
  split
  · have same : ((entries.map fun entry => if entry.1 = runId then (runId, address) else entry).map
        Prod.fst) = entries.map Prod.fst := by
      rw [List.map_map]
      refine List.map_congr_left fun entry _ => ?_
      change (if entry.1 = runId then (runId, address) else entry).1 = entry.1
      split
      · rename_i isRun
        exact isRun.symm
      · rfl
    rw [same]
    exact keys
  · rename_i isNew
    rw [List.map_append, List.nodup_append]
    refine ⟨keys, List.nodup_singleton _, ?_⟩
    rintro name isName other isOther rfl
    rw [List.map_singleton, List.mem_singleton] at isOther
    obtain ⟨⟨_, old⟩, member, rfl⟩ := List.mem_map.1 isName
    dsimp only at isOther
    subst isOther
    rw [Keyed.lookup_of_mem keys member] at isNew
    exact isNew rfl

theorem keys_apply {repo : Repo} (keys : (repo.runs.map Prod.fst).Nodup) (write : Write) :
    ((apply write repo).runs.map Prod.fst).Nodup := by
  cases write with
  | install runId address => exact keys_assign keys runId address
  | _ => exact keys

end Loom
