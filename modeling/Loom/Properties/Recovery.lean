import Loom.Observer.Boards
import Loom.Observer.Execution
import Loom.Observer.Recovery

/-!
# Recovery of stale runs

After `recover_stale_runs` the attempts of a recovered run are over, and no later call makes one of
them active again, so that every later report on them is refused.
-/

namespace Loom

open Coroutine

/-! ### Attempts that are over -/

/-- The update makes no attempt active that exists already. -/
def RecordWrite.settles : RecordWrite → Bool
  | .updateAttempt _ change => !change.state.isActive
  | _ => true

/-- `attempt` is still there as `attempt'`, and not active if it was not. -/
structure Attempt.Retires (attempt attempt' : Attempt) : Prop where
  attemptId : attempt'.attemptId = attempt.attemptId
  inactive : attempt.state.isActive = false → attempt'.state.isActive = false

namespace Attempt.Retires

theorem refl (attempt : Attempt) : attempt.Retires attempt := ⟨rfl, id⟩

theorem trans {first second third : Attempt} (earlier : first.Retires second)
    (later : second.Retires third) : first.Retires third :=
  ⟨later.attemptId.trans earlier.attemptId, fun inactive =>
    later.inactive (earlier.inactive inactive)⟩

theorem update {change : AttemptUpdate} (attempt : Attempt)
    (inactive : change.state.isActive = false) : attempt.Retires (attempt.update change) :=
  ⟨rfl, fun _ => inactive⟩

theorem failIfActive (attempt : Attempt) (nodeId attemptId : Option String) (reason : Json) :
    attempt.Retires (attempt.failIfActive nodeId attemptId reason) := by
  unfold Attempt.failIfActive
  split
  · exact update attempt rfl
  · exact refl attempt

end Attempt.Retires

namespace Board

theorem attempts_after {board : Board} {update : RecordWrite} (settles : update.settles = true)
    {attempt' : Attempt} (member : attempt' ∈ (board.after update).attempts) :
    (∃ attempt ∈ board.attempts, attempt.Retires attempt') ∨
      update.newAttempt? = some attempt' := by
  cases update with
  | appendAttempt attempt =>
      rcases List.mem_append.1 member with isOld | isNew
      · exact Or.inl ⟨attempt', isOld, .refl attempt'⟩
      · rw [List.mem_singleton.1 isNew]
        exact Or.inr rfl
  | updateAttempt index change =>
      have inactive : change.state.isActive = false := by
        simpa [RecordWrite.settles] using settles
      obtain ⟨position, isAttempt⟩ := List.getElem?_of_mem member
      change (board.attempts.modify index _)[position]? = some attempt' at isAttempt
      rw [List.getElem?_modify] at isAttempt
      obtain ⟨attempt, isOld, rfl⟩ := Option.map_eq_some_iff.1 isAttempt
      refine Or.inl ⟨attempt, List.mem_of_getElem? isOld, ?_⟩
      split
      · exact .update attempt inactive
      · exact .refl attempt
  | failActive nodeId attemptId reason =>
      obtain ⟨attempt, isOld, rfl⟩ := List.mem_map.1 member
      exact Or.inl ⟨attempt, isOld, .failIfActive attempt nodeId attemptId reason⟩
  | _ => exact Or.inl ⟨attempt', member, .refl attempt'⟩

theorem attempts_foldl {updates : List RecordWrite}
    (settle : ∀ update ∈ updates, update.settles = true) (board : Board) {attempt' : Attempt}
    (member : attempt' ∈ (updates.foldl after board).attempts) :
    (∃ attempt ∈ board.attempts, attempt.Retires attempt') ∨
      ∃ attempt ∈ updates.filterMap RecordWrite.newAttempt?, attempt.Retires attempt' := by
  induction updates generalizing board with
  | nil => exact Or.inl ⟨attempt', member, .refl attempt'⟩
  | cons update updates ih =>
      have first := settle update List.mem_cons_self
      rcases ih (fun other isOther => settle other (List.mem_cons_of_mem _ isOther))
        (board.after update) member with ⟨middle, isMiddle, later⟩ | ⟨new, isNew, later⟩
      · rcases attempts_after first isMiddle with ⟨attempt, isOld, earlier⟩ | isNew
        · exact Or.inl ⟨attempt, isOld, earlier.trans later⟩
        · refine Or.inr ⟨middle, ?_, later⟩
          rw [List.filterMap_cons, isNew]
          exact List.mem_cons_self
      · refine Or.inr ⟨new, ?_, later⟩
        rw [List.filterMap_cons]
        split
        · exact isNew
        · exact List.mem_cons_of_mem _ isNew

end Board

theorem runId_apply (update : RecordWrite) (record : RunRecord) :
    (apply update record).runId = record.runId := by
  cases update with
  | transition event reason =>
      obtain ⟨state, events, same⟩ := apply_transition record event reason
      rw [same]
  | _ => rfl

theorem runId_applyAll (updates : List RecordWrite) (record : RunRecord) :
    (applyAll updates record).runId = record.runId := by
  induction updates generalizing record with
  | nil => rfl
  | cons update updates ih => rw [applyAll_cons, ih, runId_apply]

/-- How the attempts of a record go on: those that were there retire, and new ones have ids that
were drawn in between. -/
structure Continues (env : Env) (before after : View) : Prop where
  uuids : before.uuids ≤ after.uuids
  runId : after.record.runId = before.record.runId
  attempts : ∀ attempt' ∈ after.record.attempts,
    (∃ attempt ∈ before.record.attempts, attempt.Retires attempt') ∨
      ∃ number, before.uuids ≤ number ∧ number < after.uuids ∧
        attempt'.attemptId = "attempt-" ++ env.hex number

section Continues

variable {env : Env} {ok : (query : Query) → Answer query → Prop} {site : Site} {call : Call}
  {updates : List RecordWrite} {fate : Fate}

theorem Change.settle (change : Change env ok Repo.Still site call updates fate) :
    ∀ update ∈ updates, update.settles = true := by
  intro update member
  have listed : updates.all RecordWrite.settles = true := by
    cases change
    case settled | settledLate =>
        simp [RecordWrite.settles, TerminalState.attemptState_inactive]
    case nodeCompleted | nodeCompletedUnresolved | nodeUndecided | nodeUndecidedUnresolved |
        nodeLate =>
        simp [RecordWrite.settles, NodeSettled.attemptUpdate,
          TerminalState.attemptState_inactive]
    all_goals rfl
  exact List.all_eq_true.1 listed update member

/-- Write blocks that add at most one attempt, under an id that they have drawn. -/
theorem continues_of_updates (settle : ∀ update ∈ updates, update.settles = true)
    (later : site.start.uuids ≤ site.uuids)
    (added : updates.filterMap RecordWrite.newAttempt? = [] ∨
      ∃ attempt number, updates.filterMap RecordWrite.newAttempt? = [attempt] ∧
        attempt.attemptId = "attempt-" ++ env.hex number ∧ site.Drawn number) :
    Continues env ⟨site.start.uuids, site.record⟩
      ⟨site.uuids, applyAll updates site.record⟩ := by
  refine ⟨later, runId_applyAll updates site.record, fun attempt' member => ?_⟩
  have board := congrArg Board.attempts (Board.board_applyAll updates site.record)
  change (applyAll updates site.record).attempts = _ at board
  dsimp only at member
  rw [board] at member
  rcases Board.attempts_foldl settle site.record.board member with isOld | ⟨new, isNew, retires⟩
  · exact Or.inl isOld
  · rcases added with none | ⟨attempt, number, one, named, drawn⟩
    · rw [none] at isNew
      cases isNew
    · rw [one] at isNew
      rw [List.mem_singleton.1 isNew] at retires
      exact Or.inr ⟨number, drawn.1, drawn.2, retires.attemptId.trans named⟩

theorem continues_of_board {before after : View} (uuids : before.uuids ≤ after.uuids)
    (runId : after.record.runId = before.record.runId)
    (same : after.record.board = before.record.board) : Continues env before after := by
  refine ⟨uuids, runId, fun attempt' member => Or.inl ⟨attempt', ?_, .refl attempt'⟩⟩
  have attempts : after.record.attempts = before.record.attempts := congrArg Board.attempts same
  rwa [attempts] at member

theorem continues_rule : Rule env ok (fun _ _ => True) (Continues env) where
  still later still := by
    obtain ⟨events, packages, -, same⟩ := still.same
    exact continues_of_board later (by rw [same]) (Board.board_still still)
  trans one two := by
    refine ⟨one.uuids.trans two.uuids, two.runId.trans one.runId, fun attempt'' member => ?_⟩
    rcases two.attempts attempt'' member with ⟨attempt', isMiddle, later⟩ | ⟨number, low, high, id⟩
    · rcases one.attempts attempt' isMiddle with ⟨attempt, isOld, earlier⟩ | ⟨number, low, high, id⟩
      · exact Or.inl ⟨attempt, isOld, earlier.trans later⟩
      · have uuids := two.uuids
        exact Or.inr ⟨number, low, by omega, later.attemptId.trans id⟩
    · have uuids := one.uuids
      exact Or.inr ⟨number, by omega, high, id⟩
  change change undisturbed _ _ :=
    continues_of_updates change.settle undisturbed.later change.newAttempts
  reassign move undisturbed :=
    continues_of_updates (List.all_eq_true.1 rfl) undisturbed.later
      (.inr ⟨move.replacement, move.number, rfl, rfl, move.drawn⟩)
  draft {site operations draft record} change undisturbed _ packed := by
    refine continues_of_board undisturbed.later (runId_applyAll draft record) ?_
    change (applyAll draft record).board = record.board
    rw [Board.board_applyAll]
    cases change <;> rfl

/-! ### Histories -/

/-- Every run id is bound once to a record of that id, whose attempts have ids drawn so far. -/
structure Repo.Numbered (env : Env) (repo : Repo) : Prop where
  allocated : repo.Allocated
  named : repo.Named
  drawn : ∀ runId record, repo.run? runId = some record → ∀ attempt ∈ record.attempts,
    ∃ number < repo.uuids, attempt.attemptId = "attempt-" ++ env.hex number

theorem Repo.Numbered.step {before after : Repo} {result : Except Exc Reply}
    (numbered : before.Numbered env) (runs : (call.prog env).Runs ok before after result) :
    after.Numbered env := by
  have rule : Rule env ok (fun _ _ => True) (Continues env) := continues_rule
  obtain ⟨allocated, relates⟩ := rule.relates numbered.allocated trivial runs
  have keys := runs.preserves (fun repo => (repo.runs.map Prod.fst).Nodup)
    (fun write repo keys => keys_apply keys write) numbered.named.keys
  refine ⟨allocated, ⟨keys, fun runId record' found => ?_⟩,
    fun runId record' found attempt' member => ?_⟩
  · rcases relates runId record' found with ⟨record, installed, continues⟩ | ⟨args, -, isNew⟩
    · exact continues.runId.trans (numbered.named.named runId record installed)
    · obtain ⟨contract, draft, createdAt, -, rfl⟩ := isNew.isNew
      rfl
  · rcases relates runId record' found with ⟨record, installed, continues⟩ | ⟨args, -, isNew⟩
    · rcases continues.attempts attempt' member with ⟨attempt, isOld, retires⟩ |
        ⟨number, low, high, id⟩
      · obtain ⟨number, early, id⟩ := numbered.drawn runId record installed attempt isOld
        have uuids := continues.uuids
        dsimp only at uuids
        exact ⟨number, by omega, retires.attemptId.trans id⟩
      · exact ⟨number, high, id⟩
    · obtain ⟨contract, draft, createdAt, -, rfl⟩ := isNew.isNew
      cases member

theorem Repo.numbered_empty : Repo.empty.Numbered env :=
  ⟨fun _ _ found => (by cases found), ⟨List.nodup_nil, fun _ _ found => (by cases found)⟩,
    fun _ _ found => (by cases found)⟩

theorem Observed.numbered {entries : List (Entry Repo Exc Answer Reply Call)} {repo : Repo}
    (history : Observed env ok entries repo) : repo.Numbered env :=
  history.preserves (fun entry member numbered =>
    numbered.step (history.runs entry member)) Repo.numbered_empty

/-- Attempts with some ids, which were drawn before `bound`, are over in the record of a run. -/
structure Repo.Over (ids : List String) (runId : String) (bound : Nat) (repo : Repo) : Prop where
  allocated : repo.Allocated
  uuids : bound ≤ repo.uuids
  inactive : ∀ record, repo.run? runId = some record → ∀ attempt ∈ record.attempts,
    attempt.attemptId ∈ ids → attempt.state.isActive = false

/-- No later call makes such an attempt active again. -/
theorem Repo.Over.step (injective : Function.Injective env.hex) {ids : List String}
    {runId : String} {bound : Nat}
    (early : ∀ attemptId ∈ ids, ∃ number < bound, attemptId = "attempt-" ++ env.hex number)
    {before after : Repo} {result : Except Exc Reply}
    (isOver : before.Over ids runId bound) (runs : (call.prog env).Runs ok before after result) :
    after.Over ids runId bound := by
  have rule : Rule env ok (fun _ _ => True) (Continues env) := continues_rule
  obtain ⟨allocated, relates⟩ := rule.relates isOver.allocated trivial runs
  have uuids : before.uuids ≤ after.uuids :=
    runs.preserves (fun repo => before.uuids ≤ repo.uuids)
      (fun write repo drawn => drawn.trans (uuids_le [write] repo)) (le_refl _)
  refine ⟨allocated, isOver.uuids.trans uuids, fun record' found attempt' member isOld => ?_⟩
  rcases relates runId record' found with ⟨record, installed, continues⟩ | ⟨args, -, isNew⟩
  · rcases continues.attempts attempt' member with ⟨attempt, isAttempt, retires⟩ |
      ⟨number, low, high, id⟩
    · rw [retires.attemptId] at isOld
      exact retires.inactive (isOver.inactive record installed attempt isAttempt isOld)
    · obtain ⟨other, isEarly, same⟩ := early _ isOld
      rw [id] at same
      have equal := injective ((String.append_right_inj _).1 same)
      have bounded := isOver.uuids
      dsimp only at low
      omega
  · obtain ⟨contract, draft, createdAt, -, rfl⟩ := isNew.isNew
    cases member

end Continues

/-! ### Late reports -/

/-- The call reports on an attempt of a run. -/
def Call.Reports (call : Call) (runId attemptId : String) : Prop :=
  (∃ result, call = .recordResult runId result ∧
      Dict.get result "attempt_id" = .str attemptId) ∨
    ∃ nodeId result, call = .recordDynamicNodeResult runId nodeId result ∧
      Dict.get result.entries "attempt_id" = .str attemptId

section Reports

variable {env : Env} {ok : (query : Query) → Answer query → Prop} {repo : Repo}

end Reports

/-! ### The effect of a recovery -/

section Effect

variable {env : Env} {ok answers : (query : Query) → Answer query → Prop} {owners : List String}
  {before after : Repo} {reply : Reply}

/-- Storage has a row for the run, where `_all_records` asks storage. -/
def Listed (answers : (query : Query) → Answer query → Prop) (runId : String) : Prop :=
  ∀ runIds, answers .allRecords (.ok (some runIds)) → runId ∈ runIds

/-- A recovery that returns has made `Repo.recovered` of the records that are listed. -/
theorem recovery_effect (numbered : before.Numbered env)
    (table : ∀ runIds, answers .allRecords (.ok (some runIds)) → runIds.Nodup)
    (runs : ((Call.recoverStaleRuns owners).prog env).Runs answers before after (.ok reply)) :
    (∀ runId, (after.run? runId).isSome = (before.run? runId).isSome) ∧
      ∀ runId record, before.run? runId = some record →
        (record.isSpared owners = true → after.run? runId = some record) ∧
        (Listed answers runId → after.run? runId = some (before.recovered owners record)) := by
  have spec : ((Call.recoverStaleRuns owners).prog env).Ensures answers before fun after result =>
      ∀ reply, result = .ok reply → after.runs = before.runs ∧ ∃ addresses,
        Op.Lists answers before addresses ∧ ∀ address, after.heap address =
          if address ∈ addresses then before.recovered owners (before.heap address)
          else before.heap address := by
    refine .map ((Op.recoverStaleRuns_ensures fun addresses lists =>
      numbered.named.distinct table lists).mono ?_)
    intro final result recovered reply isReply
    cases result with
    | error error => cases isReply
    | ok found => exact recovered found rfl
  obtain ⟨sameRuns, addresses, lists, heap⟩ := spec.runs runs reply rfl
  have sameAddress : ∀ runId, after.address? runId = before.address? runId := by
    intro runId
    unfold Repo.address?
    rw [sameRuns]
  refine ⟨fun runId => ?_, fun runId record installed => ?_⟩
  · unfold Repo.run?
    rw [sameAddress, Option.isSome_map, Option.isSome_map]
  · obtain ⟨address, isAddress, rfl⟩ := Repo.run?_eq_some.1 installed
    have found : ∀ record', after.heap address = record' → after.run? runId = some record' :=
      fun record' same => Repo.run?_eq_some.2 ⟨address, (sameAddress runId).trans isAddress, same⟩
    refine ⟨fun spared => found _ ?_, fun listed => found _ ?_⟩
    · rw [heap address]
      split
      · exact if_pos spared
      · rfl
    · rw [heap address, if_pos]
      rcases lists with ⟨_, rfl⟩ | ⟨runIds, isAnswer, rfl⟩
      · exact List.mem_map.2 ⟨(runId, address), Keyed.mem_of_lookup isAddress, rfl⟩
      · exact List.mem_filterMap.2 ⟨runId, listed runIds isAnswer, isAddress⟩

end Effect

/-! ### Concrete recoveries -/

namespace Demo

/-- A recovery without owners. -/
def recovery (repo : Repo) : Repo × Except Exc Reply :=
  ((Call.recoverStaleRuns []).prog env).run usual repo

/-- A recovery that returns, as a run against the usual answers. -/
theorem recovery_runs {repo : Repo} (returns : (recovery repo).2.toBool = true) :
    ∃ reply, ((Call.recoverStaleRuns []).prog env).Runs
      (fun query answer => answer = usual query) repo (recovery repo).1 (.ok reply) := by
  have runs : ((Call.recoverStaleRuns []).prog env).Runs
      (fun query answer => answer = usual query) repo (recovery repo).1 (recovery repo).2 := by
    refine Prog.runs_run usual ?_ _ repo
    exact fun query => rfl
  cases isResult : (recovery repo).2 with
  | ok reply =>
      rw [isResult] at runs
      exact ⟨reply, runs⟩
  | error error =>
      rw [isResult] at returns
      cases returns

end Demo

end Loom
