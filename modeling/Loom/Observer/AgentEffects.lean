import Loom.Coroutine.Ensures
import Loom.Observer.Agents
import Mathlib.Data.List.Dedup

/-!
# What the registry's operations do

Outside of a registration a row only fades: it keeps its key, its epoch and its lease, and it
does not become active.  A registration supersedes rows and puts one active row.  Each
operation is described once in these terms, together with what its result says about the rows.
-/

namespace Loom

open Coroutine

/-- How a row may change without a registration. -/
structure AgentRow.Fades (old new : AgentRow) : Prop where
  key : new.key = old.key
  epoch : new.epoch = old.epoch
  leaseIdHash : new.leaseIdHash = old.leaseIdHash
  active : new.leaseState = .active → old.leaseState = .active

namespace AgentRow.Fades

theorem refl (row : AgentRow) : row.Fades row := ⟨rfl, rfl, rfl, id⟩

theorem trans {first second third : AgentRow} (earlier : first.Fades second)
    (later : second.Fades third) : first.Fades third :=
  ⟨later.key.trans earlier.key, later.epoch.trans earlier.epoch,
    later.leaseIdHash.trans earlier.leaseIdHash, fun active => earlier.active (later.active active)⟩

theorem expireAt (row : AgentRow) (now : Timestamp) : row.Fades (row.expireAt now) :=
  ⟨rfl, rfl, rfl, fun active => by cases active⟩

theorem seenAt (row : AgentRow) (now : Timestamp) : row.Fades (row.seenAt now) :=
  ⟨rfl, rfl, rfl, id⟩

theorem releaseAt (row : AgentRow) (now : Timestamp) : row.Fades (row.releaseAt now) :=
  ⟨rfl, rfl, rfl, fun active => by cases active⟩

theorem isListed {old new : AgentRow} (fades : old.Fades new)
    (workspaceId : String) (role : Option AgentRole) :
    new.isListed workspaceId role = old.isListed workspaceId role := by
  have same := fades.key
  simp only [AgentRow.key, Prod.mk.injEq] at same
  simp [AgentRow.isListed, same]

end AgentRow.Fades

/-- The rows fade, and those of the workspaces `outside` do not change. -/
def Registry.Fading (outside : String → Prop) (before after : Registry) : Prop :=
  ∃ change : AgentRow → AgentRow, (∀ row : AgentRow, row.Fades (change row)) ∧
    (∀ row : AgentRow, outside row.workspaceId → change row = row) ∧
      after = { before with agents := before.agents.map change }

namespace Registry.Fading

variable {outside : String → Prop} {before middle after : Registry}

theorem refl (registry : Registry) : registry.Fading outside registry :=
  ⟨id, AgentRow.Fades.refl, fun _ _ => rfl, by simp⟩

theorem trans (earlier : before.Fading outside middle) (later : middle.Fading outside after) :
    before.Fading outside after := by
  obtain ⟨first, fades, fixed, rfl⟩ := earlier
  obtain ⟨second, fades', fixed', rfl⟩ := later
  refine ⟨second ∘ first, fun row => (fades row).trans (fades' _), ?_, by simp⟩
  intro row isOutside
  rw [Function.comp_apply, fixed row isOutside, fixed' row isOutside]

theorem mono {fewer : String → Prop} (fading : before.Fading outside after)
    (weakens : ∀ workspaceId, fewer workspaceId → outside workspaceId) :
    before.Fading fewer after := by
  obtain ⟨change, fades, fixed, same⟩ := fading
  exact ⟨change, fades, fun row isOutside => fixed row (weakens _ isOutside), same⟩

theorem uuids (fading : before.Fading outside after) : after.uuids = before.uuids := by
  obtain ⟨change, _, _, rfl⟩ := fading
  rfl

theorem keys (fading : before.Fading outside after) :
    after.agents.map AgentRow.key = before.agents.map AgentRow.key := by
  obtain ⟨change, fades, _, rfl⟩ := fading
  rw [List.map_map]
  exact List.map_congr_left fun row _ => (fades row).key

/-- Every row of the new table was in the old one. -/
theorem origin (fading : before.Fading outside after) {row : AgentRow}
    (member : row ∈ after.agents) : ∃ old ∈ before.agents, old.Fades row := by
  obtain ⟨change, fades, _, rfl⟩ := fading
  obtain ⟨old, isOld, rfl⟩ := List.mem_map.1 member
  exact ⟨old, isOld, fades old⟩

/-- Every row of the old table is in the new one. -/
theorem image (fading : before.Fading outside after) {row : AgentRow}
    (member : row ∈ before.agents) : ∃ new ∈ after.agents, row.Fades new := by
  obtain ⟨change, fades, _, rfl⟩ := fading
  exact ⟨change row, List.mem_map_of_mem member, fades row⟩

theorem fixed (fading : before.Fading outside after) {row : AgentRow}
    (member : row ∈ before.agents) (isOutside : outside row.workspaceId) :
    row ∈ after.agents := by
  obtain ⟨change, _, fixed, rfl⟩ := fading
  exact List.mem_map.2 ⟨row, member, fixed row isOutside⟩

end Registry.Fading

/-- Every workspace may be touched. -/
def nowhere : String → Prop := fun _ => False

theorem Registry.fading_changeAgent (registry : Registry) (key : AgentKey)
    {change : AgentRow → AgentRow} (fades : ∀ row : AgentRow, row.Fades (change row)) :
    registry.Fading nowhere
      { registry with agents := changeAgent registry.agents key change } := by
  refine ⟨fun row => if row.key = key then change row else row, ?_, ?_, rfl⟩
  · intro row
    dsimp only
    split
    · exact fades row
    · exact .refl row
  · intro row isNowhere
    exact isNowhere.elim

namespace AgentOp

variable {env : AgentEnv} {registry : Registry}

theorem commit_ensures {post : Registry → Except Exc Unit → Prop} (done : post registry (.ok ()))
    (failed : ∀ error, post registry (.error error)) :
    (commit env).Ensures AgentAnswer.Allowed registry post := by
  unfold commit
  cases env.storage with
  | memory => exact done
  | database =>
      intro answer allowed
      refine Prog.Ensures.ofExcept ?_
      cases answer with
      | ok value => exact done
      | error error => exact failed error

theorem selected_ensures {found : List AgentRow}
    {post : Registry → Except Exc (List AgentRow) → Prop}
    (holds : ∀ rows : List AgentRow, rows.Perm found → post registry (.ok rows)) :
    (selected env found).Ensures AgentAnswer.Allowed registry post := by
  unfold selected
  cases env.storage with
  | memory => exact holds found (List.Perm.refl found)
  | database => exact fun answer allowed => holds answer allowed

section Listing

variable {workspaceId : String} {role : Option AgentRole} {cutoff : Timestamp}
variable {expired : AgentRow → AgentRow}

theorem expireStale_fades (fades : ∀ row : AgentRow, row.Fades (expired row)) (row : AgentRow) :
    row.Fades (expireStale workspaceId role cutoff expired row) := by
  unfold expireStale
  split
  · exact fades row
  · exact .refl row

theorem expireStale_other {row : AgentRow} (other : row.workspaceId ≠ workspaceId) :
    expireStale workspaceId role cutoff expired row = row := by
  simp [expireStale, AgentRow.isListed, other]

theorem expireStale_fresh {row : AgentRow} (fresh : row.isStale cutoff = false) :
    expireStale workspaceId role cutoff expired row = row := by
  simp [expireStale, fresh]

/-- The table after stale rows of a listing have expired. -/
theorem fading_expireStale (fades : ∀ row : AgentRow, row.Fades (expired row)) :
    registry.Fading (· ≠ workspaceId)
      { registry with
        agents := registry.agents.map (expireStale workspaceId role cutoff expired) } :=
  ⟨_, expireStale_fades fades, fun _ => expireStale_other, rfl⟩

/-- A listing touches its own workspace only, and returns rows as they are after it. -/
theorem listAgents_ensures :
    (listAgents env workspaceId role).Ensures AgentAnswer.Allowed registry fun after result =>
      registry.Fading (· ≠ workspaceId) after ∧ ∀ rows, result = .ok rows →
        ∀ row ∈ rows, row ∈ after.agents ∧ row.isListed workspaceId role := by
  unfold listAgents
  cases isStorage : env.storage with
  | memory =>
      intro (now : Timestamp) _
      have fades : ∀ row : AgentRow, row.Fades { row with leaseState := .expired } :=
        fun row => ⟨rfl, rfl, rfl, fun active => by cases active⟩
      refine ⟨fading_expireStale fades, ?_⟩
      rintro rows ⟨⟩ row member
      obtain ⟨old, isOld, rfl⟩ := List.mem_map.1 member
      obtain ⟨isRow, isListed⟩ := List.mem_filter.1 isOld
      refine ⟨List.mem_map_of_mem isRow, ?_⟩
      rwa [(expireStale_fades fades old).isListed]
  | database =>
      intro (now : Timestamp) _
      refine .bind fun later _ => ?_
      dsimp only [bind, Prog.bind]
      have fades := fun row : AgentRow => AgentRow.Fades.expireAt row later
      refine .bind (selected_ensures fun rows isFound => ?_)
      have listed : ∀ row ∈ rows, row ∈ registry.agents ∧ row.isListed workspaceId role :=
        fun row member => List.mem_filter.1 (isFound.mem_iff.1 member)
      dsimp only
      split
      · refine .bind (commit_ensures ?_ ?_)
        · refine ⟨fading_expireStale fades, ?_⟩
          rintro _ ⟨⟩ row member
          obtain ⟨old, isOld, rfl⟩ := List.mem_map.1 member
          refine ⟨List.mem_map_of_mem (listed old isOld).1, ?_⟩
          rw [(expireStale_fades fades old).isListed]
          exact (listed old isOld).2
        · exact fun error => ⟨.refl registry, fun _ impossible => by cases impossible⟩
      · rename_i noneStale
        refine ⟨.refl registry, ?_⟩
        rintro _ ⟨⟩ row member
        obtain ⟨old, isOld, rfl⟩ := List.mem_map.1 member
        have fresh : old.isStale (now - max 1000000 env.agentLeaseTtl) = false := by
          by_contra isStale
          exact noneStale
            (List.any_eq_true.2 ⟨old, isFound.mem_iff.1 isOld, by simpa using isStale⟩)
        rw [expireStale_fresh fresh]
        exact listed old isOld

end Listing

/-- The row that is looked up is in the table and has the key asked for. -/
theorem agentRecord_ensures {workspaceId agentId instanceId : String} {role : AgentRole} :
    (agentRecord env workspaceId role agentId (some instanceId)).Ensures AgentAnswer.Allowed
      registry fun after result => after = registry ∧ ∀ row, result = .ok (some row) →
        row ∈ registry.agents ∧ row.key = (workspaceId, role, agentId, instanceId) := by
  refine .get (.bind (selected_ensures fun rows isFound => ⟨rfl, ?_⟩))
  intro row found
  have member := List.mem_of_head? (Except.ok.inj found)
  rw [List.mem_insertionSort, isFound.mem_iff, List.mem_filter] at member
  obtain ⟨isRow, isMatch⟩ := member
  simp only [Bool.and_eq_true, decide_eq_true_eq, Option.all_some] at isMatch
  obtain ⟨⟨⟨sameWorkspace, sameRole⟩, sameAgent⟩, sameInstance⟩ := isMatch
  exact ⟨isRow, by rw [AgentRow.key, sameWorkspace, sameRole, sameAgent, sameInstance]⟩

/-- What a claim's row satisfies, whether or not the claim holds. -/
structure Claims (claim : LeaseClaim) (row : AgentRow) : Prop where
  role : row.role = claim.role
  agentId : row.agentId = claim.agentId
  workspace : ∀ workspaceId, claim.workspaceId = some workspaceId → row.workspaceId = workspaceId

theorem claimedRecord_ensures {claim : LeaseClaim} :
    (claimedRecord env claim).Ensures AgentAnswer.Allowed registry fun after result =>
      registry.Fading nowhere after ∧ ∀ row, result = .ok (some row) →
        row ∈ after.agents ∧ Claims claim row := by
  unfold claimedRecord
  split
  · rename_i workspaceId named
    refine .bind ((listAgents_ensures).mono ?_)
    rintro middle result ⟨fading, _⟩
    have fading := fading.mono fun other impossible => (impossible : False).elim
    cases result with
    | error error => exact ⟨fading, fun _ impossible => by cases impossible⟩
    | ok rows =>
        refine (agentRecord_ensures).mono ?_
        rintro after result ⟨rfl, found⟩
        refine ⟨fading, fun row isResult => ?_⟩
        obtain ⟨member, sameKey⟩ := found row isResult
        simp only [AgentRow.key, Prod.mk.injEq] at sameKey
        refine ⟨member, sameKey.2.1, sameKey.2.2.1, ?_⟩
        intro other isOther
        rw [named] at isOther
        cases isOther
        exact sameKey.1
  · rename_i unnamed
    refine .get (.bind (selected_ensures fun rows isFound => ⟨.refl registry, ?_⟩))
    intro row found
    have member := List.mem_of_head? (Except.ok.inj found)
    rw [isFound.mem_iff, List.mem_filter] at member
    obtain ⟨isRow, isMatch⟩ := member
    simp only [Bool.and_eq_true, decide_eq_true_eq] at isMatch
    refine ⟨isRow, isMatch.1, isMatch.2, fun other isOther => ?_⟩
    rw [unnamed] at isOther
    cases isOther

/-- A heartbeat is accepted for a row that holds the active lease it names, and leaves it so. -/
theorem heartbeatAgent_ensures {claim : LeaseClaim} :
    (heartbeatAgent env claim).Ensures AgentAnswer.Allowed registry fun after result =>
      registry.Fading nowhere after ∧ ∀ lease, result = .ok lease →
        ∃ row ∈ after.agents, Claims claim row ∧ claim.holds env row = true := by
  refine .bind ((claimedRecord_ensures).mono ?_)
  rintro middle result ⟨fading, found⟩
  match result with
  | .error error => exact ⟨fading, fun _ impossible => by cases impossible⟩
  | .ok none => exact ⟨fading, fun _ impossible => by cases impossible⟩
  | .ok (some record) =>
      obtain ⟨member, claims⟩ := found record rfl
      refine .bind (.guard (fun holds => ?_) fun _ => ?_)
      · refine .bind fun now _ => .bind (commit_ensures ?_ ?_)
        · refine ⟨fading.trans (middle.fading_changeAgent _ fun row => .seenAt row now), ?_⟩
          intro lease isLease
          refine ⟨record.seenAt now, ?_, ⟨claims.role, claims.agentId, claims.workspace⟩, holds⟩
          refine List.mem_map.2 ⟨record, member, if_pos ?_⟩
          simp only [LeaseClaim.holds, Bool.and_eq_true, decide_eq_true_eq] at holds
          rw [AgentRow.key, claims.role, claims.agentId, holds.1.1.1]
        · exact fun error => ⟨fading, fun _ impossible => by cases impossible⟩
      · exact ⟨fading, fun _ impossible => by cases impossible⟩

theorem releaseAgent_ensures {claim : LeaseClaim} :
    (releaseAgent env claim).Ensures AgentAnswer.Allowed registry fun after _ =>
      registry.Fading nowhere after := by
  refine .bind ((heartbeatAgent_ensures).mono ?_)
  rintro middle result ⟨fading, _⟩
  cases result with
  | error error => exact fading
  | ok lease =>
      dsimp only
      split
      · exact fading
      · refine .bind fun now _ => .bind (commit_ensures ?_ fun _ => fading)
        exact fading.trans (middle.fading_changeAgent _ fun row => .releaseAt row now)

/-- Listing further workspaces keeps the rows of the others. -/
theorem listDrivers_ensures {workspaces : List String} (distinct : workspaces.Nodup) :
    (listDrivers env workspaces).Ensures AgentAnswer.Allowed registry fun after result =>
      registry.Fading (· ∉ workspaces) after ∧ ∀ rows, result = .ok rows →
        ∀ row ∈ rows, row ∈ after.agents ∧ row.role = .driver := by
  induction workspaces generalizing registry with
  | nil =>
      refine ⟨.refl registry, ?_⟩
      rintro _ ⟨⟩ row member
      cases member
  | cons workspaceId rest ih =>
      obtain ⟨isNew, distinct⟩ := List.nodup_cons.1 distinct
      refine .bind ((listAgents_ensures).mono ?_)
      rintro middle result ⟨fading, listed⟩
      have fading : registry.Fading (· ∉ workspaceId :: rest) middle := fading.mono fun other => by
        rintro absent rfl
        exact absent List.mem_cons_self
      cases result with
      | error error => exact ⟨fading, fun _ impossible => by cases impossible⟩
      | ok rows =>
          refine .bind ((ih distinct).mono ?_)
          rintro after result ⟨later, more⟩
          have whole := fading.trans (later.mono fun other absent isRest =>
            absent (List.mem_cons_of_mem _ isRest))
          cases result with
          | error error => exact ⟨whole, fun _ impossible => by cases impossible⟩
          | ok others =>
              refine ⟨whole, ?_⟩
              rintro _ ⟨⟩ row member
              rcases List.mem_append.1 member with member | member
              · obtain ⟨isRow, isListed⟩ := listed rows rfl row member
                simp only [AgentRow.isListed, Bool.and_eq_true, decide_eq_true_eq,
                  Option.all_some] at isListed
                refine ⟨later.fixed isRow ?_, isListed.2⟩
                rwa [isListed.1]
              · exact more others rfl row member

theorem driverCandidates_ensures {requested : Json} :
    (driverCandidates env requested).Ensures AgentAnswer.Allowed registry fun after result =>
      registry.Fading nowhere after ∧ ∀ rows, result = .ok rows →
        ∀ row ∈ rows, row ∈ after.agents ∧ row.role = .driver := by
  refine .bind ((listAgents_ensures).mono ?_)
  rintro middle result ⟨fading, listed⟩
  have fading := fading.mono fun other impossible => (impossible : False).elim
  cases result with
  | error error => exact ⟨fading, fun _ impossible => by cases impossible⟩
  | ok rows =>
      dsimp only
      split
      · refine .get (.bind fun workspaces isSet => ?_)
        have distinct : List.Nodup workspaces := by
          rw [List.Perm.nodup_iff isSet]
          exact List.nodup_dedup _
        refine (listDrivers_ensures distinct).mono ?_
        rintro after result ⟨later, more⟩
        exact ⟨fading.trans (later.mono fun other impossible => (impossible : False).elim), more⟩
      · refine ⟨fading, ?_⟩
        rintro _ ⟨⟩ row member
        obtain ⟨isRow, isListed⟩ := listed rows rfl row member
        simp only [AgentRow.isListed, Bool.and_eq_true, decide_eq_true_eq,
          Option.all_some] at isListed
        exact ⟨isRow, isListed.2⟩

/-- A row holds the active lease that a command names. -/
structure Sends (env : AgentEnv) (command : DriverCommand) (row : AgentRow) : Prop where
  role : row.role = .driver
  agentId : row.agentId = command.driverId
  instanceId : row.instanceId = command.instanceId
  active : row.leaseState = .active
  epoch : (row.epoch : Int) = command.driverEpoch
  leaseIdHash : row.leaseIdHash = env.leaseHash command.leaseId

/-- A command is admitted for the row of its sender, which holds the active lease it names. -/
theorem admitDriverCommand_ensures {command : DriverCommand}
    (keys : (registry.agents.map AgentRow.key).Nodup) :
    (admitDriverCommand env command).Ensures AgentAnswer.Allowed registry fun after result =>
      registry.Fading nowhere after ∧ ∀ sender, result = .ok sender →
        sender ∈ after.agents ∧ Sends env command sender := by
  refine .bind (.guard (fun _ => ?_) fun _ =>
    ⟨.refl registry, fun _ impossible => by cases impossible⟩)
  refine .bind ((driverCandidates_ensures).mono ?_)
  rintro middle result ⟨fading, candidates⟩
  cases result with
  | error error => exact ⟨fading, fun _ impossible => by cases impossible⟩
  | ok agents =>
      dsimp only
      split
      · exact ⟨fading, fun _ impossible => by cases impossible⟩
      · rename_i agent found
        obtain ⟨isRow, isDriver⟩ := candidates agents rfl agent (List.mem_of_find?_eq_some found)
        have isSender := List.find?_some found
        simp only [Bool.and_eq_true, decide_eq_true_eq] at isSender
        refine .bind (.guard (fun fenced => ?_) fun _ =>
          ⟨fading, fun _ impossible => by cases impossible⟩)
        refine .bind ((agentRecord_ensures).mono ?_)
        rintro after result ⟨rfl, record⟩
        match result with
        | .error error => exact ⟨fading, fun _ impossible => by cases impossible⟩
        | .ok none => exact ⟨fading, fun _ impossible => by cases impossible⟩
        | .ok (some row) =>
            obtain ⟨isRecord, sameKey⟩ := record row rfl
            have same : row = agent := by
              refine List.inj_on_of_nodup_map (fading.keys ▸ keys) isRecord isRow ?_
              rw [sameKey, AgentRow.key, isDriver, isSender.1, fenced.1]
            subst same
            refine .bind (.guard (fun sameLease => ⟨fading, ?_⟩) fun _ =>
              ⟨fading, fun _ impossible => by cases impossible⟩)
            rintro _ ⟨⟩
            exact ⟨isRow, isDriver, isSender.1, fenced.1, isSender.2, fenced.2, sameLease⟩

end AgentOp

/-! ### Registrations -/

/-- A registration took place: its row is put and the rows it supersedes are not active. -/
structure Registry.Registered (env : AgentEnv) (registration : AgentRegistration)
    (before after : Registry) : Prop where
  uuids : after.uuids = before.uuids + 1
  agents : ∃ now createdAt, after.agents =
    putAgent (registration.supersede now before.agents)
      (registration.row now (registration.nextEpoch before.agents)
        (env.leaseHash (env.leaseId before.uuids)) createdAt)

/-- The lease that a registration is to return. -/
structure Registry.Grants (env : AgentEnv) (registration : AgentRegistration)
    (before : Registry) (lease : AgentLease) : Prop where
  agentId : lease.agentId = registration.agentId
  instanceId : lease.instanceId = registration.instanceId
  workspaceId : lease.workspaceId = registration.workspaceId
  leaseId : lease.leaseId = env.leaseId before.uuids
  epoch : lease.epoch = registration.nextEpoch before.agents

theorem AgentOp.takeOver_ensures {env : AgentEnv} {registry : Registry}
    {registration : AgentRegistration} {now : Timestamp} {epoch : Nat} :
    (takeOver env registration now epoch).Ensures AgentAnswer.Allowed registry fun after _ =>
      after.agents = registry.agents ∧ after.uuids = registry.uuids := by
  unfold takeOver
  split
  · exact ⟨rfl, rfl⟩
  · refine .get (.bind (.bind (.bind ?_)))
    unfold allRecords
    cases env.storage with
    | memory => exact fun records _ => ⟨rfl, rfl⟩
    | database =>
        intro answer _
        refine .ofExcept ?_
        cases answer with
        | ok records => exact ⟨rfl, rfl⟩
        | error error => exact ⟨rfl, rfl⟩

theorem AgentOp.registerAgent_ensures {env : AgentEnv} {registry : Registry}
    {registration : AgentRegistration} :
    (registerAgent env registration).Ensures AgentAnswer.Allowed registry fun after result =>
      (registry.Registered env registration after ∧
        ∀ lease, result = .ok lease → registry.Grants env registration lease) ∨
      (after.agents = registry.agents ∧ after.uuids = registry.uuids + 1 ∧
        ∃ error, result = .error error) := by
  refine .bind fun now _ => .get (.bind (.bind (.bind (commit_ensures ?_ ?_))))
  · refine .bind (.bind ((takeOver_ensures).mono ?_))
    rintro after result ⟨sameAgents, sameUuids⟩
    have registered : registry.Registered env registration after := ⟨sameUuids, now, _, sameAgents⟩
    cases result with
    | error error => exact .inl ⟨registered, fun _ impossible => by cases impossible⟩
    | ok handed =>
        refine .inl ⟨registered, ?_⟩
        rintro _ ⟨⟩
        exact ⟨rfl, rfl, rfl, rfl, rfl⟩
  · exact fun error => .inr ⟨rfl, rfl, error, rfl⟩

/-! ### The table after a registration -/

theorem mem_putAgent {rows : List AgentRow} {new row : AgentRow} :
    row ∈ putAgent rows new ↔ row = new ∨ row ∈ rows ∧ row.key ≠ new.key := by
  unfold putAgent
  split
  · rename_i found
    obtain ⟨old, isOld⟩ := Option.isSome_iff_exists.1 found
    have member := List.mem_of_find?_eq_some isOld
    have sameKey : old.key = new.key := by simpa using List.find?_some isOld
    rw [List.mem_map]
    constructor
    · rintro ⟨other, isOther, rfl⟩
      split
      · exact .inl rfl
      · rename_i differs
        exact .inr ⟨isOther, differs⟩
    · rintro (rfl | ⟨isRow, differs⟩)
      · exact ⟨old, member, if_pos sameKey⟩
      · exact ⟨row, isRow, if_neg differs⟩
  · rename_i absent
    have differ : ∀ other ∈ rows, other.key ≠ new.key := by
      intro other isOther sameKey
      refine absent (List.find?_isSome.2 ⟨other, isOther, ?_⟩)
      simpa using sameKey
    rw [List.mem_append, List.mem_singleton]
    constructor
    · rintro (isRow | rfl)
      · exact .inr ⟨isRow, differ row isRow⟩
      · exact .inl rfl
    · rintro (rfl | ⟨isRow, _⟩)
      · exact .inr rfl
      · exact .inl isRow

theorem putAgent_keys {rows : List AgentRow} {new : AgentRow}
    (keys : (rows.map AgentRow.key).Nodup) : ((putAgent rows new).map AgentRow.key).Nodup := by
  unfold putAgent
  split
  · have same : (rows.map fun other => if other.key = new.key then new else other).map
        AgentRow.key = rows.map AgentRow.key := by
      rw [List.map_map]
      refine List.map_congr_left fun other _ => ?_
      rw [Function.comp_apply]
      split
      · exact (‹other.key = new.key›).symm
      · rfl
    rwa [same]
  · rename_i absent
    rw [List.map_append, List.map_singleton]
    refine List.nodup_append.2 ⟨keys, List.nodup_singleton _, ?_⟩
    intro key isOld other isNew same
    obtain ⟨row, isRow, rfl⟩ := List.mem_map.1 isOld
    rw [List.mem_singleton.1 isNew] at same
    exact absent (List.find?_isSome.2 ⟨row, isRow, by simpa using same⟩)

namespace AgentRegistration

variable {registration : AgentRegistration} {rows : List AgentRow}

theorem supersede_keys (now : Timestamp) :
    (registration.supersede now rows).map AgentRow.key = rows.map AgentRow.key := by
  rw [supersede, List.map_map]
  refine List.map_congr_left fun row _ => ?_
  rw [Function.comp_apply]
  split
  · rfl
  · rfl

/-- The rows a registration leaves fade, and those it supersedes are not active. -/
theorem mem_supersede {now : Timestamp} {row : AgentRow}
    (member : row ∈ registration.supersede now rows) :
    ∃ old ∈ rows, old.Fades row ∧
      (registration.supersedes row = true → row.leaseState ≠ .active) := by
  obtain ⟨old, isOld, rfl⟩ := List.mem_map.1 member
  refine ⟨old, isOld, ?_⟩
  split
  · refine ⟨.expireAt old now, fun _ active => ?_⟩
    cases active
  · rename_i kept
    refine ⟨.refl old, fun superseded active => kept ?_⟩
    simp [superseded, active]

theorem image_supersede (registration : AgentRegistration) (now : Timestamp) {row : AgentRow}
    (member : row ∈ rows) : ∃ new ∈ registration.supersede now rows, row.Fades new := by
  refine ⟨_, List.mem_map_of_mem member, ?_⟩
  split
  · exact .expireAt row now
  · exact .refl row

theorem le_foldl_max (rows : List AgentRow) (start : Nat) :
    start ≤ rows.foldl (fun epoch row => max epoch row.epoch) start ∧
      ∀ row ∈ rows, row.epoch ≤ rows.foldl (fun epoch row => max epoch row.epoch) start := by
  induction rows generalizing start with
  | nil => exact ⟨le_refl _, fun row member => by cases member⟩
  | cons first rest ih =>
      obtain ⟨above, members⟩ := ih (max start first.epoch)
      refine ⟨le_trans (le_max_left _ _) above, ?_⟩
      intro row member
      rcases List.mem_cons.1 member with rfl | member
      · exact le_trans (le_max_right _ _) above
      · exact members row member

/-- The epoch of a registration is not below those it supersedes, and above them for a driver. -/
theorem le_nextEpoch {row : AgentRow} (member : row ∈ rows)
    (superseded : registration.supersedes row = true) :
    row.epoch ≤ registration.nextEpoch rows ∧
      (registration.role = .driver → row.epoch < registration.nextEpoch rows) := by
  have seen := (le_foldl_max (rows.filter registration.supersedes) 0).2 row
    (List.mem_filter.2 ⟨member, superseded⟩)
  unfold nextEpoch
  dsimp only
  cases isRole : registration.role with
  | driver =>
      dsimp only
      exact ⟨by omega, fun _ => by omega⟩
  | slave =>
      dsimp only
      exact ⟨by omega, fun impossible => by cases impossible⟩

end AgentRegistration

/-- Two registrations of which only one may be active. -/
structure AgentRow.Rivals (left right : AgentRow) : Prop where
  workspaceId : left.workspaceId = right.workspaceId
  role : left.role = right.role
  agentId : left.role = .driver ∨ left.agentId = right.agentId

/-- The table after a registration, row by row. -/
structure Registry.Puts (env : AgentEnv) (registration : AgentRegistration)
    (before after : Registry) (new : AgentRow) : Prop where
  member : new ∈ after.agents
  key : new.key = registration.key
  epoch : new.epoch = registration.nextEpoch before.agents
  leaseIdHash : new.leaseIdHash = env.leaseHash (env.leaseId before.uuids)
  keys : (before.agents.map AgentRow.key).Nodup → (after.agents.map AgentRow.key).Nodup
  rows : ∀ row ∈ after.agents, row = new ∨ ∃ old ∈ before.agents, old.Fades row ∧
    (registration.supersedes row = true → row.leaseState ≠ .active)
  kept : ∀ row ∈ before.agents, row.key = registration.key ∨ ∃ new ∈ after.agents, row.Fades new
  superseded : ∀ {row}, new.Rivals row → registration.supersedes row = true

theorem Registry.Registered.puts {env : AgentEnv} {registration : AgentRegistration}
    {before after : Registry} (registered : before.Registered env registration after) :
    ∃ new, before.Puts env registration after new := by
  obtain ⟨_, now, createdAt, sameAgents⟩ := registered
  refine ⟨registration.row now (registration.nextEpoch before.agents)
    (env.leaseHash (env.leaseId before.uuids)) createdAt, ?_, rfl, rfl, rfl, ?_, ?_, ?_, ?_⟩
  · rw [sameAgents, mem_putAgent]
    exact .inl rfl
  · intro keys
    rw [sameAgents]
    refine putAgent_keys ?_
    rwa [AgentRegistration.supersede_keys]
  · intro row member
    rw [sameAgents, mem_putAgent] at member
    exact member.imp id fun kept => AgentRegistration.mem_supersede kept.1
  · intro row member
    by_cases sameKey : row.key = registration.key
    · exact .inl sameKey
    · refine .inr ?_
      obtain ⟨image, isImage, fades⟩ := AgentRegistration.image_supersede registration now member
      refine ⟨image, ?_, fades⟩
      rw [sameAgents, mem_putAgent]
      exact .inr ⟨isImage, fun same => sameKey (fades.key.symm.trans same)⟩
  · rintro row ⟨workspaceId, role, agentId⟩
    simp only [AgentRegistration.row] at workspaceId role agentId
    simp only [AgentRegistration.supersedes, ← workspaceId, ← role, decide_true, Bool.true_and,
      Bool.or_eq_true, decide_eq_true_eq]
    exact agentId.imp id Eq.symm

end Loom
