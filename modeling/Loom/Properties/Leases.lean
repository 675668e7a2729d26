import Loom.Coroutine.History
import Loom.Observer.AgentEffects
import Mathlib.Data.Finset.Card

/-!
# Leases and epochs

In every history of registrations, heartbeats, releases, listings and driver commands, in both
storage profiles, at most one driver of a workspace and at most one instance of a slave hold an
active lease, the epochs of a workspace's drivers grow, a lease that has ended stays ended, and
only the holder of the active lease is listened to.

The invariant speaks about the registrations of the history: every row carries the lease of one
of them, and the epoch of every driver lease is bounded by a row of its workspace.
-/

namespace Loom

open Coroutine

/-- A completed call of the registry. -/
abbrev AgentEntry := Entry Registry Exc AgentAnswer AgentReply AgentCall

namespace Registry

/-- The drivers of a workspace with an active lease. -/
def activeDrivers (registry : Registry) (workspaceId : String) : List AgentRow :=
  registry.agents.filter fun row =>
    row.workspaceId = workspaceId && row.role = .driver && row.leaseState = .active

/-- The instances of a slave with an active lease. -/
def activeInstances (registry : Registry) (workspaceId slaveId : String) : List AgentRow :=
  registry.agents.filter fun row =>
    row.workspaceId = workspaceId && row.role = .slave && row.agentId = slaveId &&
      row.leaseState = .active

/-- At most one driver of each workspace and one instance of each slave is active. -/
structure Exclusive (registry : Registry) : Prop where
  drivers : ∀ workspaceId, (registry.activeDrivers workspaceId).length ≤ 1
  instances : ∀ workspaceId slaveId, (registry.activeInstances workspaceId slaveId).length ≤ 1

/-- Some row holds a lease as an active one. -/
def IsActive (registry : Registry) (env : AgentEnv) (leaseId : String) : Prop :=
  ∃ row ∈ registry.agents, row.leaseState = .active ∧ row.leaseIdHash = env.leaseHash leaseId

/-- No row changes but by fading, and uuids are only drawn. -/
structure Steady (before after : Registry) : Prop where
  keys : after.agents.map AgentRow.key = before.agents.map AgentRow.key
  origin : ∀ row ∈ after.agents, ∃ old ∈ before.agents, old.Fades row
  image : ∀ row ∈ before.agents, ∃ new ∈ after.agents, row.Fades new
  uuids : before.uuids ≤ after.uuids

theorem Fading.steady {before after : Registry} (fading : before.Fading nowhere after) :
    before.Steady after :=
  ⟨fading.keys, fun _ => fading.origin, fun _ => fading.image, le_of_eq fading.uuids.symm⟩

theorem Steady.of_same {before after : Registry} (same : after.agents = before.agents)
    (uuids : before.uuids ≤ after.uuids) : before.Steady after := by
  refine ⟨by rw [same], fun row member => ⟨row, same ▸ member, .refl row⟩, ?_, uuids⟩
  exact fun row member => ⟨row, same.symm ▸ member, .refl row⟩

end Registry

/-- A row holds the active lease that a heartbeat names. -/
structure LeaseClaim.HeldBy (claim : LeaseClaim) (env : AgentEnv) (row : AgentRow) : Prop where
  role : row.role = claim.role
  agentId : row.agentId = claim.agentId
  workspaceId : ∀ workspaceId, claim.workspaceId = some workspaceId →
    row.workspaceId = workspaceId
  instanceId : row.instanceId = claim.instanceId
  active : row.leaseState = .active
  epoch : (row.epoch : Int) = claim.epoch
  leaseIdHash : row.leaseIdHash = env.leaseHash claim.leaseId

/-- What a call of the registry may do, and what its result says. -/
inductive AgentCall.Outcome (env : AgentEnv) (before after : Registry) :
    AgentCall → Except Exc AgentReply → Prop where
  | registered {registration : AgentRegistration} {result : Except Exc AgentReply}
      (registered : before.Registered env registration after)
      (grants : ∀ lease, result = .ok (.lease lease) → before.Grants env registration lease) :
      Outcome env before after (.registerAgent registration) result
  | refused {registration : AgentRegistration} {error : Exc} (steady : before.Steady after) :
      Outcome env before after (.registerAgent registration) (.error error)
  | heartbeat {claim : LeaseClaim} {result : Except Exc AgentReply} (steady : before.Steady after)
      (accepted : ∀ reply, result = .ok reply → ∃ row ∈ after.agents, claim.HeldBy env row) :
      Outcome env before after (.heartbeatAgent claim) result
  | released {claim : LeaseClaim} {result : Except Exc AgentReply}
      (steady : before.Steady after) : Outcome env before after (.releaseAgent claim) result
  | listed {workspaceId : String} {role : Option AgentRole} {result : Except Exc AgentReply}
      (steady : before.Steady after) :
      Outcome env before after (.listAgents workspaceId role) result
  | command {command : DriverCommand} {result : Except Exc AgentReply}
      (steady : before.Steady after)
      (accepted : ∀ reply, result = .ok reply →
        ∃ row ∈ after.agents, AgentOp.Sends env command row) :
      Outcome env before after (.executeDriverCommand command) result

/-- Every call does what its outcome describes. -/
theorem AgentCall.outcome {env : AgentEnv} {before after : Registry} {call : AgentCall}
    {result : Except Exc AgentReply} (keys : (before.agents.map AgentRow.key).Nodup)
    (runs : (call.prog env).Runs AgentAnswer.Allowed before after result) :
    call.Outcome env before after result := by
  have ensures : (call.prog env).Ensures AgentAnswer.Allowed before
      fun after result => call.Outcome env before after result := by
    cases call with
    | registerAgent registration =>
        refine .bind ((AgentOp.registerAgent_ensures).mono ?_)
        rintro after result (⟨registered, grants⟩ | ⟨sameAgents, sameUuids, error, rfl⟩)
        · cases result with
          | error error => exact .registered registered fun _ impossible => by cases impossible
          | ok lease =>
              refine .registered registered ?_
              rintro _ ⟨⟩
              exact grants lease rfl
        · exact .refused (.of_same sameAgents (by omega))
    | heartbeatAgent claim =>
        refine .bind ((AgentOp.heartbeatAgent_ensures).mono ?_)
        rintro after result ⟨fading, accepted⟩
        cases result with
        | error error => exact .heartbeat fading.steady fun _ impossible => by cases impossible
        | ok lease =>
            refine .heartbeat fading.steady fun _ _ => ?_
            obtain ⟨row, member, claims, holds⟩ := accepted lease rfl
            simp only [LeaseClaim.holds, Bool.and_eq_true, decide_eq_true_eq] at holds
            obtain ⟨⟨⟨sameInstance, active⟩, sameEpoch⟩, sameHash⟩ := holds
            exact ⟨row, member, claims.role, claims.agentId, claims.workspace, sameInstance, active,
              sameEpoch, sameHash⟩
    | releaseAgent claim =>
        refine .bind ((AgentOp.releaseAgent_ensures).mono ?_)
        rintro after result fading
        cases result with
        | error error => exact .released fading.steady
        | ok value => exact .released fading.steady
    | listAgents workspaceId role =>
        refine .bind ((AgentOp.listAgents_ensures).mono ?_)
        rintro after result ⟨fading, _⟩
        have steady := (fading.mono fun other impossible => (impossible : False).elim).steady
        cases result with
        | error error => exact .listed steady
        | ok rows => exact .listed steady
    | executeDriverCommand command =>
        refine .bind ((AgentOp.admitDriverCommand_ensures keys).mono ?_)
        rintro after result ⟨fading, accepted⟩
        cases result with
        | error error => exact .command fading.steady fun _ impossible => by cases impossible
        | ok sender =>
            refine .command fading.steady fun _ _ => ?_
            obtain ⟨member, sends⟩ := accepted sender rfl
            exact ⟨sender, member, sends⟩
  exact ensures.runs runs

/-! ### The invariant -/

/-- A call of a history that registered an agent and returned its lease. -/
structure AgentIssue (entry : AgentEntry) (registration : AgentRegistration)
    (lease : AgentLease) : Prop where
  label : entry.label = .registerAgent registration
  result : entry.result = .ok (.lease lease)

/-- The epochs of the leases that two calls issue to drivers of one workspace grow. -/
def EpochGrows (earlier later : AgentEntry) : Prop :=
  ∀ first second firstLease secondLease, AgentIssue earlier first firstLease →
    AgentIssue later second secondLease → first.role = .driver → second.role = .driver →
      first.workspaceId = second.workspaceId → firstLease.epoch < secondLease.epoch

/-- A row carries the lease that a call of the history drew for its registration. -/
def AgentRow.CarriesLeaseOf (row : AgentRow) (env : AgentEnv) (entry : AgentEntry) : Prop :=
  ∃ registration, entry.label = .registerAgent registration ∧ registration.key = row.key ∧
    row.leaseIdHash = env.leaseHash (env.leaseId entry.before.uuids)

/-- The rows in relation to the registrations of the history. -/
structure Registry.Tracks (registry : Registry) (env : AgentEnv) (entries : List AgentEntry) :
    Prop where
  keys : (registry.agents.map AgentRow.key).Nodup
  single : ∀ left ∈ registry.agents, ∀ right ∈ registry.agents, left.leaseState = .active →
    right.leaseState = .active → left.Rivals right → left = right
  carried : ∀ row ∈ registry.agents, ∃ entry ∈ entries, row.CarriesLeaseOf env entry
  drawn : ∀ entry ∈ entries, ∀ registration lease, AgentIssue entry registration lease →
    ∃ position < registry.uuids, lease.leaseId = env.leaseId position
  bounded : ∀ entry ∈ entries, ∀ registration lease, AgentIssue entry registration lease →
    registration.role = .driver → ∃ row ∈ registry.agents, row.role = .driver ∧
      row.workspaceId = registration.workspaceId ∧ lease.epoch ≤ row.epoch
  grows : entries.Pairwise EpochGrows

namespace AgentRow

variable {left right : AgentRow}

theorem Rivals.symm (rivals : left.Rivals right) : right.Rivals left := by
  refine ⟨rivals.workspaceId.symm, rivals.role.symm, ?_⟩
  rw [← rivals.role]
  exact rivals.agentId.imp id Eq.symm

theorem Rivals.of_fades {left' right' : AgentRow} (leftFades : left.Fades left')
    (rightFades : right.Fades right') (rivals : left'.Rivals right') : left.Rivals right := by
  have leftKey := leftFades.key
  have rightKey := rightFades.key
  simp only [AgentRow.key, Prod.mk.injEq] at leftKey rightKey
  obtain ⟨workspaceId, role, agentId⟩ := rivals
  rw [leftKey.1, rightKey.1] at workspaceId
  rw [leftKey.2.1, rightKey.2.1] at role
  rw [leftKey.2.1, leftKey.2.2.1, rightKey.2.2.1] at agentId
  exact ⟨workspaceId, role, agentId⟩

end AgentRow

namespace Registry.Tracks

variable {env : AgentEnv} {entries : List AgentEntry} {before after : Registry}

theorem initial : Registry.Tracks {} env [] where
  keys := List.nodup_nil
  single := fun left member => by cases member
  carried := fun row member => by cases member
  drawn := fun entry member => by cases member
  bounded := fun entry member => by cases member
  grows := List.Pairwise.nil

/-- Two rows of one origin are one row. -/
theorem eq_of_origin (keys : (after.agents.map AgentRow.key).Nodup) {left right old : AgentRow}
    (isLeft : left ∈ after.agents) (isRight : right ∈ after.agents) (leftFades : old.Fades left)
    (rightFades : old.Fades right) : left = right :=
  List.inj_on_of_nodup_map keys isLeft isRight (leftFades.key.trans rightFades.key.symm)

/-- A call that issues no lease and only lets rows fade keeps the invariant. -/
theorem steady (tracks : before.Tracks env entries) (steady : before.Steady after)
    {entry : AgentEntry} (silent : ∀ registration lease, ¬AgentIssue entry registration lease) :
    after.Tracks env (entries ++ [entry]) where
  keys := steady.keys ▸ tracks.keys
  single := by
    intro left isLeft right isRight leftActive rightActive rivals
    obtain ⟨oldLeft, isOldLeft, leftFades⟩ := steady.origin left isLeft
    obtain ⟨oldRight, isOldRight, rightFades⟩ := steady.origin right isRight
    have same := tracks.single oldLeft isOldLeft oldRight isOldRight
      (leftFades.active leftActive) (rightFades.active rightActive)
      (.of_fades leftFades rightFades rivals)
    subst same
    exact eq_of_origin (steady.keys ▸ tracks.keys) isLeft isRight leftFades rightFades
  carried := by
    intro row member
    obtain ⟨old, isOld, fades⟩ := steady.origin row member
    obtain ⟨issuing, isEntry, registration, label, sameKey, sameHash⟩ := tracks.carried old isOld
    refine ⟨issuing, List.mem_append_left _ isEntry, registration, label, ?_, ?_⟩
    · rw [sameKey, fades.key]
    · rw [fades.leaseIdHash, sameHash]
  drawn := by
    intro issuing member registration lease issue
    rcases List.mem_append.1 member with member | member
    · obtain ⟨position, isDrawn, same⟩ := tracks.drawn issuing member registration lease issue
      exact ⟨position, lt_of_lt_of_le isDrawn steady.uuids, same⟩
    · rw [List.mem_singleton.1 member] at issue
      exact (silent registration lease issue).elim
  bounded := by
    intro issuing member registration lease issue isDriver
    rcases List.mem_append.1 member with member | member
    · obtain ⟨row, isRow, role, workspaceId, bound⟩ :=
        tracks.bounded issuing member registration lease issue isDriver
      obtain ⟨new, isNew, fades⟩ := steady.image row isRow
      have sameKey := fades.key
      simp only [AgentRow.key, Prod.mk.injEq] at sameKey
      refine ⟨new, isNew, sameKey.2.1.trans role, sameKey.1.trans workspaceId, ?_⟩
      rwa [fades.epoch]
    · rw [List.mem_singleton.1 member] at issue
      exact (silent registration lease issue).elim
  grows := by
    refine List.pairwise_append.2 ⟨tracks.grows, List.pairwise_singleton _ _, ?_⟩
    intro earlier _ later member first second firstLease secondLease _ issue
    rw [List.mem_singleton.1 member] at issue
    exact (silent second secondLease issue).elim

/-- A registration keeps the invariant. -/
theorem registered (tracks : before.Tracks env entries) {registration : AgentRegistration}
    (registered : before.Registered env registration after) {entry : AgentEntry}
    (label : entry.label = .registerAgent registration) (start : entry.before = before)
    (grants : ∀ lease, entry.result = .ok (.lease lease) →
      before.Grants env registration lease) : after.Tracks env (entries ++ [entry]) := by
  obtain ⟨new, puts⟩ := registered.puts
  have keys := puts.keys tracks.keys
  -- The epoch of the new row is above every driver lease of its workspace.
  have above : ∀ issuing ∈ entries, ∀ other lease, AgentIssue issuing other lease →
      other.role = .driver → registration.role = .driver →
        other.workspaceId = registration.workspaceId → lease.epoch < new.epoch := by
    intro issuing member other lease issue isDriver newDriver sameWorkspace
    obtain ⟨row, isRow, role, workspaceId, bound⟩ :=
      tracks.bounded issuing member other lease issue isDriver
    have superseded : registration.supersedes row = true := by
      simp [AgentRegistration.supersedes, workspaceId, sameWorkspace, role, newDriver]
    have epoch := (AgentRegistration.le_nextEpoch isRow superseded).2 newDriver
    rw [← puts.epoch] at epoch
    omega
  refine ⟨keys, ?_, ?_, ?_, ?_, ?_⟩
  · intro left isLeft right isRight leftActive rightActive rivals
    rcases puts.rows left isLeft with rfl | ⟨oldLeft, isOldLeft, leftFades, leftKept⟩
    · rcases puts.rows right isRight with rfl | ⟨_, _, _, rightKept⟩
      · rfl
      · exact (rightKept (puts.superseded rivals) rightActive).elim
    · rcases puts.rows right isRight with rfl | ⟨oldRight, isOldRight, rightFades, _⟩
      · exact (leftKept (puts.superseded rivals.symm) leftActive).elim
      · have same := tracks.single oldLeft isOldLeft oldRight isOldRight
          (leftFades.active leftActive) (rightFades.active rightActive)
          (.of_fades leftFades rightFades rivals)
        subst same
        exact eq_of_origin keys isLeft isRight leftFades rightFades
  · intro row member
    rcases puts.rows row member with rfl | ⟨old, isOld, fades, _⟩
    · refine ⟨entry, by simp, registration, label, puts.key.symm, ?_⟩
      rw [puts.leaseIdHash, start]
    · obtain ⟨issuing, isEntry, other, isOther, sameKey, sameHash⟩ := tracks.carried old isOld
      refine ⟨issuing, List.mem_append_left _ isEntry, other, isOther, ?_, ?_⟩
      · rw [sameKey, fades.key]
      · rw [fades.leaseIdHash, sameHash]
  · intro issuing member other lease issue
    rcases List.mem_append.1 member with member | member
    · obtain ⟨position, isDrawn, same⟩ := tracks.drawn issuing member other lease issue
      exact ⟨position, by have := registered.uuids; omega, same⟩
    · rw [List.mem_singleton.1 member] at issue
      exact ⟨before.uuids, by have := registered.uuids; omega, (grants lease issue.result).leaseId⟩
  · intro issuing member other lease issue isDriver
    rcases List.mem_append.1 member with member | member
    · obtain ⟨row, isRow, role, workspaceId, bound⟩ :=
        tracks.bounded issuing member other lease issue isDriver
      rcases puts.kept row isRow with sameKey | ⟨image, isImage, fades⟩
      · have newKey := puts.key.trans sameKey.symm
        simp only [AgentRow.key, Prod.mk.injEq] at newKey sameKey
        have newDriver : registration.role = .driver := by
          have := congrArg (fun key => key.2.1) puts.key
          simp only [AgentRow.key, AgentRegistration.key] at this
          rw [← this, newKey.2.1, role]
        refine ⟨new, puts.member, newKey.2.1.trans role, newKey.1.trans workspaceId, ?_⟩
        have sameWorkspace : other.workspaceId = registration.workspaceId := by
          have := congrArg Prod.fst puts.key
          simp only [AgentRow.key, AgentRegistration.key] at this
          rw [← this, newKey.1, workspaceId]
        exact le_of_lt (above issuing member other lease issue isDriver newDriver sameWorkspace)
      · have imageKey := fades.key
        simp only [AgentRow.key, Prod.mk.injEq] at imageKey
        refine ⟨image, isImage, imageKey.2.1.trans role, imageKey.1.trans workspaceId, ?_⟩
        rwa [fades.epoch]
    · rw [List.mem_singleton.1 member] at issue
      have same : other = registration := by
        have := issue.label.symm.trans label
        cases this
        rfl
      subst same
      have newKey := puts.key
      simp only [AgentRow.key, AgentRegistration.key, Prod.mk.injEq] at newKey
      refine ⟨new, puts.member, newKey.2.1.trans isDriver, newKey.1, ?_⟩
      rw [(grants lease issue.result).epoch, puts.epoch]
  · refine List.pairwise_append.2 ⟨tracks.grows, List.pairwise_singleton _ _, ?_⟩
    intro earlier isEarlier later member first second firstLease secondLease firstIssue
      secondIssue firstDriver secondDriver sameWorkspace
    rw [List.mem_singleton.1 member] at secondIssue
    have same : second = registration := by
      have := secondIssue.label.symm.trans label
      cases this
      rfl
    subst same
    rw [(grants secondLease secondIssue.result).epoch, ← puts.epoch]
    exact above earlier isEarlier first firstLease firstIssue firstDriver secondDriver sameWorkspace

/-- A call keeps the invariant. -/
theorem call (tracks : before.Tracks env entries) {entry : AgentEntry}
    (start : entry.before = before) (stop : entry.after = after)
    (outcome : entry.label.Outcome env before after entry.result) :
    after.Tracks env (entries ++ [entry]) := by
  obtain ⟨call, answers, entryBefore, entryAfter, result⟩ := entry
  dsimp only at start stop outcome
  cases outcome with
  | registered isRegistered grants => exact tracks.registered isRegistered rfl start grants
  | refused isSteady => exact tracks.steady isSteady fun _ _ issue => by cases issue.result
  | heartbeat isSteady _ => exact tracks.steady isSteady fun _ _ issue => by cases issue.label
  | released isSteady => exact tracks.steady isSteady fun _ _ issue => by cases issue.label
  | listed isSteady => exact tracks.steady isSteady fun _ _ issue => by cases issue.label
  | command isSteady _ => exact tracks.steady isSteady fun _ _ issue => by cases issue.label

/-- The invariant holds after every history. -/
theorem history {registry : Registry}
    (history : History (AgentCall.prog env) AgentAnswer.Allowed {} entries registry) :
    registry.Tracks env entries := by
  induction history with
  | nil => exact initial
  | call history label answers allowed runs ih =>
      exact ih.call rfl rfl (AgentCall.outcome ih.keys (runs.mono allowed))

/-- The invariant holds before every call, and every call has its outcome. -/
theorem at_call {registry : Registry}
    (history : History (AgentCall.prog env) AgentAnswer.Allowed {} entries registry) :
    ∀ earlier entry later, entries = earlier ++ entry :: later →
      entry.before.Tracks env earlier ∧
        entry.label.Outcome env entry.before entry.after entry.result := by
  induction history with
  | nil =>
      intro earlier entry later split
      simp at split
  | @call entries before after result history label answers allowed runs ih =>
      intro earlier entry later split
      rcases List.eq_nil_or_concat later with rfl | ⟨more, last, rfl⟩
      · obtain ⟨rfl, same⟩ := List.append_inj' split rfl
        cases same
        have tracks := Tracks.history history
        exact ⟨tracks, AgentCall.outcome tracks.keys (runs.mono allowed)⟩
      · rw [List.concat_eq_append, ← List.cons_append, ← List.append_assoc] at split
        exact ih earlier entry more (List.append_inj' split rfl).1

/-- Rivals are one row, so that each group of them has at most one active member. -/
theorem exclusive (tracks : before.Tracks env entries) : before.Exclusive := by
  have atMostOne : ∀ selects : AgentRow → Bool,
      (∀ left right, selects left = true → selects right = true →
        left.leaseState = .active ∧ right.leaseState = .active ∧ left.Rivals right) →
        (before.agents.filter selects).length ≤ 1 := by
    intro selects compete
    have distinct : (before.agents.filter selects).Nodup :=
      (List.Nodup.of_map _ tracks.keys).filter _
    rw [← List.toFinset_card_of_nodup distinct, Finset.card_le_one]
    intro left isLeft right isRight
    rw [List.mem_toFinset, List.mem_filter] at isLeft isRight
    obtain ⟨leftActive, rightActive, rivals⟩ := compete left right isLeft.2 isRight.2
    exact tracks.single left isLeft.1 right isRight.1 leftActive rightActive rivals
  constructor
  · intro workspaceId
    refine atMostOne _ fun left right isLeft isRight => ?_
    simp only [Bool.and_eq_true, decide_eq_true_eq] at isLeft isRight
    refine ⟨isLeft.2, isRight.2, isLeft.1.1.trans isRight.1.1.symm,
      isLeft.1.2.trans isRight.1.2.symm, .inl isLeft.1.2⟩
  · intro workspaceId slaveId
    refine atMostOne _ fun left right isLeft isRight => ?_
    simp only [Bool.and_eq_true, decide_eq_true_eq] at isLeft isRight
    exact ⟨isLeft.2, isRight.2, isLeft.1.1.1.trans isRight.1.1.1.symm,
      isLeft.1.1.2.trans isRight.1.1.2.symm, .inr (isLeft.1.2.trans isRight.1.2.symm)⟩

end Registry.Tracks

/-! ### Leases that have ended -/

section Ended

variable {env : AgentEnv} {first second : List AgentEntry} {middle registry : Registry}

/-- An active row was active in the same registration, or it has been registered since. -/
theorem active_origin
    (earlier : History (AgentCall.prog env) AgentAnswer.Allowed {} first middle)
    (later : History (AgentCall.prog env) AgentAnswer.Allowed middle second registry) :
    middle.uuids ≤ registry.uuids ∧ ∀ row ∈ registry.agents, row.leaseState = .active →
      (∃ old ∈ middle.agents, old.leaseState = .active ∧ old.Fades row) ∨
      ∃ entry ∈ second, middle.uuids ≤ entry.before.uuids ∧ row.CarriesLeaseOf env entry := by
  induction later with
  | nil => exact ⟨le_refl _, fun row member active => .inl ⟨row, member, active, .refl row⟩⟩
  | @call entries before after result history label answers allowed runs ih =>
      obtain ⟨uuids, origin⟩ := ih
      have keys := (Registry.Tracks.history (earlier.append history)).keys
      have outcome := AgentCall.outcome keys (runs.mono allowed)
      -- A row that fades into an active one has the origin of that row.
      have faded : ∀ old ∈ before.agents, ∀ row : AgentRow, old.Fades row →
          row.leaseState = .active →
            (∃ old ∈ middle.agents, old.leaseState = .active ∧ old.Fades row) ∨
            ∃ entry ∈ entries ++ [⟨label, answers, before, after, result⟩],
              middle.uuids ≤ entry.before.uuids ∧ row.CarriesLeaseOf env entry := by
        intro old isOld row fades active
        rcases origin old isOld (fades.active active) with ⟨oldest, isOldest, wasActive, fades'⟩ |
          ⟨entry, isEntry, drawn, registration, isLabel, sameKey, sameHash⟩
        · exact .inl ⟨oldest, isOldest, wasActive, fades'.trans fades⟩
        · refine .inr ⟨entry, List.mem_append_left _ isEntry, drawn, registration, isLabel, ?_, ?_⟩
          · rw [sameKey, fades.key]
          · rw [fades.leaseIdHash, sameHash]
      have steady : before.Steady after → _ := fun isSteady =>
        (⟨le_trans uuids isSteady.uuids, fun row member active => by
          obtain ⟨old, isOld, fades⟩ := isSteady.origin row member
          exact faded old isOld row fades active⟩ :
          middle.uuids ≤ after.uuids ∧ ∀ row ∈ after.agents, row.leaseState = .active → _)
      cases outcome with
      | @registered registration result isRegistered grants =>
          obtain ⟨new, puts⟩ := isRegistered.puts
          refine ⟨by have := isRegistered.uuids; omega, fun row member active => ?_⟩
          rcases puts.rows row member with rfl | ⟨old, isOld, fades, _⟩
          · refine .inr ⟨_, List.mem_append_right _ (List.mem_singleton_self _), uuids,
              registration, rfl, puts.key.symm, puts.leaseIdHash⟩
          · exact faded old isOld row fades active
      | refused isSteady => exact steady isSteady
      | heartbeat isSteady _ => exact steady isSteady
      | released isSteady => exact steady isSteady
      | listed isSteady => exact steady isSteady
      | command isSteady _ => exact steady isSteady

/-- A lease issued before and not active in the middle is not active afterwards. -/
theorem ended_lease (hashes : Function.Injective env.sha256)
    (fresh : Function.Injective env.uuidHex)
    (earlier : History (AgentCall.prog env) AgentAnswer.Allowed {} first middle)
    (later : History (AgentCall.prog env) AgentAnswer.Allowed middle second registry)
    {entry : AgentEntry} (isEntry : entry ∈ first) {registration : AgentRegistration}
    {lease : AgentLease} (issue : AgentIssue entry registration lease)
    (ended : ¬middle.IsActive env lease.leaseId) : ¬registry.IsActive env lease.leaseId := by
  rintro ⟨row, member, active, sameHash⟩
  obtain ⟨_, origin⟩ := active_origin earlier later
  rcases origin row member active with ⟨old, isOld, wasActive, fades⟩ |
    ⟨issuing, _, isLater, _, _, _, otherHash⟩
  · exact ended ⟨old, isOld, wasActive, fades.leaseIdHash.symm.trans sameHash⟩
  · obtain ⟨position, isDrawn, sameLease⟩ :=
      (Registry.Tracks.history earlier).drawn entry isEntry registration lease issue
    have same : env.leaseId issuing.before.uuids = env.leaseId position := by
      rw [← sameLease]
      exact hashes (otherHash.symm.trans sameHash)
    have := fresh ((String.append_right_inj _).1 same)
    omega

end Ended

/-! ### Whose calls are heeded -/

/-- A row of the table is the active registration of one of the calls before, under the lease
id that this call drew. -/
def AgentRow.RegisteredBy (row : AgentRow) (env : AgentEnv) (leaseId : String)
    (earlier : List AgentEntry) : Prop :=
  ∃ issuing ∈ earlier, ∃ registration, issuing.label = .registerAgent registration ∧
    registration.key = row.key ∧ leaseId = env.leaseId issuing.before.uuids

/-- A heartbeat or a command that is accepted carries the lease id, the instance and the epoch of
the active registration. -/
structure Heeds (env : AgentEnv) (earlier : List AgentEntry) (entry : AgentEntry) : Prop where
  heartbeat : ∀ claim reply, entry.label = .heartbeatAgent claim → entry.result = .ok reply →
    ∃ row ∈ entry.after.agents, claim.HeldBy env row ∧ row.RegisteredBy env claim.leaseId earlier
  command : ∀ command reply, entry.label = .executeDriverCommand command →
    entry.result = .ok reply → ∃ row ∈ entry.after.agents, AgentOp.Sends env command row ∧
      row.RegisteredBy env command.leaseId earlier

/-- The registration of a row is the one whose lease id has the row's hash. -/
theorem Registry.Tracks.registeredBy {env : AgentEnv} {earlier : List AgentEntry}
    {before after : Registry} (hashes : Function.Injective env.sha256)
    (tracks : before.Tracks env earlier) (steady : before.Steady after) {row : AgentRow}
    (member : row ∈ after.agents) {leaseId : String}
    (sameHash : row.leaseIdHash = env.leaseHash leaseId) :
    row.RegisteredBy env leaseId earlier := by
  obtain ⟨old, isOld, fades⟩ := steady.origin row member
  obtain ⟨issuing, isIssuing, registration, label, sameKey, oldHash⟩ := tracks.carried old isOld
  refine ⟨issuing, isIssuing, registration, label, sameKey.trans fades.key.symm, ?_⟩
  refine hashes ?_
  rw [fades.leaseIdHash, oldHash] at sameHash
  exact sameHash.symm

theorem heeds_at {env : AgentEnv} (hashes : Function.Injective env.sha256)
    {earlier : List AgentEntry} {entry : AgentEntry} (tracks : entry.before.Tracks env earlier)
    (outcome : entry.label.Outcome env entry.before entry.after entry.result) :
    Heeds env earlier entry := by
  constructor
  · intro claim reply label result
    rw [label, result] at outcome
    cases outcome with
    | heartbeat steady accepted =>
        obtain ⟨row, member, held⟩ := accepted reply rfl
        exact ⟨row, member, held, tracks.registeredBy hashes steady member held.leaseIdHash⟩
  · intro command reply label result
    rw [label, result] at outcome
    cases outcome with
    | command steady accepted =>
        obtain ⟨row, member, sends⟩ := accepted reply rfl
        exact ⟨row, member, sends, tracks.registeredBy hashes steady member sends.leaseIdHash⟩

/-- The lease and epoch invariants, at the end of every history and between any two points of
it.  Lease hashes are taken as injective and uuids as fresh. -/
theorem leases_fenced {env : AgentEnv} (hashes : Function.Injective env.sha256)
    (fresh : Function.Injective env.uuidHex) {first second : List AgentEntry}
    {middle registry : Registry}
    (earlier : History (AgentCall.prog env) AgentAnswer.Allowed {} first middle)
    (later : History (AgentCall.prog env) AgentAnswer.Allowed middle second registry) :
    registry.Exclusive ∧
    (first ++ second).Pairwise EpochGrows ∧
    (∀ entry ∈ first, ∀ registration lease, AgentIssue entry registration lease →
      ¬middle.IsActive env lease.leaseId → ¬registry.IsActive env lease.leaseId) ∧
    (∀ old ∈ middle.agents, old.leaseState ≠ .active → ∀ row ∈ registry.agents,
      row.key = old.key → row.leaseState = .active →
        ∃ entry ∈ second, row.CarriesLeaseOf env entry) ∧
    ∀ before entry after, first ++ second = before ++ entry :: after →
      Heeds env before entry := by
  have whole := earlier.append later
  have tracks := Registry.Tracks.history whole
  refine ⟨tracks.exclusive, tracks.grows, ?_, ?_, ?_⟩
  · intro entry isEntry registration lease issue ended
    exact ended_lease hashes fresh earlier later isEntry issue ended
  · intro old isOld inactive row member sameKey active
    rcases (active_origin earlier later).2 row member active with
      ⟨other, isOther, wasActive, fades⟩ | ⟨entry, isEntry, _, carries⟩
    · have keys := (Registry.Tracks.history earlier).keys
      have same := List.inj_on_of_nodup_map keys isOther isOld (fades.key.symm.trans sameKey)
      subst same
      exact (inactive wasActive).elim
    · exact ⟨entry, isEntry, carries⟩
  · intro before entry after split
    obtain ⟨tracks, outcome⟩ := Registry.Tracks.at_call whole before entry after split
    exact heeds_at hashes tracks outcome

namespace LeaseDemo

def env : AgentEnv where
  storage := .memory
  uuidHex position := String.ofList (List.replicate position 'f')
  sha256 text := "sha256-" ++ text
  text _ := "value"
  agentLeaseTtl := 15000000

theorem hashes : Function.Injective env.sha256 :=
  fun _ _ same => (String.append_right_inj _).1 same

theorem fresh : Function.Injective env.uuidHex := by
  intro left right same
  have lengths := congrArg (fun text => text.toList.length) same
  simpa [env] using lengths

/-- All calls are made at one instant and storage answers in the order of the table. -/
def world (now : Timestamp) : (query : AgentQuery) → AgentAnswer query
  | .now => now
  | .rows found => found
  | .workspaces found => found
  | .commit => .ok ()
  | .runs => []
  | .allRecords => .ok []

theorem world_allowed (now : Timestamp) (query : AgentQuery) :
    AgentAnswer.Allowed query (world now query) := by
  cases query with
  | rows found => exact List.Perm.refl found
  | workspaces found => exact List.Perm.refl found
  | now => trivial
  | commit => trivial
  | runs => trivial
  | allRecords => trivial

def registers (instanceId : String) : AgentCall :=
  .registerAgent
    { role := .driver, agentId := "driver", instanceId := instanceId, workspaceId := "workspace"
      endpointUrl := "http://driver/", protocolVersion := "2" }

def beats (instanceId leaseId : String) (epoch : Int) : AgentCall :=
  .heartbeatAgent
    { agentId := "driver", instanceId := instanceId, leaseId := leaseId, epoch := epoch
      workspaceId := some "workspace" }

/-- Calls, each made at its instant. -/
def timed (calls : List (Timestamp × AgentCall)) (start : Registry) :
    List AgentEntry × Registry :=
  play (AgentCall.prog env) (calls.map fun call => (call.2, world call.1)) start

theorem timed_history (calls : List (Timestamp × AgentCall)) (start : Registry) :
    History (AgentCall.prog env) AgentAnswer.Allowed start (timed calls start).1
      (timed calls start).2 := by
  refine History.of_play _ ?_ start
  intro call member query
  obtain ⟨timedCall, _, rfl⟩ := List.mem_map.1 member
  exact world_allowed timedCall.1 query

/-- A driver registers and is heard. -/
def first : List AgentEntry × Registry :=
  timed [(0, registers "one"), (1000000, beats "one" "lease-" 1)] {}

/-- Another instance of it takes over, and the first one goes on as if nothing had happened. -/
def second : List AgentEntry × Registry :=
  timed [(2000000, registers "two"), (3000000, beats "one" "lease-" 1),
    (4000000, beats "two" "lease-f" 2)] first.2

end LeaseDemo

/-- Two instances of one driver: the second registration fences the first. -/
theorem leases_fenced_takeover :
    LeaseDemo.second.2.Exclusive ∧
    (LeaseDemo.first.1 ++ LeaseDemo.second.1).Pairwise EpochGrows ∧
    ((LeaseDemo.first.1 ++ LeaseDemo.second.1).map fun entry => entry.result.toBool) =
      [true, true, true, false, true] := by
  have earlier : History (AgentCall.prog LeaseDemo.env) AgentAnswer.Allowed {}
      LeaseDemo.first.1 LeaseDemo.first.2 := LeaseDemo.timed_history _ _
  have later : History (AgentCall.prog LeaseDemo.env) AgentAnswer.Allowed LeaseDemo.first.2
      LeaseDemo.second.1 LeaseDemo.second.2 := LeaseDemo.timed_history _ _
  have fenced := leases_fenced LeaseDemo.hashes LeaseDemo.fresh earlier later
  exact ⟨fenced.1, fenced.2.1, by decide +kernel⟩

end Loom
