import Loom.Contracts.Agents
import Loom.Coroutine.Basic
import Loom.Observer.Record
import Mathlib.Data.List.Sort

/-!
# The agent registry

`register_agent`, `heartbeat_agent`, `release_agent`, `list_agents` and the admission of driver
commands, in both storage profiles.  The rows of `agents` are the dictionary `self.agents` where
there is no database and the table `runtime_agents` where there is one; they are kept in the
order of insertion.  A database returns the rows that a `select` matches in any order, so the
order is an answer, and its commits may fail.
-/

namespace Loom

open Coroutine

/-- A registered agent: an item of `self.agents`, or a `RuntimeAgentRow`. -/
structure AgentRow where
  workspaceId : String
  role : AgentRole
  agentId : String
  instanceId : String
  endpointUrl : String
  protocolVersion : String
  capabilities : Dict
  epoch : Nat
  leaseIdHash : String
  leaseState : LeaseState
  lastSeenAt : Option Timestamp
  createdAt : Timestamp
  updatedAt : Timestamp
  deriving Repr, DecidableEq, Inhabited

/-- The key of a row: workspace, role, agent and instance. -/
abbrev AgentKey := String × AgentRole × String × String

def AgentRow.key (row : AgentRow) : AgentKey :=
  (row.workspaceId, row.role, row.agentId, row.instanceId)

def AgentRegistration.key (registration : AgentRegistration) : AgentKey :=
  (registration.workspaceId, registration.role, registration.agentId, registration.instanceId)

structure AgentLease where
  agentId : String
  instanceId : String
  workspaceId : String
  leaseId : String
  epoch : Int
  heartbeatIntervalSeconds : Nat := 5
  threadBindings : List DriverThreadBinding := []
  recoveryRuns : List RunRecord := []
  deriving Repr, DecidableEq, Inhabited

/-- `normalize_driver_epoch`: the lease of an agent repeats its epoch. -/
def AgentLease.driverEpoch (lease : AgentLease) : Int := lease.epoch

/-- An item of `self.agent_events`. -/
structure AgentEvent where
  role : AgentRole
  workspaceId : String
  agentId : String
  instanceId : String
  epoch : Nat
  createdAt : Timestamp
  deriving Repr, DecidableEq, Inhabited

/-- Whether `self.sessions` is set. -/
inductive Storage where
  | memory
  | database
  deriving Repr, DecidableEq, Inhabited

/-- The settings and libraries that the registry uses. -/
structure AgentEnv where
  storage : Storage
  /-- `uuid4().hex` of the n-th call. -/
  uuidHex : Nat → String
  /-- `hashlib.sha256(text).hexdigest()`. -/
  sha256 : String → String
  /-- `str(value)` of a value that is not a string. -/
  text : Json → String
  /-- `settings.agent_lease_ttl_seconds`, in microseconds. -/
  agentLeaseTtl : Int

/-- The state that agents share. -/
structure Registry where
  agents : List AgentRow := []
  driverThreads : List DriverThreadBinding := []
  messageReceipts : List MessageReceipt := []
  agentEvents : List AgentEvent := []
  uuids : Nat := 0
  deriving Repr, DecidableEq, Inhabited

/-- What an operation of the registry asks its environment. -/
inductive AgentQuery where
  /-- `datetime.now(timezone.utc)`. -/
  | now
  /-- The order in which a `select` returns the rows that it matches. -/
  | rows (found : List AgentRow)
  /-- The order in which a `set` of workspaces is iterated. -/
  | workspaces (found : List String)
  /-- `session.commit()`. -/
  | commit
  /-- `self.runs.values()`. -/
  | runs
  /-- `self._all_records()`, read from storage. -/
  | allRecords
  deriving Repr, DecidableEq, Inhabited

def AgentAnswer : AgentQuery → Type
  | .now => Timestamp
  | .rows _ => List AgentRow
  | .workspaces _ => List String
  | .commit => Except Exc Unit
  | .runs => List RunRecord
  | .allRecords => Except Exc (List RunRecord)

/-- Selections and sets return what they hold, in any order. -/
def AgentAnswer.Allowed : (query : AgentQuery) → AgentAnswer query → Prop
  | .rows found, answer => List.Perm answer found
  | .workspaces found, answer => List.Perm answer found
  | .now, _ | .commit, _ | .runs, _ | .allRecords, _ => True

inductive RegistryWrite where
  | agents (rows : List AgentRow)
  | driverThreads (threads : List DriverThreadBinding)
  | messageReceipts (receipts : List MessageReceipt)
  | agentEvent (event : AgentEvent)
  | takeUuid
  deriving Repr, DecidableEq, Inhabited

instance : Update RegistryWrite Registry where
  apply update registry :=
    match update with
    | .agents rows => { registry with agents := rows }
    | .driverThreads threads => { registry with driverThreads := threads }
    | .messageReceipts receipts => { registry with messageReceipts := receipts }
    | .agentEvent event => { registry with agentEvents := registry.agentEvents ++ [event] }
    | .takeUuid => { registry with uuids := registry.uuids + 1 }

/-- An operation of the registry. -/
abbrev AgentOp (α : Type) := Prog Registry Exc RegistryWrite AgentAnswer α

/-- `_lease_hash`. -/
def AgentEnv.leaseHash (env : AgentEnv) (leaseId : String) : String := env.sha256 leaseId

/-- The lease id made from the n-th uuid. -/
def AgentEnv.leaseId (env : AgentEnv) (position : Nat) : String :=
  "lease-" ++ env.uuidHex position

/-- `str(value)`. -/
def AgentEnv.str (env : AgentEnv) : Json → String
  | .str text => text
  | value => env.text value

/-- `text.rstrip("/")`. -/
def rstripSlash (text : String) : String :=
  String.ofList (text.toList.reverse.dropWhile (· = '/')).reverse

namespace AgentRow

/-- Expired by a newer registration. -/
def expireAt (row : AgentRow) (now : Timestamp) : AgentRow :=
  { row with leaseState := .expired, updatedAt := now }

/-- Seen by a heartbeat. -/
def seenAt (row : AgentRow) (now : Timestamp) : AgentRow :=
  { row with lastSeenAt := some now, updatedAt := now }

def releaseAt (row : AgentRow) (now : Timestamp) : AgentRow :=
  { row with leaseState := .released, updatedAt := now }

/-- Whether an active lease was last seen before the cutoff. -/
def isStale (row : AgentRow) (cutoff : Timestamp) : Bool :=
  row.leaseState = .active && row.lastSeenAt.any fun seen => seen < cutoff

/-- Whether a row is listed for a workspace and an optional role. -/
def isListed (row : AgentRow) (workspaceId : String) (role : Option AgentRole) : Bool :=
  row.workspaceId = workspaceId && role.all fun wanted => row.role = wanted

end AgentRow

namespace AgentRegistration

/-- The rows whose leases a registration supersedes. -/
def supersedes (registration : AgentRegistration) (row : AgentRow) : Bool :=
  row.workspaceId = registration.workspaceId && row.role = registration.role &&
    (registration.role = .driver || row.agentId = registration.agentId)

/-- The rows after the superseded leases have expired. -/
def supersede (registration : AgentRegistration) (now : Timestamp) (rows : List AgentRow) :
    List AgentRow :=
  rows.map fun row =>
    if registration.supersedes row && row.leaseState = .active then row.expireAt now else row

/-- The row that is registered anew. -/
def previous? (registration : AgentRegistration) (rows : List AgentRow) : Option AgentRow :=
  rows.find? fun row => row.key = registration.key

/-- The epoch that a registration is given. -/
def nextEpoch (registration : AgentRegistration) (rows : List AgentRow) : Nat :=
  let seen := (rows.filter registration.supersedes).foldl (fun epoch row => max epoch row.epoch) 0
  let epoch := max seen ((registration.previous? rows).elim 0 AgentRow.epoch)
  match registration.role with
  | .driver => epoch + 1
  | .slave => max epoch 1

/-- The row of a registration. -/
def row (registration : AgentRegistration) (now : Timestamp) (epoch : Nat) (leaseIdHash : String)
    (createdAt : Timestamp) : AgentRow where
  workspaceId := registration.workspaceId
  role := registration.role
  agentId := registration.agentId
  instanceId := registration.instanceId
  endpointUrl := rstripSlash registration.endpointUrl
  protocolVersion := registration.protocolVersion
  capabilities := registration.capabilities
  epoch := epoch
  leaseIdHash := leaseIdHash
  leaseState := .active
  lastSeenAt := some now
  createdAt := createdAt
  updatedAt := now

end AgentRegistration

/-- `self.agents[key] = row`: a row of the same key is replaced in its place. -/
def putAgent (rows : List AgentRow) (row : AgentRow) : List AgentRow :=
  if (rows.find? fun other => other.key = row.key).isSome then
    rows.map fun other => if other.key = row.key then row else other
  else
    rows ++ [row]

/-- Change the row of a key. -/
def changeAgent (rows : List AgentRow) (key : AgentKey) (change : AgentRow → AgentRow) :
    List AgentRow :=
  rows.map fun row => if row.key = key then change row else row

namespace AgentOp

/-- `datetime.now(timezone.utc)`. -/
def clock : AgentOp Timestamp := .await .now .ret

/-- `await session.commit()`, where there is a session. -/
def commit (env : AgentEnv) : AgentOp Unit :=
  match env.storage with
  | .memory => .ret ()
  | .database => .await .commit Prog.ofExcept

/-- The records of all runs. -/
def allRecords (env : AgentEnv) : AgentOp (List RunRecord) :=
  match env.storage with
  | .memory => .await .runs .ret
  | .database => .await .allRecords Prog.ofExcept

/-- The rows of a selection, in the order the profile returns them. -/
def selected (env : AgentEnv) (found : List AgentRow) : AgentOp (List AgentRow) :=
  match env.storage with
  | .memory => .ret found
  | .database => .await (.rows found) .ret

/-- Iterate a set of workspaces. -/
def iterated (found : List String) : AgentOp (List String) := .await (.workspaces found) .ret

/-- A thread that a new driver of the workspace has to recover. -/
def recoverThread (workspaceId : String) (epoch : Nat) (thread : DriverThreadBinding) :
    DriverThreadBinding :=
  if thread.workspaceId = workspaceId ∧
      (thread.turnState = .starting ∨ thread.turnState = .inProgress) then
    { thread with turnState := .recoveryPending, driverEpoch := epoch }
  else thread

/-- A claim of the previous driver is given back. -/
def recoverReceipt (workspaceId : String) (now : Timestamp) (receipt : MessageReceipt) :
    MessageReceipt :=
  if receipt.workspaceId = workspaceId ∧ receipt.state = .inFlight then
    { receipt with
      state := .retryable, claimToken := none, nextAttemptAt := some now, updatedAt := now }
  else receipt

/-- What a new driver is handed over: the threads of its workspace and its unfinished runs.
The threads and receipts of the workspace are recovered with the registration. -/
def takeOver (env : AgentEnv) (registration : AgentRegistration) (now : Timestamp)
    (epoch : Nat) : AgentOp (List DriverThreadBinding × List RunRecord) :=
  match registration.role with
  | .slave => .ret ([], [])
  | .driver => do
      let registry ← Prog.get
      let threads :=
        registry.driverThreads.map (recoverThread registration.workspaceId epoch)
      Prog.tell (.driverThreads threads)
      Prog.tell (.messageReceipts
        (registry.messageReceipts.map (recoverReceipt registration.workspaceId now)))
      let records ← allRecords env
      .ret (threads.filter (·.workspaceId = registration.workspaceId),
        records.filter fun record =>
          record.closureContract.any (·.workspaceId = registration.workspaceId) &&
            (record.state = .thinking || record.state = .running))

/-- `register_agent`. -/
def registerAgent (env : AgentEnv) (registration : AgentRegistration) : AgentOp AgentLease := do
  let now ← clock
  let registry ← Prog.get
  let epoch := registration.nextEpoch registry.agents
  let leaseId := env.leaseId registry.uuids
  let createdAt := (registration.previous? registry.agents).elim now AgentRow.createdAt
  Prog.tell .takeUuid
  Prog.tell (.agentEvent
    { role := registration.role, workspaceId := registration.workspaceId
      agentId := registration.agentId, instanceId := registration.instanceId
      epoch := epoch, createdAt := now })
  commit env
  Prog.tell (.agents (putAgent (registration.supersede now registry.agents)
    (registration.row now epoch (env.leaseHash leaseId) createdAt)))
  let (threadBindings, recoveryRuns) ← takeOver env registration now epoch
  .ret
    { agentId := registration.agentId, instanceId := registration.instanceId
      workspaceId := registration.workspaceId, leaseId := leaseId, epoch := epoch
      threadBindings := threadBindings, recoveryRuns := recoveryRuns }

/-- `_agent_record`: the matching row that was updated last. -/
def agentRecord (env : AgentEnv) (workspaceId : String) (role : AgentRole) (agentId : String)
    (instanceId : Option String) : AgentOp (Option AgentRow) := do
  let registry ← Prog.get
  let matching ← selected env (registry.agents.filter fun row =>
    row.workspaceId = workspaceId && row.role = role && row.agentId = agentId &&
      instanceId.all fun wanted => row.instanceId = wanted)
  .ret (matching.insertionSort fun left right => right.updatedAt ≤ left.updatedAt).head?

/-- Expire a row that is listed and stale. -/
def expireStale (workspaceId : String) (role : Option AgentRole) (cutoff : Timestamp)
    (expired : AgentRow → AgentRow) (row : AgentRow) : AgentRow :=
  if row.isListed workspaceId role && row.isStale cutoff then expired row else row

/-- `list_agents`: leases that were not renewed in time expire when they are listed.  A database
listing also stamps the rows that expire, with one more reading of the clock. -/
def listAgents (env : AgentEnv) (workspaceId : String) (role : Option AgentRole) :
    AgentOp (List AgentRow) := do
  let now ← clock
  let cutoff := now - max 1000000 env.agentLeaseTtl
  let registry ← Prog.get
  let found := registry.agents.filter (·.isListed workspaceId role)
  match env.storage with
  | .memory => do
      let expire := expireStale workspaceId role cutoff fun row =>
        { row with leaseState := .expired }
      Prog.tell (.agents (registry.agents.map expire))
      .ret (found.map expire)
  | .database => do
      let later ← clock
      let expire := expireStale workspaceId role cutoff fun row => row.expireAt later
      let rows ← selected env found
      if found.any (·.isStale cutoff) then
        commit env
        Prog.tell (.agents (registry.agents.map expire))
        .ret (rows.map expire)
      else
        .ret (rows.map expire)

end AgentOp

/-- The arguments of `heartbeat_agent` and `release_agent`. -/
structure LeaseClaim where
  agentId : String
  instanceId : String
  leaseId : String
  epoch : Int
  workspaceId : Option String := none
  role : AgentRole := .driver
  deriving Repr, DecidableEq, Inhabited

/-- Whether a row holds the active lease that a claim names. -/
def LeaseClaim.holds (claim : LeaseClaim) (env : AgentEnv) (row : AgentRow) : Bool :=
  row.instanceId = claim.instanceId && row.leaseState = .active &&
    (row.epoch : Int) = claim.epoch && row.leaseIdHash = env.leaseHash claim.leaseId

namespace AgentOp

/-- The row that a heartbeat is checked against.  Without a workspace it is the first one of
the agent, in whatever workspace, and nothing expires. -/
def claimedRecord (env : AgentEnv) (claim : LeaseClaim) : AgentOp (Option AgentRow) :=
  match claim.workspaceId with
  | some workspaceId => do
      let _ ← listAgents env workspaceId (some claim.role)
      agentRecord env workspaceId claim.role claim.agentId (some claim.instanceId)
  | none => do
      let registry ← Prog.get
      let rows ← selected env (registry.agents.filter fun row =>
        row.role = claim.role && row.agentId = claim.agentId)
      .ret rows.head?

/-- The error of a stale lease. -/
def staleLease (role : AgentRole) : String :=
  match role with
  | .driver => "stale_driver_epoch"
  | .slave => "stale_agent_lease"

/-- `heartbeat_agent`. -/
def heartbeatAgent (env : AgentEnv) (claim : LeaseClaim) : AgentOp AgentLease := do
  match ← claimedRecord env claim with
  | none => .raise (.valueError (staleLease claim.role))
  | some record => do
      Prog.guard (claim.holds env record) (Exc.valueError (staleLease claim.role))
      let now ← clock
      commit env
      let registry ← Prog.get
      Prog.tell (.agents (changeAgent registry.agents
        (record.workspaceId, claim.role, claim.agentId, claim.instanceId)
        fun row => row.seenAt now))
      .ret
        { agentId := claim.agentId, instanceId := claim.instanceId
          workspaceId := record.workspaceId, leaseId := claim.leaseId, epoch := claim.epoch }

/-- `release_agent`. -/
def releaseAgent (env : AgentEnv) (claim : LeaseClaim) : AgentOp Unit := do
  let _ ← heartbeatAgent env claim
  match claim.workspaceId with
  | none => .raise (.valueError "agent_not_found")
  | some workspaceId => do
      let now ← clock
      commit env
      let registry ← Prog.get
      Prog.tell (.agents (changeAgent registry.agents
        (workspaceId, claim.role, claim.agentId, claim.instanceId) fun row => row.releaseAt now))

/-! ### Admission of driver commands -/

/-- `list_agents` of each workspace, one after the other. -/
def listDrivers (env : AgentEnv) : List String → AgentOp (List AgentRow)
  | [] => .ret []
  | workspaceId :: rest => do
      let rows ← listAgents env workspaceId (some .driver)
      let more ← listDrivers env rest
      .ret (rows ++ more)

/-- The drivers among which the sender of a command is looked up: those of the requested
workspace, or of every workspace where none is requested and the default one has no driver. -/
def driverCandidates (env : AgentEnv) (requested : Json) : AgentOp (List AgentRow) := do
  let agents ← listAgents env (env.str (requested.orElse (.str "workspace-default")))
    (some .driver)
  if requested = .null ∧ agents = [] then
    let registry ← Prog.get
    let workspaces ← iterated
      ((registry.agents.filter (·.role = .driver)).map AgentRow.workspaceId).dedup
    listDrivers env workspaces
  else
    .ret agents

/-- The lease check of `_execute_driver_command`: the row of the driver that sent it. -/
def admitDriverCommand (env : AgentEnv) (command : DriverCommand) : AgentOp AgentRow := do
  Prog.guard (command.command ∈ driverCommands) (Exc.valueError "driver_command_not_allowed")
  let agents ← driverCandidates env (Dict.get command.arguments "workspace_id")
  match agents.find? fun row => row.agentId = command.driverId && row.leaseState = .active with
  | none => .raise (.valueError "stale_driver_epoch")
  | some agent => do
      Prog.guard
        (agent.instanceId = command.instanceId ∧ (agent.epoch : Int) = command.driverEpoch)
        (Exc.valueError "stale_driver_epoch")
      match ← agentRecord env agent.workspaceId .driver command.driverId
          (some command.instanceId) with
      | none => .raise (.valueError "stale_driver_epoch")
      | some record => do
          Prog.guard (record.leaseIdHash = env.leaseHash command.leaseId)
            (Exc.valueError "stale_driver_epoch")
          .ret agent

end AgentOp

/-! ### Calls -/

/-- A call of the registry with its arguments. -/
inductive AgentCall where
  | registerAgent (registration : AgentRegistration)
  | heartbeatAgent (claim : LeaseClaim)
  | releaseAgent (claim : LeaseClaim)
  | listAgents (workspaceId : String) (role : Option AgentRole)
  | executeDriverCommand (command : DriverCommand)
  deriving Repr, DecidableEq, Inhabited

/-- What a call returns.  A driver command is admitted for the row of its sender. -/
inductive AgentReply where
  | lease (lease : AgentLease)
  | released
  | agents (rows : List AgentRow)
  | admitted (sender : AgentRow)
  deriving Repr, DecidableEq, Inhabited

/-- The program of a call. -/
def AgentCall.prog (env : AgentEnv) : AgentCall → AgentOp AgentReply
  | .registerAgent registration => (AgentOp.registerAgent env registration).map .lease
  | .heartbeatAgent claim => (AgentOp.heartbeatAgent env claim).map .lease
  | .releaseAgent claim => (AgentOp.releaseAgent env claim).map fun _ => .released
  | .listAgents workspaceId role => (AgentOp.listAgents env workspaceId role).map .agents
  | .executeDriverCommand command => (AgentOp.admitDriverCommand env command).map .admitted

end Loom
