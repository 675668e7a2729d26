import Loom.Observer.Interleavings

/-!
# Executing the Observer

Histories that are computed: `Observed.of_play` turns an executed list of calls into a history,
`Demo.Plays.interleaves` an executed schedule into an interleaving.

`Demo` is a small deployment to execute against: two Slaves, a content store with one byte for
each known content, and libraries that behave on these contents as the real ones do.
-/

namespace Loom

open Coroutine

abbrev World := (query : Query) → Answer query

/-- The history of calls that are run against given answers. -/
theorem Observed.of_play (env : Env) (calls : List (Call × World)) :
    Observed env (fun _ _ => True) (play (Call.prog env) calls Repo.empty).1
      (play (Call.prog env) calls Repo.empty).2 :=
  History.of_play calls (fun _ _ _ => trivial) Repo.empty

/-- Later calls that are run against given answers. -/
theorem Observed.later_of_play (env : Env) (calls : List (Call × World)) (repo : Repo) :
    History (Call.prog env) (fun _ _ => True) repo (play (Call.prog env) calls repo).1
      (play (Call.prog env) calls repo).2 :=
  History.of_play calls (fun _ _ _ => trivial) repo

/-- The exception with which a call ended. -/
def raised? (result : Except Exc Reply) : Option Exc :=
  match result with
  | .ok _ => none
  | .error error => some error

theorem eq_of_raised? {result : Except Exc Reply} {error : Exc}
    (raised : raised? result = some error) : result = .error error := by
  cases result with
  | ok value => cases raised
  | error other =>
      cases raised
      rfl

/-- Storage does not raise. -/
def StorageAccepts (answers : (query : Query) → Answer query → Prop) : Prop :=
  ∀ record error, ¬ answers (.persist record) (.error error)

/-- A query can be answered: only a lock may be taken. -/
def isReady : Query → Repo → Bool
  | .intentLock runId, repo => !repo.locked.contains runId
  | .capabilityLock lock, repo => !repo.capabilityLocks.contains lock
  | _, _ => true

namespace Demo

/-- The digest of the content with a number. -/
def digest (number : Nat) : String :=
  String.ofList (List.replicate 63 '0' ++ [Nat.digitChar number])

def contentRef (number : Nat) : ResourceRef := { resourceId := contentPrefix ++ digest number }

/-- The number of the content with a digest. -/
def contentOf (text : String) : Option Bytes :=
  (List.range 10).find? (fun number => digest number = text) |>.map fun number =>
    [UInt8.ofNat number]

def refOf (value : Json) : Except Exc ResourceRef :=
  match value with
  | .obj entries =>
      match Dict.get entries "resource_id" with
      | .str resourceId =>
          let text := fun key => match Dict.get entries key with
            | .str text => some text
            | _ => none
          .ok { resourceId, versionOrDigest := text "version_or_digest"
                identityCriterion := text "identity_criterion" }
      | _ => .error (.valueError "resource_id")
  | _ => .error (.valueError "resource_ref")

def optionalRef (entries : Dict) (key : String) : Option ResourceRef :=
  match refOf (Dict.get entries key) with
  | .ok ref => some ref
  | .error _ => none

/-- The JSON contents: contracts without schemas. -/
def json : Nat → Json
  | 1 => .obj []
  | 2 => .obj [("success_validator_ref", (contentRef 4).toJson)]
  | 3 => .obj [("success_semantics", .str "the user is satisfied")]
  | number => .int number

/-- The content number of a value. -/
def numberOf (value : Json) : Nat :=
  match value with
  | .int number => number.toNat
  | _ => 9

def env : Env where
  hex number := toString number
  now number := "at-" ++ toString number
  text _ := "value"
  dictOf _ := .error (.typeError "dict")
  canonicalJsonBytes value := .ok [UInt8.ofNat (numberOf value)]
  sha256 content := digest ((content.headD 0).toNat)
  jsonLoads content := .ok (json (content.headD 0).toNat)
  closureDigest closure := .ok (digest closure.metadata.length)
  descriptorDigest _ := .ok (digest 7)
  packageDigest _ := .ok (digest 8)
  resourceRef := refOf
  ioContract value := .ok
    { successValidatorRef := optionalRef value.entries "success_validator_ref"
      successSemantics := Dict.get value.entries "success_semantics" }
  validationEvidence _ := .error (.valueError "evidence")
  executionContract value :=
    match Dict.get value.entries "kind" with
    | .str kind => .ok { kind }
    | _ => .error (.valueError "kind")
  capabilityExport value := do
    let capabilityDescriptorRef ← refOf (Dict.get value.entries "capability_descriptor_ref")
    let ioContractRef ← refOf (Dict.get value.entries "io_contract_ref")
    .ok { capabilityDescriptorRef, ioContractRef, replaySafety := "DeterministicByEventLog" }
  computeSpec _ := .error (.valueError "compute_spec")
  constraint := .ok
  typedHole _ := .error (.valueError "typed_hole")
  computeBinding _ := .error (.valueError "compute_binding")
  validateSchema _ := .ok ()
  validate _ _ := .ok []
  parseProgram _ := some "program"
  entryBlockers _ := []
  descriptorRegistry := [(("operation://double", digest 7), .obj [])]
  orchestratorRuntimeAvailable := some true
  dockerOnPath := true

theorem hex_injective : Function.Injective env.hex := by
  intro number other same
  have digits : Nat.toDigits 10 number = Nat.toDigits 10 other := by
    simpa [env] using congrArg String.toList same
  have read := congrArg (fun chars => Nat.ofDigitChars 10 chars 0) digits
  simpa [Nat.ofDigitChars_toDigits] using read

/-- A Slave that runs functions. -/
def agent (slaveId lease : String) : Dict :=
  [("agent_id", .str slaveId), ("instance_id", .str ("instance-" ++ slaveId)), ("epoch", .int 1),
    ("lease_state", .str lease),
    ("capabilities", .obj [("executor_kinds", .arr [.obj [("package_type", .str "function"),
      ("kind", .str "process:json_stdio"), ("version", .str "1")]])])]

/-- The answers of the services, with the lease of the first Slave and the verdict of every
validator. -/
def world (lease verdict : String) : World
  | .load _ => ()
  | .allRecords => .ok none
  | .intentLock _ => ()
  | .capabilityLock _ => ()
  | .persist _ => .ok ()
  | .storeReceipt _ => .ok ()
  | .contentGet digest => .ok (contentOf digest)
  | .contentStat digest => .ok (some ⟨some digest, "text/x-python", true⟩)
  | .contentPut _ _ => .ok ()
  | .runValidator _ _ => .ok (.obj [("result", .str verdict)])
  | .listAgents _ => .ok [agent "slave-a" lease, agent "slave-b" "active"]
  | .checkProgram _ => .ok []

/-- The usual answers: both Slaves are active and validators pass. -/
def usual : World := world "active" "pass"

/-! ### An ordinary run -/

/-- The contract of a run whose IO contract is the content with a number. -/
def contract (contractNumber : Nat) : ClosureContract :=
  { closureId := "closure", goal := "goal"
    resourceBudget := [], recoveryPolicy := [("allow_reassignment", .bool true)]
    body :=
      { closureId := "closure", metadata := [("goal", .str "goal")]
        program := { ioContractRef := some (contentRef contractNumber) } } }

def opens (contractNumber : Nat) : Call :=
  .openRun { runId := some "run", taskRef := "task", goal := "goal"
             closureContract := some (contract contractNumber) }

/-- The calls that bring an ordinary run to `running`. -/
def started (contractNumber : Nat) : List Call :=
  [opens contractNumber, .beginRefinement "run", .commit "run" "draft-0" (digest 1),
    .start "run" "committed-1"]

/-! ### An orchestrated run -/

/-- The operation that the nodes perform. -/
def descriptorRef : ResourceRef :=
  { resourceId := "operation://double", versionOrDigest := some (digest 7)
    identityCriterion := some "descriptor_digest" }

def materialize (packageId kind : String) (body : Dict) : Dict :=
  [("kind", .str "materialize_capability_package_candidate"),
    ("value", .obj [("package_id", .str packageId), ("package_type", .str "function"),
      ("execution", .obj [("kind", .str kind)]),
      ("capability_exports", .arr [.obj [("capability_descriptor_ref", descriptorRef.toJson),
        ("io_contract_ref", (contentRef 1).toJson)]]),
      ("body", .obj body)])]

def nodePackageRef : ResourceRef :=
  { resourceId := "capability-package://double/v1", versionOrDigest := some (digest 8) }

def orchestratorBody : Dict :=
  [("program_content_ref", (contentRef 5).toJson),
    ("allowed_node_package_refs", .arr [nodePackageRef.toJson]), ("max_nodes", .int 3),
    ("max_live_nodes", .int 2)]

/-- The packages of an orchestrator and of its nodes. -/
def packages : List Dict :=
  [materialize "orchestrator" "container:python_orchestrator" orchestratorBody,
    materialize "double" "process:json_stdio" []]

/-- The calls that bring an orchestrated run to `running`. -/
def orchestrated (contractNumber : Nat) : List Call :=
  [opens contractNumber, .applyPatch "run" "draft-0" (digest 1) "operation" packages,
    .commit "run" "draft-3" (digest 3), .start "run" "committed-5"]

def intent (intentId executionId : String) : NodeIntent :=
  { intentId, executionId, packageRef := nodePackageRef, capabilityDescriptorRef := descriptorRef }

def firstNode : String := "node-execution-6-1"

/-- The calls that accept a node and dispatch it. -/
def dispatched : List Call :=
  [.acceptNodeIntent "run" (intent "intent-0001" "execution-6") "slave-a",
    .dispatchDynamicNode "run" firstNode "slave-a"]

def nodeResult (attemptId : String) (further : Dict) : Json :=
  .obj ([("attempt_id", .str attemptId), ("execution_id", .str "execution-6"),
    ("execution_epoch", .int 1), ("value", .int 5)] ++ further)

/-- The snapshot that the patch leaves. -/
def snapshot (contractNumber : Nat) : TaskClosure :=
  { closureId := "closure"
    program := { ioContractRef := some (contentRef contractNumber) }
    programSystems :=
      { execution := { kind := "container:python_orchestrator" }
        packageRef := some
          { resourceId := "capability-package://orchestrator/v1"
            versionOrDigest := some (digest 8) }
        replaySafety := "DeterministicByEventLog" }
    metadata :=
      [("capability_package_refs", .arr [.str "capability-package://orchestrator/v1",
          .str "capability-package://double/v1"]),
        ("capability_package_refs", .arr [.str "capability-package://orchestrator/v1"]),
        ("goal", .str "goal")] }

/-- A package that the patch materializes. -/
def package (packageId kind closureVersion : String) (body : Dict) : CapabilityPackageVersion :=
  { packageType := "function", packageId, packageVersion := "v1"
    packageClosureVersionRef := closureVersion, sourceRunRef := "run"
    sourceClosureVersionRef := "draft-0", scope := .runBound, publicationState := .candidate
    provenance := [.obj [("source", .str "coding_agent"), ("run_id", .str "run")]]
    execution := { kind }
    capabilityExports :=
      [{ capabilityDescriptorRef := descriptorRef, ioContractRef := contentRef 1
         replaySafety := "DeterministicByEventLog" }]
    body, packageDigest := digest 8 }

/-- The record of the orchestrated run once it is running. -/
def running (contractNumber : Nat) : RunRecord :=
  let draft : ClosureVersion :=
    { versionId := "draft-3", closureId := "closure", parentVersion := some "draft-0"
      snapshot := snapshot contractNumber, snapshotDigest := digest 3, patchCursor := 1 }
  let packageRef := (snapshot contractNumber).programSystems.packageRef
  { runId := "run", taskRef := "task", goal := "goal", draft
    closureContract := some { contract contractNumber with
      originConversationRef := "task", userId := "user-default"
      workspaceId := "workspace-default" }
    committed := some { draft with versionId := "committed-5", kind := "committed" }
    executionId := some "execution-6", state := .running
    events :=
      [.runOpened "run" "at-1", .runTransition .refinementStarted .opened .thinking none,
        .draftPatched "operation" "draft-3",
        .packageCandidateMaterialized "operation"
          (.arr [.str "capability-package://orchestrator/v1",
            .str "capability-package://double/v1"]),
        .readinessInspected "run" "draft-3" true [],
        .runTransition .committed .thinking .committed none, .committed "committed-5",
        .readinessInspected "run" "committed-5" true [],
        .runTransition .executionStarted .committed .running none,
        .executionStarted "execution-6" 1,
        .orchestrationStarted "run" (some "execution-6") 1 packageRef
          { parentExecutionRef := some "execution-6", closureVersionRef := "committed-5"
            orchestrationPackageRef := packageRef
            orchestrationProgramRef := some (contentRef 5) }]
    capabilityPackages :=
      [package "orchestrator" "container:python_orchestrator" "package-closure-1" orchestratorBody,
        package "double" "process:json_stdio" "package-closure-2" []] }

/-- The records and results after calls. -/
def after (calls : List (Call × World)) : List (Entry Repo Exc Answer Reply Call) × Repo :=
  play (Call.prog env) calls Repo.empty

/-- Calls with the usual answers. -/
def usually (calls : List Call) : List (Call × World) := calls.map fun call => (call, usual)

/-- A repository that holds one record, written out. -/
def pinned (repo : Repo) (record : RunRecord) (uuids : Nat) : Repo :=
  { repo with
    heap := Function.update repo.heap 0 record, next := 1, runs := [("run", 0)], locked := []
    uuids }

theorem eq_pinned {repo : Repo} {record : RunRecord} {uuids : Nat}
    (facts : repo.heap 0 = record ∧ repo.next = 1 ∧ repo.runs = [("run", 0)] ∧ repo.locked = [] ∧
      repo.uuids = uuids) : repo = pinned repo record uuids := by
  rcases repo with ⟨heap, next, runs, idempotency, slaves, locked, held, drawn⟩
  obtain ⟨rfl, rfl, rfl, rfl, rfl⟩ := facts
  unfold pinned
  rw [Function.update_eq_self]

/-- The repository in which the orchestrated run is running. -/
def ready : Repo := pinned (after (usually (orchestrated 1))).2 (running 1) 7

theorem orchestrated_ready : (after (usually (orchestrated 1))).2 = ready :=
  eq_pinned (by decide +kernel)

def firstAttempt : Attempt :=
  { attemptId := "attempt-7", nodeId := some firstNode, target := "slave-a"
    targetInstanceId := some "instance-slave-a", targetAgentEpoch := some 1, executionEpoch := 1 }

/-- The record of the orchestrated run once its first node is dispatched. -/
def launchedRecord : RunRecord :=
  let provenance : Provenance :=
    { parentExecutionRef := some "execution-6", closureVersionRef := "committed-5"
      orchestrationPackageRef := (snapshot 1).programSystems.packageRef
      orchestrationProgramRef := some (contentRef 5) }
  { running 1 with
    attempts := [firstAttempt]
    dynamicNodes :=
      [{ (intent "intent-0001" "execution-6").node "execution-6" 1 with
         nodeId := firstNode, state := .dispatched }]
    events := (running 1).events ++
      [.nodeRequested "run" (some "execution-6") 1 (intent "intent-0001" "execution-6") provenance,
        .nodeAccepted "run" (some "execution-6") 1 firstNode "intent-0001" nodePackageRef
          descriptorRef [] "slave-a" provenance,
        .nodeDispatched "run" (some "execution-6") 1 firstNode firstAttempt nodePackageRef
          descriptorRef [] provenance] }

/-- The repository in which the first node is dispatched. -/
def launched : Repo := pinned (play (Call.prog env) (usually dispatched) ready).2 launchedRecord 8

theorem dispatched_launched :
    (play (Call.prog env) (usually dispatched) ready).2 = launched :=
  eq_pinned (by decide +kernel)

/-- The calls that made the run ready. -/
def setup : List (Entry Repo Exc Answer Reply Call) := (after (usually (orchestrated 1))).1

theorem observed_ready : Observed env (fun _ _ => True) setup ready := by
  rw [← orchestrated_ready]
  exact Observed.of_play env _

/-- The calls that launched the first node. -/
def launch : List (Entry Repo Exc Answer Reply Call) :=
  setup ++ (play (Call.prog env) (usually dispatched) ready).1

theorem observed_launched : Observed env (fun _ _ => True) launch launched := by
  rw [← dispatched_launched]
  exact (observed_ready).append (Observed.later_of_play env _ ready)

/-- What holds of the calls that launch the first node, whatever the state, holds of the launch. -/
theorem launch_all {holds : Entry Repo Exc Answer Reply Call → Prop}
    (each : ∀ entry, entry.label ∈ orchestrated 1 ++ dispatched → holds entry) :
    ∀ entry ∈ launch, holds entry := by
  intro entry member
  refine each entry (List.mem_append.2 ?_)
  rcases List.mem_append.1 member with member | member
  · obtain ⟨call, isCall, same, -⟩ := mem_play _ _ entry member
    obtain ⟨label, isLabel, rfl⟩ := List.mem_map.1 isCall
    exact .inl (by rw [same]; exact isLabel)
  · obtain ⟨call, isCall, same, -⟩ := mem_play _ _ entry member
    obtain ⟨label, isLabel, rfl⟩ := List.mem_map.1 isCall
    exact .inr (by rw [same]; exact isLabel)

/-- Calls after the first node was dispatched. -/
def goOn (calls : List (Call × World)) : List (Entry Repo Exc Answer Reply Call) × Repo :=
  play (Call.prog env) calls launched

theorem observed_goOn (calls : List (Call × World)) :
    Observed env (fun _ _ => True) (launch ++ (goOn calls).1) (goOn calls).2 :=
  (observed_launched).append (Observed.later_of_play env calls launched)

/-! ### Schedules -/

/-- A schedule of the Observer's operations. -/
abbrev Schedule := List (Pool.Action Answer Call)

/-- The usual answers to the next awaits of a call. -/
def answered (index awaits : Nat) : Schedule := List.replicate awaits (.resume index usual)

/-- The first two calls of a schedule bring an ordinary run to `thinking`. -/
def refining : Schedule :=
  .spawn (opens 1) :: answered 0 1 ++ .spawn (.beginRefinement "run") :: answered 1 2

/-- Any interleaving of the Observer's operations from its start on. -/
def Interleaves (segments : List ObserverSegment) (pool : ObserverPool) : Prop :=
  Pool.Run (Call.prog env) (fun _ _ => True) (fun query repo => isReady query repo)
    ⟨Repo.empty, []⟩ segments pool

/-- The segments that a schedule performs. -/
def Plays (schedule : Schedule) (segments : List ObserverSegment) : Prop :=
  ∃ pool, Pool.play (Call.prog env) isReady schedule ⟨Repo.empty, []⟩ = some (segments, pool)

/-- What a schedule performs is an interleaving. -/
theorem Plays.interleaves {schedule : Schedule} {segments : List ObserverSegment}
    (plays : Plays schedule segments) : ∃ pool, Interleaves segments pool := by
  obtain ⟨pool, played⟩ := plays
  exact ⟨pool, Pool.Run.of_play schedule .nil played⟩

/-- A schedule whose segments pass a check. -/
structure Checked (check : List ObserverSegment → Bool) where
  schedule : Schedule
  passes : (Pool.play (Call.prog env) isReady schedule ⟨Repo.empty, []⟩).any
    (fun played => check played.1) = true

/-- What is checked of an executed schedule holds of its segments. -/
theorem Checked.plays {check : List ObserverSegment → Bool} (checked : Checked check) :
    ∃ segments, Plays checked.schedule segments ∧ check segments = true := by
  obtain ⟨⟨segments, pool⟩, played, passes⟩ := (Option.any_eq_true _ _).1 checked.passes
  exact ⟨segments, ⟨pool, played⟩, passes⟩

end Demo

end Loom
