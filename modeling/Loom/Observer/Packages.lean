import Loom.Observer.Repository

/-!
# Packages, Slaves and provenance

Package lookup across runs, the Slave snapshot that `refresh_slaves` stores, the attempt
budget and the provenance of orchestration events.
-/

namespace Loom

open Coroutine

namespace Repo

/-- `_package_visible_to_run`. -/
def packageVisible (repo : Repo) (package : CapabilityPackageVersion) (runId : Option String) :
    Bool :=
  match runId with
  | none =>
      package.scope = .runBound ∨
        (package.scope = .workspaceReusable ∧ package.publicationState = .published)
  | some runId =>
      match repo.run? runId with
      | none => false
      | some run =>
          if package.scope = .runBound then package.sourceRunRef = runId
          else if package.publicationState ≠ .published then false
          else
            match (repo.run? package.sourceRunRef).bind fun source => source.closureContract,
                run.closureContract with
            | some source, some own => source.workspaceId = own.workspaceId
            | _, _ => false

/-- The order in which `_find_package` prefers candidates. -/
def prefers (left right : CapabilityPackageVersion) : Bool :=
  let scope := fun package : CapabilityPackageVersion => package.scope ≠ .workspaceReusable
  if scope left ≠ scope right then scope right
  else if left.packageId ≠ right.packageId then left.packageId < right.packageId
  else if left.packageVersion ≠ right.packageVersion then left.packageVersion < right.packageVersion
  else left.sourceRunRef < right.sourceRunRef

/-- `_find_package`. -/
def findPackage (repo : Repo) (ref : ResourceRef) (runId : Option String) :
    Option CapabilityPackageVersion :=
  let digest := ref.digest.getD ""
  let candidates := (repo.records.flatMap fun record => record.capabilityPackages).filter
    fun package =>
      repo.packageVisible package runId ∧ ref.resourceId = package.versionRef ∧
        (digest = "" ∨ digest = lower package.packageDigest)
  match candidates with
  | [] => none
  | first :: rest =>
      some (rest.foldl (fun best item => if prefers item best then item else best) first)

end Repo

/-- `package_body_ref`. -/
def packageBodyRef (env : Env) (package : CapabilityPackageVersion) (field : String) :
    Except Exc ResourceRef :=
  match package.body.lookup field with
  | none => .error (.valueError (field ++ "_required"))
  | some value =>
      match env.resourceRef value with
      | .ok ref => .ok ref
      | .error error =>
          if error.isLookupError then .error (.valueError (field ++ "_required")) else .error error

/-- `_orchestration_provenance`. -/
def Repo.provenance (repo : Repo) (env : Env) (record : RunRecord)
    (known : Option CapabilityPackageVersion := none) : Except Exc Provenance :=
  let packageRef := record.snapshot.programSystems.packageRef
  let package := match known with
    | some package => some package
    | none => packageRef.bind fun ref => repo.findPackage ref (some record.runId)
  let provenance := fun programRef : Option ResourceRef =>
    { parentExecutionRef := record.executionId
      closureVersionRef := record.closureVersionRef
      orchestrationPackageRef := packageRef
      orchestrationProgramRef := programRef : Provenance }
  match package with
  | none => .ok (provenance none)
  | some package =>
      (packageBodyRef env package "program_content_ref").map fun ref => provenance (some ref)

/-- The node packages an orchestration package allows and its two node limits. -/
structure OrchestrationLimits where
  allowed : List ResourceRef
  maxNodes : Int
  maxLiveNodes : Int
  deriving Repr, DecidableEq, Inhabited

/-- Validate every item of a list. -/
def validateEach {α : Type} (validate : Json → Except Exc α) : List Json → Except Exc (List α)
  | [] => .ok []
  | item :: rest => do
      let value ← validate item
      let values ← validateEach validate rest
      .ok (value :: values)

/-- `int(body[field])`. -/
def bodyInt (body : Dict) (field : String) : Except Exc Int :=
  match body.lookup field with
  | none => .error (.keyError field)
  | some value =>
      match value.toInt? with
      | some number => .ok number
      | none => .error (.typeError field)

/-- The limits in an orchestration package's body. -/
def orchestrationLimits (env : Env) (package : CapabilityPackageVersion) :
    Except Exc OrchestrationLimits := do
  let allowed ← match package.body.lookup "allowed_node_package_refs" with
    | none => .error (.keyError "allowed_node_package_refs")
    | some (.arr items) => validateEach env.resourceRef items
    | some _ => .error (.typeError "allowed_node_package_refs")
  let maxNodes ← bodyInt package.body "max_nodes"
  let maxLiveNodes ← bodyInt package.body "max_live_nodes"
  .ok { allowed, maxNodes, maxLiveNodes }

/-- The package can be replayed from the event log alone. -/
def replayable (package : CapabilityPackageVersion) (exported : CapabilityExport) : Bool :=
  exported.replaySafety = "DeterministicByEventLog" &&
    !(Dict.get package.body "captures_run_state").truthy &&
    !(Dict.get package.body "captured_secret_refs").truthy &&
    !(Dict.get package.body "captured_path_refs").truthy

/-- `_check_attempt_budget`. -/
def RunRecord.checkAttemptBudget (record : RunRecord) : Except Exc Unit :=
  let budget := match record.closureContract with
    | some contract => contract.resourceBudget
    | none => []
  let exceeded : Except Exc Unit := .error (.valueError "orchestration_attempt_limit_exceeded")
  match Dict.get budget "max_attempts" with
  | .null => .ok ()
  | raw =>
      match raw.toInt? with
      | none => exceeded
      | some maxAttempts =>
          if maxAttempts < 0 ∨ (record.attempts.length : Int) ≥ maxAttempts then exceeded
          else .ok ()

/-! ### Slaves -/

namespace SlaveView

/-- `_canonical_target_resource_id`. -/
def canonicalTarget (view : SlaveView) (resourceId : String) : String :=
  if (view.capabilities.lookup resourceId).isSome then resourceId
  else
    let stripped := (resourceId.toList.reverse.dropWhile fun char => char = '/').reverse
    match view.capabilities.find? fun entry =>
        ('/' :: entry.1.toList).isSuffixOf stripped ||
          (':' :: entry.1.toList).isSuffixOf stripped with
    | some entry => entry.1
    | none => resourceId

/-- `_slave_supports_package`. -/
def supports (view : SlaveView) (slaveId : String) (package : CapabilityPackageVersion) : Bool :=
  slaveSupportsPackage slaveId package view.agents view.capabilities

/-- `_slave_is_active`. -/
def isActive (view : SlaveView) (slaveId : String) : Bool :=
  match view.agents.lookup slaveId with
  | some agent => Dict.get agent "lease_state" = .str "active"
  | none => false

end SlaveView

/-- The strings of a JSON list. -/
def Json.texts (value : Json) : List String :=
  value.items.filterMap fun
    | .str text => some text
    | _ => none

/-- The operations an agent offers without any package. -/
def baseOperations (agent : Dict) : List String :=
  let capabilities := (Dict.get agent "capabilities").entries
  (if Dict.has capabilities "base_operations" then Dict.get capabilities "base_operations"
    else Dict.get capabilities "operations").texts

/-- The operations of ready activations on a Slave. -/
def Repo.readyOperations (repo : Repo) (slaveId : String) : List String :=
  repo.records.flatMap fun record =>
    record.capabilityActivations.flatMap fun activation =>
      if activation.targetSlave = slaveId ∧ activation.desiredState = .running ∧
          activation.activationState = .ready then
        match repo.findPackage
            { resourceId := activation.packageVersionRef
              versionOrDigest := some activation.packageDigest } none with
        | some package =>
            if package.packageDigest = activation.packageDigest then
              package.capabilityExports.map fun exported =>
                operationName exported.capabilityDescriptorRef.resourceId
            else []
        | none => []
      else []

/-- `str(agent.get(field) or "")` for the text fields of an agent. -/
def agentText (agent : Dict) (field : String) : String :=
  match Dict.get agent field with
  | .str text => text
  | _ => ""

/-- `_store_slave_snapshot` followed by `_project_ready_capabilities`. -/
def Repo.slaveView (repo : Repo) (agents : List Dict) : SlaveView :=
  let selected := selectSlaveAgents agents
  let active := selected.filter fun entry => Dict.get entry.2 "lease_state" = .str "active"
  { instances := (agents.reverse.filter fun agent => agentText agent "agent_id" ≠ "").map
      fun agent => ((agentText agent "agent_id", agentText agent "instance_id"), agent)
    agents := selected
    capabilities := active.map fun entry => (entry.1, (Dict.get entry.2 "capabilities").entries)
    operations := active.map fun entry =>
      (entry.1, baseOperations entry.2 ++ repo.readyOperations entry.1) }

namespace Op

/-- `refresh_slaves`. -/
def refreshSlaves (workspaceId : String) : Op Unit :=
  .await (.listAgents workspaceId) fun
    | .error error => .raise error
    | .ok agents => do
        let _ ← allRecords
        let repo ← Prog.get
        Prog.tell (.storeSlaves (repo.slaveView agents))

/-- `_orchestration_provenance` of the record at an address. -/
def provenance (env : Env) (address : Nat) (known : Option CapabilityPackageVersion := none) :
    Op Provenance :=
  .read fun repo => Prog.ofExcept (repo.provenance env (repo.heap address) known)

/-- `get_capability_package`. -/
def getCapabilityPackage (ref : ResourceRef) (runId : String) : Op CapabilityPackageVersion := do
  let _ ← allRecords
  let repo ← Prog.get
  match repo.findPackage ref (some runId) with
  | some package => .ret package
  | none => .raise (.keyError ref.resourceId)

end Op

end Loom
