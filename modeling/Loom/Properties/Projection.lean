import Loom.Observer.Execution
import Loom.Slave.Service

/-!
# The operations that Observer projects for a Slave

`refresh_slaves` reads the agents of one workspace and projects for each Slave its base operations
and what ready activations export.  The activations are collected from the records of all runs, so
one of another workspace on a Slave of the same name counts as well, and the package of an
activation is looked up again without a run, so one that has been abandoned after it was published
does not count.

What is right for one set of activations may be wrong once some of them are stopped.  The projection
is therefore compared with the exports of the workspace after any of its activations have been
stopped.
-/

namespace Loom

open Coroutine

/-- The activation is to run on a Slave, and is ready. -/
def CapabilityPackageActivation.Serves (activation : CapabilityPackageActivation)
    (slaveId : String) : Prop :=
  activation.targetSlave = slaveId ∧ activation.desiredState = .running ∧
    activation.activationState = .ready

/-- The package exports an operation. -/
def CapabilityPackageVersion.Offers (package : CapabilityPackageVersion) (operation : String) :
    Prop :=
  ∃ exported ∈ package.capabilityExports,
    operationName exported.capabilityDescriptorRef.resourceId = operation

namespace Repo

/-- The package has the coordinate and the digest of an activation. -/
def PackageOf (repo : Repo) (activation : CapabilityPackageActivation)
    (package : CapabilityPackageVersion) : Prop :=
  (∃ record ∈ repo.records, package ∈ record.capabilityPackages) ∧
    package.versionRef = activation.packageVersionRef ∧
    package.packageDigest = activation.packageDigest

/-- The package that the projection finds for an activation. -/
def Resolves (repo : Repo) (activation : CapabilityPackageActivation)
    (package : CapabilityPackageVersion) : Prop :=
  repo.findPackage { resourceId := activation.packageVersionRef
                     versionOrDigest := some activation.packageDigest } none = some package ∧
    package.packageDigest = activation.packageDigest

/-- An activation of the workspace serves an operation on a Slave. -/
def Exported (repo : Repo) (workspaceId slaveId operation : String) : Prop :=
  ∃ record ∈ repo.records, record.workspaceId = workspaceId ∧
    ∃ activation ∈ record.capabilityActivations, activation.Serves slaveId ∧
      ∃ package, repo.PackageOf activation package ∧ package.Offers operation

/-- The repository after some activations have been stopped. -/
def stop (repo : Repo) (chosen : RunRecord → CapabilityPackageActivation → Bool) : Repo :=
  { repo with
    heap := fun address =>
      { repo.heap address with
        capabilityActivations := (repo.heap address).capabilityActivations.map fun activation =>
          if chosen (repo.heap address) activation then
            { activation with desiredState := .stopped, activationState := .stopped }
          else activation } }

/-! ### What is projected -/

section Projected

variable {repo : Repo} {slaveId operation : String}

theorem mem_foldl_prefers {rest : List CapabilityPackageVersion}
    {first : CapabilityPackageVersion} :
    rest.foldl (fun best item => if prefers item best then item else best) first ∈
      first :: rest := by
  induction rest generalizing first with
  | nil => exact List.mem_singleton_self _
  | cons item rest ih =>
      rw [List.foldl_cons]
      rcases List.mem_cons.1 (@ih (if prefers item first then item else first)) with here | later
      · rw [here]
        split
        · exact List.mem_cons_of_mem _ List.mem_cons_self
        · exact List.mem_cons_self
      · exact List.mem_cons_of_mem _ (List.mem_cons_of_mem _ later)

/-- A package that is found is recorded under the coordinate that it was looked up by. -/
theorem findPackage_mem {ref : ResourceRef} {runId : Option String}
    {package : CapabilityPackageVersion} (found : repo.findPackage ref runId = some package) :
    (∃ record ∈ repo.records, package ∈ record.capabilityPackages) ∧
      package.versionRef = ref.resourceId := by
  unfold findPackage at found
  dsimp only at found
  split at found
  · cases found
  · rename_i first rest candidates
    rw [← Option.some.inj found]
    have member := @mem_foldl_prefers rest first
    rw [← candidates, List.mem_filter, List.mem_flatMap] at member
    have facts := of_decide_eq_true member.2
    exact ⟨member.1, facts.2.1.symm⟩

theorem Resolves.packageOf {activation : CapabilityPackageActivation}
    {package : CapabilityPackageVersion} (resolves : repo.Resolves activation package) :
    repo.PackageOf activation package := by
  obtain ⟨recorded, coordinate⟩ := findPackage_mem resolves.1
  exact ⟨recorded, coordinate, resolves.2⟩

theorem mem_readyOperations :
    operation ∈ repo.readyOperations slaveId ↔
      ∃ record ∈ repo.records, ∃ activation ∈ record.capabilityActivations,
        activation.Serves slaveId ∧
          ∃ package, repo.Resolves activation package ∧ package.Offers operation := by
  unfold readyOperations
  simp only [List.mem_flatMap]
  constructor
  · rintro ⟨record, isRecord, activation, isActivation, exports⟩
    refine ⟨record, isRecord, activation, isActivation, ?_⟩
    split at exports
    · rename_i serves
      refine ⟨serves, ?_⟩
      split at exports
      · rename_i package found
        split at exports
        · rename_i sameDigest
          obtain ⟨exported, isExport, isOperation⟩ := List.mem_map.1 exports
          exact ⟨package, ⟨found, sameDigest⟩, exported, isExport, isOperation⟩
        · cases exports
      · cases exports
    · cases exports
  · rintro ⟨record, isRecord, activation, isActivation, serves, package, resolves, offers⟩
    refine ⟨record, isRecord, activation, isActivation, ?_⟩
    obtain ⟨found, sameDigest⟩ := resolves
    obtain ⟨target, running, ready⟩ := serves
    rw [if_pos ⟨target, running, ready⟩, found]
    dsimp only
    rw [if_pos sameDigest]
    exact List.mem_map.2 offers

theorem lookup_active {selected : List (String × Dict)} {agent : Dict}
    (isAgent : selected.lookup slaveId = some agent)
    (active : Dict.get agent "lease_state" = .str "active")
    (operations : String × Dict → List String) :
    ((selected.filter fun entry => Dict.get entry.2 "lease_state" = .str "active").map
      fun entry => (entry.1, operations entry)).lookup slaveId =
        some (operations (slaveId, agent)) := by
  induction selected with
  | nil => cases isAgent
  | cons entry selected ih =>
      obtain ⟨name, other⟩ := entry
      by_cases here : slaveId = name
      · subst here
        rw [List.lookup_cons_self] at isAgent
        cases isAgent
        rw [List.filter_cons_of_pos (by simpa using active), List.map_cons, List.lookup_cons_self]
      · have apart : (slaveId == name) = false := by simpa using here
        rw [List.lookup_cons, apart] at isAgent
        by_cases isActive : Dict.get other "lease_state" = .str "active"
        · rw [List.filter_cons_of_pos (by simpa using isActive), List.map_cons, List.lookup_cons,
            apart]
          exact ih isAgent
        · rw [List.filter_cons_of_neg (by simpa using isActive)]
          exact ih isAgent

/-- What `_project_ready_capabilities` puts in place for an active Slave. -/
theorem operations_slaveView {agents : List Dict} {agent : Dict}
    (isAgent : (selectSlaveAgents agents).lookup slaveId = some agent)
    (active : Dict.get agent "lease_state" = .str "active") :
    (repo.slaveView agents).operations.lookup slaveId =
      some (baseOperations agent ++ repo.readyOperations slaveId) :=
  lookup_active isAgent active fun entry =>
    baseOperations entry.2 ++ repo.readyOperations entry.1

end Projected

/-! ### Stopping activations -/

section Stopping

variable {repo : Repo} {chosen : RunRecord → CapabilityPackageActivation → Bool}

theorem packages_stop :
    ((repo.stop chosen).records.flatMap fun record => record.capabilityPackages) =
      repo.records.flatMap fun record => record.capabilityPackages := by
  unfold records
  rw [List.flatMap_map, List.flatMap_map]
  rfl

theorem findPackage_stop (ref : ResourceRef) :
    (repo.stop chosen).findPackage ref none = repo.findPackage ref none := by
  unfold findPackage
  rw [packages_stop]
  rfl

theorem resolves_stop {activation : CapabilityPackageActivation}
    {package : CapabilityPackageVersion} :
    (repo.stop chosen).Resolves activation package ↔ repo.Resolves activation package := by
  unfold Resolves
  rw [findPackage_stop]

theorem packageOf_stop {activation : CapabilityPackageActivation}
    {package : CapabilityPackageVersion} :
    (repo.stop chosen).PackageOf activation package ↔ repo.PackageOf activation package := by
  have recorded : (∃ record ∈ (repo.stop chosen).records, package ∈ record.capabilityPackages) ↔
      ∃ record ∈ repo.records, package ∈ record.capabilityPackages := by
    rw [← List.mem_flatMap, packages_stop, List.mem_flatMap]
  exact and_congr recorded Iff.rfl

/-- The activations that serve a Slave after some have been stopped. -/
theorem serving_stop {slaveId : String} {holds : RunRecord → CapabilityPackageActivation → Prop}
    (same : ∀ record activation activations,
      holds { record with capabilityActivations := activations } activation ↔
        holds record activation) :
    (∃ record ∈ (repo.stop chosen).records, ∃ activation ∈ record.capabilityActivations,
      activation.Serves slaveId ∧ holds record activation) ↔
    ∃ record ∈ repo.records, ∃ activation ∈ record.capabilityActivations,
      activation.Serves slaveId ∧ chosen record activation = false ∧ holds record activation := by
  constructor
  · rintro ⟨record, isRecord, activation, isActivation, serves, isHeld⟩
    obtain ⟨entry, isEntry, rfl⟩ := List.mem_map.1 isRecord
    obtain ⟨old, isOld, isNew⟩ := List.mem_map.1 isActivation
    refine ⟨repo.heap entry.2, List.mem_map.2 ⟨entry, isEntry, rfl⟩, old, isOld, ?_⟩
    by_cases isChosen : chosen (repo.heap entry.2) old = true
    · rw [if_pos isChosen] at isNew
      rw [← isNew] at serves
      cases serves.2.1
    · rw [if_neg isChosen] at isNew
      rw [isNew] at isChosen ⊢
      exact ⟨serves, by simpa using isChosen, (same _ _ _).1 isHeld⟩
  · rintro ⟨record, isRecord, activation, isActivation, serves, kept, isHeld⟩
    obtain ⟨entry, isEntry, rfl⟩ := List.mem_map.1 isRecord
    refine ⟨(repo.stop chosen).heap entry.2, List.mem_map.2 ⟨entry, isEntry, rfl⟩, activation,
      List.mem_map.2 ⟨activation, isActivation, ?_⟩, serves, (same _ _ _).2 isHeld⟩
    rw [if_neg (by simp [kept])]

theorem mem_readyOperations_stop {slaveId operation : String} :
    operation ∈ (repo.stop chosen).readyOperations slaveId ↔
      ∃ record ∈ repo.records, ∃ activation ∈ record.capabilityActivations,
        activation.Serves slaveId ∧ chosen record activation = false ∧
          ∃ package, repo.Resolves activation package ∧ package.Offers operation := by
  rw [mem_readyOperations]
  simp only [resolves_stop]
  exact @serving_stop repo chosen slaveId (fun _ activation =>
    ∃ package, repo.Resolves activation package ∧ package.Offers operation) fun _ _ _ => Iff.rfl

theorem exported_stop {workspaceId slaveId operation : String} :
    (repo.stop chosen).Exported workspaceId slaveId operation ↔
      ∃ record ∈ repo.records, ∃ activation ∈ record.capabilityActivations,
        activation.Serves slaveId ∧ chosen record activation = false ∧
          record.workspaceId = workspaceId ∧
          ∃ package, repo.PackageOf activation package ∧ package.Offers operation := by
  rw [← @serving_stop repo chosen slaveId (fun record activation =>
    record.workspaceId = workspaceId ∧
      ∃ package, repo.PackageOf activation package ∧ package.Offers operation) fun _ _ _ => Iff.rfl]
  unfold Exported
  simp only [packageOf_stop]
  constructor
  · rintro ⟨record, isRecord, isWorkspace, activation, isActivation, serves, package⟩
    exact ⟨record, isRecord, activation, isActivation, serves, isWorkspace, package⟩
  · rintro ⟨record, isRecord, activation, isActivation, serves, isWorkspace, package⟩
    exact ⟨record, isRecord, isWorkspace, activation, isActivation, serves, package⟩

end Stopping

end Repo

/-! ### The Slave's own snapshot -/

theorem mem_capabilitySnapshot {slave : SlaveState} {operation : String} :
    operation ∈ slave.capabilitySnapshot ↔
      operation ∈ slave.supportedOperations ∨
        ∃ entry ∈ slave.activations, entry.2.desiredState = .running ∧
          entry.2.activationState = .ready ∧
          ∃ package, slave.findCachedPackage entry.2.packageVersionRef
            (some entry.2.packageDigest) = some package ∧ package.Offers operation := by
  unfold SlaveState.capabilitySnapshot
  rw [List.mem_append, List.mem_flatMap]
  refine or_congr Iff.rfl ⟨?_, ?_⟩
  · rintro ⟨entry, isEntry, exports⟩
    split at exports
    · cases exports
    · rename_i serves
      obtain ⟨running, ready⟩ := not_or.1 serves
      rw [not_not] at running ready
      refine ⟨entry, isEntry, running, ready, ?_⟩
      split at exports
      · cases exports
      · rename_i package cached
        exact ⟨package, cached, List.mem_map.1 exports⟩
  · rintro ⟨entry, isEntry, running, ready, package, cached, offers⟩
    refine ⟨entry, isEntry, ?_⟩
    rw [if_neg (by simp [running, ready]), cached]
    exact List.mem_map.2 offers

/-- The Slave holds the same activations as the runs of a workspace, with the packages of these,
and offers the base operations of its registration. -/
structure Mirrors (repo : Repo) (workspaceId slaveId : String) (agent : Dict)
    (slave : SlaveState) : Prop where
  base : ∀ operation, operation ∈ slave.supportedOperations ↔ operation ∈ baseOperations agent
  activations : ∀ coordinate digest,
    (∃ entry ∈ slave.activations, entry.2.desiredState = .running ∧
      entry.2.activationState = .ready ∧ entry.2.packageVersionRef = coordinate ∧
      entry.2.packageDigest = digest) ↔
    ∃ record ∈ repo.records, record.workspaceId = workspaceId ∧
      ∃ activation ∈ record.capabilityActivations, activation.Serves slaveId ∧
        activation.packageVersionRef = coordinate ∧ activation.packageDigest = digest
  packages : ∀ entry ∈ slave.activations, entry.2.desiredState = .running →
    entry.2.activationState = .ready → ∀ operation,
      (∃ package, slave.findCachedPackage entry.2.packageVersionRef
        (some entry.2.packageDigest) = some package ∧ package.Offers operation) ↔
      ∃ package, repo.PackageOf entry.2 package ∧ package.Offers operation

theorem packageOf_congr {repo : Repo} {activation other : CapabilityPackageActivation}
    {package : CapabilityPackageVersion}
    (coordinate : activation.packageVersionRef = other.packageVersionRef)
    (digest : activation.packageDigest = other.packageDigest) :
    repo.PackageOf activation package ↔ repo.PackageOf other package := by
  unfold Repo.PackageOf
  rw [coordinate, digest]

/-- The snapshot of a Slave lists what the activations of the workspace export. -/
theorem Mirrors.mem_snapshot {repo : Repo} {workspaceId slaveId : String} {agent : Dict}
    {slave : SlaveState} (mirrors : Mirrors repo workspaceId slaveId agent slave)
    (operation : String) :
    operation ∈ slave.capabilitySnapshot ↔
      operation ∈ baseOperations agent ∨ repo.Exported workspaceId slaveId operation := by
  rw [mem_capabilitySnapshot, mirrors.base]
  refine or_congr Iff.rfl ⟨?_, ?_⟩
  · rintro ⟨entry, isEntry, running, ready, package⟩
    obtain ⟨other, isOther, offers⟩ :=
      (mirrors.packages entry isEntry running ready operation).1 package
    obtain ⟨record, isRecord, isWorkspace, activation, isActivation, serves, coordinate, digest⟩ :=
      (mirrors.activations _ _).1 ⟨entry, isEntry, running, ready, rfl, rfl⟩
    exact ⟨record, isRecord, isWorkspace, activation, isActivation, serves, other,
      (packageOf_congr coordinate digest).2 isOther, offers⟩
  · rintro ⟨record, isRecord, isWorkspace, activation, isActivation, serves, package, isPackage,
      offers⟩
    obtain ⟨entry, isEntry, running, ready, coordinate, digest⟩ := (mirrors.activations _ _).2
      ⟨record, isRecord, isWorkspace, activation, isActivation, serves, rfl, rfl⟩
    exact ⟨entry, isEntry, running, ready,
      (mirrors.packages entry isEntry running ready operation).2
        ⟨package, (packageOf_congr coordinate digest).2 isPackage, offers⟩⟩

/-! ### A refresh -/

/-- The agents that are registered, whatever else is answered. -/
def AgentsAre (agents : List Dict) : (query : Query) → Answer query → Prop
  | .listAgents _, answer => answer = .ok agents
  | _, _ => True

/-- `refresh_slaves` with the agents of the workspace has been completed. -/
def Refreshed (workspaceId : String) (agents : List Dict) (repo after : Repo) : Prop :=
  (Op.refreshSlaves workspaceId).Runs (AgentsAre agents) repo after (.ok ())

theorem refreshed_iff {workspaceId : String} {agents : List Dict} {repo after : Repo} :
    Refreshed workspaceId agents repo after ↔
      after = { repo with slaves := repo.slaveView agents } := by
  constructor
  · intro runs
    unfold Refreshed Op.refreshSlaves at runs
    cases runs with
    | await answer allowed rest =>
        cases allowed
        cases rest with
        | await answer allowed rest =>
            cases answer with
            | error error => cases rest
            | ok listed =>
                cases listed with
                | none =>
                    cases rest with
                    | read rest =>
                        cases rest with
                        | read rest =>
                            cases rest with
                            | write rest =>
                                cases rest with
                                | ret => rfl
                | some listed =>
                    cases rest with
                    | read rest =>
                        cases rest with
                        | read rest =>
                            cases rest with
                            | write rest =>
                                cases rest with
                                | ret => rfl
  · rintro rfl
    have listed : Answer .allRecords := (.ok none : Except Exc (Option (List String)))
    refine .await (Except.ok agents) rfl ?_
    exact .await (Except.ok none) trivial (.read (.read (.write .ret)))

/-- What the projection for a Slave is to be, for the set of activations in `repo`. -/
structure ProjectionAgrees (repo : Repo) (workspaceId slaveId : String) (agents : List Dict)
    (agent : Dict) : Prop where
  exports : ∀ after, Refreshed workspaceId agents repo after →
    ∃ operations, after.slaves.operations.lookup slaveId = some operations ∧
      ∀ operation, operation ∈ operations ↔
        operation ∈ baseOperations agent ∨ repo.Exported workspaceId slaveId operation
  snapshot : ∀ after operations slave, Refreshed workspaceId agents repo after →
    after.slaves.operations.lookup slaveId = some operations →
    Mirrors repo workspaceId slaveId agent slave →
      ∀ operation, operation ∈ operations ↔ operation ∈ slave.capabilitySnapshot
  removed : ∀ chosen after later operations remaining,
    Refreshed workspaceId agents repo after →
    after.slaves.operations.lookup slaveId = some operations →
    Refreshed workspaceId agents (repo.stop chosen) later →
    later.slaves.operations.lookup slaveId = some remaining →
      ∀ operation ∈ operations, operation ∉ remaining →
        ¬(repo.stop chosen).Exported workspaceId slaveId operation

/-- Ready activations of other workspaces add nothing to the base operations of the Slave, and what
an activation of the workspace adds is exported by the package that is found for it. -/
structure Separated (repo : Repo) (workspaceId slaveId : String) (agent : Dict) : Prop where
  others : ∀ record ∈ repo.records, record.workspaceId ≠ workspaceId →
    ∀ activation ∈ record.capabilityActivations, activation.Serves slaveId →
      ∀ package, repo.Resolves activation package → ∀ operation, package.Offers operation →
        operation ∈ baseOperations agent
  found : ∀ record ∈ repo.records, record.workspaceId = workspaceId →
    ∀ activation ∈ record.capabilityActivations, activation.Serves slaveId →
      ∀ package, repo.PackageOf activation package → ∀ operation, package.Offers operation →
        operation ∈ baseOperations agent ∨
          ∃ other, repo.Resolves activation other ∧ other.Offers operation

section Agreement

variable {repo : Repo} {workspaceId slaveId : String} {agents : List Dict} {agent : Dict}

theorem Separated.stop (separated : Separated repo workspaceId slaveId agent)
    (chosen : RunRecord → CapabilityPackageActivation → Bool) :
    Separated (repo.stop chosen) workspaceId slaveId agent := by
  constructor
  · intro record isRecord isOther activation isActivation serves package resolves
    obtain ⟨old, isOld, other, isOther', serves', -, apart, same⟩ :=
      (@Repo.serving_stop repo chosen slaveId (fun record' activation' =>
        record'.workspaceId ≠ workspaceId ∧ activation' = activation) fun _ _ _ => Iff.rfl).1
          ⟨record, isRecord, activation, isActivation, serves, isOther, rfl⟩
    rw [← same] at resolves
    exact separated.others old isOld apart other isOther' serves' package
      (Repo.resolves_stop.1 resolves)
  · intro record isRecord isOwn activation isActivation serves package isPackage operation offers
    obtain ⟨old, isOld, other, isOther, serves', -, isOwn', same⟩ :=
      (@Repo.serving_stop repo chosen slaveId (fun record' activation' =>
        record'.workspaceId = workspaceId ∧ activation' = activation) fun _ _ _ => Iff.rfl).1
          ⟨record, isRecord, activation, isActivation, serves, isOwn, rfl⟩
    rw [← same] at isPackage ⊢
    simp only [Repo.resolves_stop]
    exact separated.found old isOld isOwn' other isOther serves' package
      (Repo.packageOf_stop.1 isPackage) operation offers

/-- What is projected where the workspaces are separated. -/
theorem Separated.mem_projected (separated : Separated repo workspaceId slaveId agent)
    (operation : String) :
    operation ∈ baseOperations agent ++ repo.readyOperations slaveId ↔
      operation ∈ baseOperations agent ∨ repo.Exported workspaceId slaveId operation := by
  rw [List.mem_append, Repo.mem_readyOperations]
  constructor
  · rintro (isBase | ⟨record, isRecord, activation, isActivation, serves, package, resolves,
      offers⟩)
    · exact Or.inl isBase
    · by_cases isOwn : record.workspaceId = workspaceId
      · exact Or.inr ⟨record, isRecord, isOwn, activation, isActivation, serves, package,
          resolves.packageOf, offers⟩
      · exact Or.inl (separated.others record isRecord isOwn activation isActivation serves package
          resolves operation offers)
  · rintro (isBase | ⟨record, isRecord, isOwn, activation, isActivation, serves, package,
      isPackage, offers⟩)
    · exact Or.inl isBase
    · rcases separated.found record isRecord isOwn activation isActivation serves package isPackage
        operation offers with isBase | ⟨other, resolves, offers'⟩
      · exact Or.inl isBase
      · exact Or.inr ⟨record, isRecord, activation, isActivation, serves, other, resolves, offers'⟩

variable (isAgent : (selectSlaveAgents agents).lookup slaveId = some agent)
  (active : Dict.get agent "lease_state" = .str "active")

include isAgent active

theorem Refreshed.operations {after : Repo} (refreshed : Refreshed workspaceId agents repo after) :
    after.slaves.operations.lookup slaveId =
      some (baseOperations agent ++ repo.readyOperations slaveId) := by
  rw [refreshed_iff.1 refreshed]
  exact Repo.operations_slaveView isAgent active

theorem Separated.agrees (separated : Separated repo workspaceId slaveId agent) :
    ProjectionAgrees repo workspaceId slaveId agents agent := by
  constructor
  · intro after refreshed
    exact ⟨_, refreshed.operations isAgent active, separated.mem_projected⟩
  · intro after operations slave refreshed isProjected mirrors operation
    cases (refreshed.operations isAgent active).symm.trans isProjected
    rw [separated.mem_projected, mirrors.mem_snapshot]
  · intro chosen after later operations remaining refreshed isProjected refreshed' isRemaining
      operation _ gone exported
    cases (refreshed'.operations isAgent active).symm.trans isRemaining
    exact gone (((separated.stop chosen).mem_projected operation).2 (Or.inr exported))

/-- For every set of runs, packages and activations and every active Slave of a workspace, the
projection agrees with the exports of the workspace, whichever activations are stopped, if and only
if no ready activation of another workspace on a Slave of that name exports more than base
operations, and for every ready activation of the workspace the package that is found without a run
exports what the packages with its coordinate and digest export. -/
theorem projection_agrees_iff :
    (∀ chosen, ProjectionAgrees (repo.stop chosen) workspaceId slaveId agents agent) ↔
      Separated repo workspaceId slaveId agent := by
  constructor
  · intro agrees
    have projected : ∀ chosen operation,
        (operation ∈ baseOperations agent ∨
          operation ∈ (repo.stop chosen).readyOperations slaveId) ↔
        operation ∈ baseOperations agent ∨
          (repo.stop chosen).Exported workspaceId slaveId operation := by
      intro chosen operation
      have refreshed := (@refreshed_iff workspaceId agents (repo.stop chosen) _).2 rfl
      obtain ⟨operations, isProjected, exactly⟩ := (agrees chosen).exports _ refreshed
      cases (refreshed.operations isAgent active).symm.trans isProjected
      rw [← List.mem_append]
      exact exactly operation
    constructor
    · -- Once the workspace has stopped all its activations, only its base operations are left.
      intro record isRecord isOther activation isActivation serves package resolves operation offers
      have remains := (projected (fun record _ => record.workspaceId = workspaceId) operation).1
        (Or.inr (Repo.mem_readyOperations_stop.2 ⟨record, isRecord, activation, isActivation,
          serves, by simpa using isOther, package, resolves, offers⟩))
      rcases remains with isBase | exported
      · exact isBase
      · obtain ⟨own, -, other, -, -, kept, isOwn, -⟩ := Repo.exported_stop.1 exported
        simp [isOwn] at kept
    · -- Once all activations with other packages are stopped, only this one exports it.
      intro record isRecord isOwn activation isActivation serves package isPackage operation offers
      have remains := (projected (fun _ other =>
          !(other.packageVersionRef = activation.packageVersionRef &&
            other.packageDigest = activation.packageDigest)) operation).2
        (Or.inr (Repo.exported_stop.2 ⟨record, isRecord, activation, isActivation, serves, by simp,
          isOwn, package, isPackage, offers⟩))
      rcases remains with isBase | ready
      · exact Or.inl isBase
      · obtain ⟨record', -, other, -, -, kept, found, resolves, offers'⟩ :=
          Repo.mem_readyOperations_stop.1 ready
        have same : other.packageVersionRef = activation.packageVersionRef ∧
            other.packageDigest = activation.packageDigest := by simpa using kept
        refine Or.inr ⟨found, ?_, offers'⟩
        unfold Repo.Resolves at resolves ⊢
        rwa [same.1, same.2] at resolves
  · intro separated chosen
    exact (separated.stop chosen).agrees isAgent active

end Agreement

namespace ProjectionDemo

def agent : Dict :=
  [("agent_id", .str "slave-a"), ("lease_state", .str "active"),
    ("capabilities", .obj [("base_operations", .arr [.str "run_code"])])]

def package : CapabilityPackageVersion := Demo.package "double" "process:json_stdio" "closure" []

def activation : CapabilityPackageActivation :=
  { packageVersionRef := package.versionRef, packageDigest := package.packageDigest
    targetSlave := "slave-a", activationClosureVersionRef := "closure", computeBindingRef := ""
    desiredState := .running, activationRevision := 1, lastIdempotencyKey := "key"
    activationState := .ready }

/-- A run that has a package and its ready activation. -/
def serving (workspaceId : String) : RunRecord :=
  { Demo.running 1 with
    closureContract := some { Demo.contract 1 with workspaceId }
    capabilityPackages := [package], capabilityActivations := [activation] }

/-- A run without activations. -/
def idle : RunRecord :=
  { Demo.running 1 with capabilityPackages := [], capabilityActivations := [] }

def repoOf (records : List RunRecord) : Repo :=
  { Repo.empty with
    heap := fun address => (records[address]?).getD default
    runs := records.zipIdx.map fun entry => (entry.1.runId, entry.2) }

/-- A run of the workspace without activations, and one of another workspace that serves a
package on a Slave of the same name. -/
def shared : Repo := repoOf [idle, serving "workspace-b"]

def separate : Repo := repoOf [serving "workspace-default"]

theorem records_separate : separate.records = [serving "workspace-default"] := rfl

theorem records_shared : shared.records = [idle, serving "workspace-b"] := rfl

theorem separated : Separated separate "workspace-default" "slave-a" agent := by
  constructor
  · intro record isRecord isOther
    rw [records_separate, List.mem_singleton] at isRecord
    subst isRecord
    exact absurd rfl isOther
  · intro record isRecord _ served isActivation _ other isPackage operation offers
    rw [records_separate, List.mem_singleton] at isRecord
    subst isRecord
    rw [show served = activation from List.mem_singleton.1 isActivation] at isPackage ⊢
    obtain ⟨⟨record', isRecord', isPackage'⟩, -⟩ := isPackage
    rw [records_separate, List.mem_singleton] at isRecord'
    subst isRecord'
    rw [show other = package from List.mem_singleton.1 isPackage'] at offers
    refine Or.inr ⟨package, ⟨?_, rfl⟩, offers⟩
    decide +kernel

end ProjectionDemo

/-- A Slave whose one activation belongs to the workspace, before and after it is stopped. -/
theorem projection_agrees_separate :
    ProjectionAgrees (ProjectionDemo.separate.stop fun _ _ => false) "workspace-default" "slave-a"
        [ProjectionDemo.agent] ProjectionDemo.agent ∧
      ProjectionAgrees (ProjectionDemo.separate.stop fun _ _ => true) "workspace-default" "slave-a"
        [ProjectionDemo.agent] ProjectionDemo.agent := by
  have agrees : ∀ chosen, ProjectionAgrees (ProjectionDemo.separate.stop chosen)
      "workspace-default" "slave-a" [ProjectionDemo.agent] ProjectionDemo.agent :=
    (projection_agrees_iff (by decide +kernel) (by decide +kernel)).2 ProjectionDemo.separated
  exact ⟨agrees _, agrees _⟩

/-- The operation of another workspace's activation is projected for the Slave of the same name. -/
theorem projection_crosses_workspaces :
    ¬ProjectionAgrees ProjectionDemo.shared "workspace-default" "slave-a" [ProjectionDemo.agent]
      ProjectionDemo.agent := by
  intro agrees
  have refreshed := (@refreshed_iff "workspace-default" [ProjectionDemo.agent]
    ProjectionDemo.shared _).2 rfl
  obtain ⟨operations, isProjected, exactly⟩ := agrees.exports _ refreshed
  have projected : (ProjectionDemo.shared.slaveView [ProjectionDemo.agent]).operations.lookup
      "slave-a" = some ["run_code", "double"] := by decide +kernel
  cases projected.symm.trans isProjected
  rcases (exactly "double").1 (by simp) with isBase | ⟨record, isRecord, isOwn, served, isServed, -⟩
  · exact absurd isBase (by decide +kernel)
  · rw [ProjectionDemo.records_shared, List.mem_cons, List.mem_singleton] at isRecord
    rcases isRecord with rfl | rfl
    · cases isServed
    · exact absurd isOwn (by decide +kernel)

end Loom
