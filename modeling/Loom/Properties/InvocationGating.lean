import Loom.Contracts.Packages
import Loom.Properties.Projection
import Loom.Slave.Calls

/-!
# Gating of plugin invocations

`SlaveService.run` invokes a plugin for an activation that is ready; `capability_snapshot` lists the
operations of one that is ready and whose desired state is `running`.  The two differ where an
activation is ready while it is to be stopped: after `_deprovision_locked` has stored the desired
state and until the plugin has stopped the runtime, which may fail, and where
`reconcile_activations` finds the runtime of a stopped activation.

In every interleaving, an invocation is for an activation of the package's coordinate and digest
that is ready, and it is to run unless the last change of the activation was one of these two.
-/

namespace Loom

open Coroutine

/-- What validation says of the digest of a package: it is there, and it is the declared one. -/
structure Env.ValidatesDigests (env : Env) : Prop where
  present : ∀ package digest, env.packageDigest package = .ok digest → lower digest ≠ ""
  declared : ∀ package digest, env.packageDigest package = .ok digest →
    package.packageDigest ≠ "" → lower digest = lower package.packageDigest

section Validation

variable {env : ManifestEnv} {hash : Json → Except Exc String}
  {package stored : CapabilityPackageVersion}

/-- A package that passes validation has the digest that it declares, or the computed one. -/
theorem initDigest_ok (isStored : package.initDigest env hash = .ok stored) :
    (∃ payload, hash payload = .ok stored.packageDigest) ∧
      (package.packageDigest ≠ "" → stored.packageDigest = env.lower package.packageDigest) := by
  unfold CapabilityPackageVersion.initDigest CapabilityPackageVersion.identityDigest at isStored
  cases isPayload : package.identityPayload env with
  | error error =>
      rw [isPayload] at isStored
      cases isStored
  | ok payload =>
      rw [isPayload] at isStored
      cases isHash : hash payload.canonical with
      | error error =>
          simp only [bind, Except.bind, isHash] at isStored
          cases isStored
      | ok computed =>
          simp only [bind, Except.bind, isHash] at isStored
          split at isStored
          · rename_i empty
            cases isStored
            exact ⟨⟨_, isHash⟩, fun declared => absurd empty declared⟩
          · split at isStored
            · cases isStored
            · split at isStored
              · cases isStored
              · rename_i same
                cases isStored
                exact ⟨⟨_, isHash.trans (congrArg Except.ok (not_not.1 same).symm)⟩, fun _ => rfl⟩

theorem validate_initDigest (isStored : package.validate env hash = .ok stored) :
    package.initDigest env hash = .ok stored := by
  unfold CapabilityPackageVersion.validate at isStored
  split at isStored
  · cases isStored
  · cases refs : Except.each CapabilityExport.validateRefs package.capabilityExports with
    | error error =>
        simp only [bind, Except.bind, refs] at isStored
        cases isStored
    | ok refs' =>
        simp only [bind, Except.bind, refs] at isStored
        cases isInit : package.initDigest env hash with
        | error error =>
            rw [isInit] at isStored
            cases isStored
        | ok init =>
            rw [isInit] at isStored
            dsimp only at isStored
            split at isStored
            · cases isStored
            · cases isStored
              rfl

/-- The validation of package manifests does so. -/
theorem validatesDigests_of_validate {slaveEnv : Env} (lowers : env.lower = lower)
    (hashes : ∀ payload digest, hash payload = .ok digest →
      CapabilityPackageVersion.isSha256 (some digest) = true)
    (validates : ∀ package, slaveEnv.packageDigest package =
      (package.validate env hash).map CapabilityPackageVersion.packageDigest) :
    slaveEnv.ValidatesDigests := by
  have stored : ∀ package digest, slaveEnv.packageDigest package = .ok digest →
      ∃ stored, package.initDigest env hash = .ok stored ∧ stored.packageDigest = digest := by
    intro package digest isDigest
    rw [validates] at isDigest
    cases isValid : package.validate env hash with
    | error error =>
        rw [isValid] at isDigest
        cases isDigest
    | ok stored =>
        rw [isValid] at isDigest
        cases isDigest
        exact ⟨stored, validate_initDigest isValid, rfl⟩
  constructor
  · intro package digest isDigest empty
    obtain ⟨stored, isInit, rfl⟩ := stored package digest isDigest
    obtain ⟨payload, isHash⟩ := (initDigest_ok isInit).1
    have isSha := hashes payload _ isHash
    have length := length_lower stored.packageDigest
    rw [empty] at length
    simp [CapabilityPackageVersion.isSha256, ← length] at isSha
  · intro package digest isDigest declared
    obtain ⟨stored, isInit, rfl⟩ := stored package digest isDigest
    rw [(initDigest_ok isInit).2 declared, lowers, lower_lower]

end Validation

/-! ### Packages and their activations -/

/-- An activation that is there stays, with its digest. -/
def Kept (before after : SlaveLifecycle) : Prop :=
  ∀ key old, before.activation? key = some old →
    ∃ new, after.activation? key = some new ∧ lower new.packageDigest = lower old.packageDigest

/-- The activation of a package is there. -/
def Backs (package : CapabilityPackageVersion) (state : SlaveLifecycle) : Prop :=
  ∃ activation, state.activation? package.versionRef = some activation ∧
    lower activation.packageDigest = lower package.packageDigest

/-- Every package in the cache has a digest and an activation. -/
def Served (state : SlaveLifecycle) : Prop :=
  ∀ entry ∈ state.slave.packageCache, lower entry.2.packageDigest ≠ "" ∧ Backs entry.2 state

theorem Kept.of_installed {before after : SlaveLifecycle}
    (same : after.installed = before.installed) : Kept before after := by
  intro key old isOld
  rw [SlaveLifecycle.activation?_of_installed same]
  exact ⟨old, isOld, rfl⟩

theorem Kept.trans {first second third : SlaveLifecycle} (earlier : Kept first second)
    (later : Kept second third) : Kept first third := by
  intro key old isOld
  obtain ⟨middle, isMiddle, same⟩ := earlier key old isOld
  obtain ⟨new, isNew, same'⟩ := later key middle isMiddle
  exact ⟨new, isNew, same'.trans same⟩

theorem kept_interferes : Interferes Kept :=
  ⟨fun _ _ same => .of_installed same, fun _ _ _ => Kept.trans⟩

theorem Backs.kept {package : CapabilityPackageVersion} {before after : SlaveLifecycle}
    (backs : Backs package before) (kept : Kept before after) : Backs package after := by
  obtain ⟨old, isOld, sameDigest⟩ := backs
  obtain ⟨new, isNew, same⟩ := kept _ old isOld
  exact ⟨new, isNew, same.trans sameDigest⟩

theorem Served.of_installed {before after : SlaveLifecycle} (served : Served before)
    (same : after.installed = before.installed) : Served after := by
  intro entry member
  rw [(Prod.mk.inj same).2] at member
  exact ⟨(served entry member).1, (served entry member).2.kept (.of_installed same)⟩

/-- The state of a Slave after an activation has been set. -/
theorem Kept.set {before now : SlaveLifecycle} {key : String}
    {activation : CapabilityPackageActivation}
    {cache : List (String × CapabilityPackageVersion)}
    (installed : now.installed = (setKey before.slave.activations key activation, cache))
    (same : ∀ old, before.activation? key = some old →
      lower activation.packageDigest = lower old.packageDigest) : Kept before now := by
  intro wanted old isOld
  have isNow : now.activation? wanted =
      if wanted = key then some activation else before.activation? wanted := by
    unfold SlaveLifecycle.activation?
    rw [(Prod.mk.inj installed).1]
    exact lookup_setKey _ _ _ _
  rw [isNow]
  split
  · rename_i isKey
    rw [isKey] at isOld
    exact ⟨activation, rfl, same old isOld⟩
  · exact ⟨old, isOld, rfl⟩

/-- An activation that is set in place of one with the same digest. -/
theorem Served.replace {before now : SlaveLifecycle} {key : String}
    {activation : CapabilityPackageActivation} (served : Served before)
    (installed : now.installed =
      (setKey before.slave.activations key activation, before.slave.packageCache))
    (same : ∀ old, before.activation? key = some old →
      lower activation.packageDigest = lower old.packageDigest) :
    Served now ∧ Kept before now := by
  have kept := Kept.set installed same
  refine ⟨fun entry member => ?_, kept⟩
  rw [(Prod.mk.inj installed).2] at member
  exact ⟨(served entry member).1, (served entry member).2.kept kept⟩

theorem RestatesOnly.served {before now : SlaveLifecycle} (restates : RestatesOnly before now)
    (served : Served before) : Served now ∧ Kept before now := by
  have kept : Kept before now := by
    intro key old isOld
    obtain ⟨new, isNew, _, _, rfl⟩ := restates.kept key old isOld
    exact ⟨_, isNew, rfl⟩
  refine ⟨fun entry member => ?_, kept⟩
  rw [restates.cache] at member
  exact ⟨(served entry member).1, (served entry member).2.kept kept⟩

/-! ### Blocks of lifecycle calls -/

theorem mem_setKey {α : Type} {table : List (String × α)} {key : String} {value : α}
    {entry : String × α} (member : entry ∈ setKey table key value) :
    entry = (key, value) ∨ entry ∈ table := by
  unfold setKey Keyed.put at member
  split at member
  · obtain ⟨other, isOther, same⟩ := List.mem_map.1 member
    split at same
    · exact Or.inl same.symm
    · exact Or.inr (same ▸ isOther)
  · rcases List.mem_append.1 member with member | member
    · exact Or.inr member
    · exact Or.inl (List.mem_singleton.1 member)

section Lifecycle

variable {env : Env} {settings : SlaveSettings} {call : LifecycleCall}
  {before now : SlaveLifecycle} {package : CapabilityPackageVersion}
  {activation : CapabilityPackageActivation} {demand : Demand}

theorem revalidate_ok {given : CapabilityPackageVersion}
    (valid : RunOp.revalidate env given = .ok package) :
    env.packageDigest given = .ok package.packageDigest ∧
      package = { given with packageDigest := package.packageDigest } := by
  unfold RunOp.revalidate at valid
  cases isDigest : env.packageDigest given with
  | ok digest =>
      rw [isDigest] at valid
      cases valid
      exact ⟨rfl, rfl⟩
  | error error =>
      rw [isDigest] at valid
      dsimp only at valid
      split at valid
      · cases valid
      · cases valid

/-- A command accepts an activation of its package. -/
theorem accepted_digest {existing : Option CapabilityPackageActivation}
    (accepted : call.accepted settings package existing = some activation) :
    activation.packageDigest = (existing.map CapabilityPackageActivation.packageDigest).getD
      package.packageDigest := by
  cases call with
  | provision command profile given =>
      cases accepted
      cases existing with
      | none => rfl
      | some old => rfl
  | deprovision command given =>
      cases accepted
      cases existing with
      | none => rfl
      | some old => rfl
  | review key pending => cases accepted
  | inspect key => cases accepted
  | acknowledge reportId => cases accepted

theorem lifecycleRetry_digest {old : CapabilityPackageActivation} {desired : DesiredState}
    {digest : String} {revision : Nat} {idempotencyKey : String} {retry : Bool}
    (fence : lifecycleRetry (some old) desired digest revision idempotencyKey = .ok retry) :
    lower old.packageDigest = lower digest := by
  unfold lifecycleRetry at fence
  dsimp only at fence
  split at fence
  · cases fence
  · rename_i same
    exact not_not.1 same

/-- A command stores its package and its first activation. -/
theorem Served.accept {retry : Bool} (digests : env.ValidatesDigests) (served : Served before)
    (valid : ∃ given, RunOp.revalidate env given = .ok package)
    (fence : lifecycleRetry (before.activation? package.versionRef) demand.desiredState
      package.packageDigest demand.activationRevision demand.idempotencyKey = .ok retry)
    (accepted : call.accepted settings package (before.activation? package.versionRef) =
      some activation)
    (installed : now.installed = (setKey before.slave.activations package.versionRef activation,
      cachePackage before.slave.packageCache package package.versionRef)) :
    Served now ∧ Kept before now := by
  have isDigest := accepted_digest accepted
  have kept : Kept before now := by
    refine Kept.set installed fun old isOld => ?_
    rw [isDigest, isOld]
    rfl
  have backs : Backs package now := by
    refine ⟨activation, (hosts_installed installed).activation, ?_⟩
    rw [isDigest]
    cases isOld : before.activation? package.versionRef with
    | none => rfl
    | some old =>
        rw [isOld] at fence
        exact lifecycleRetry_digest fence
  obtain ⟨given, isValid⟩ := valid
  have present := digests.present given _ (revalidate_ok isValid).1
  refine ⟨fun entry member => ?_, kept⟩
  rw [(Prod.mk.inj installed).2, cachePackage_eq] at member
  rcases mem_setKey member with rfl | member
  · exact ⟨present, backs⟩
  · rcases mem_setKey member with rfl | member
    · exact ⟨present, backs⟩
    · exact ⟨(served entry member).1, (served entry member).2.kept kept⟩

/-- An activation that was there is there with the same digest. -/
theorem Since.kept_digest {key : String} {old current : CapabilityPackageActivation}
    (held : Since Kept (fun state => state.activation? key = some old) before)
    (isCurrent : before.activation? key = some current) :
    lower old.packageDigest = lower current.packageDigest := by
  obtain ⟨earlier, isOld, kept⟩ := held
  obtain ⟨new, isNew, same⟩ := kept key old isOld
  cases isNew.symm.trans isCurrent
  exact same.symm

theorem Since.mono {rel : SlaveLifecycle → SlaveLifecycle → Prop}
    {held weaker : SlaveLifecycle → Prop} {state : SlaveLifecycle} (since : Since rel held state)
    (weakens : ∀ earlier, held earlier → weaker earlier) : Since rel weaker state := by
  obtain ⟨earlier, holds, related⟩ := since
  exact ⟨earlier, weakens earlier holds, related⟩

/-- A block of a lifecycle call keeps the packages served. -/
theorem LifecycleBlock.served {query : LifecycleQuery} (digests : env.ValidatesDigests)
    (block : LifecycleBlock env settings Kept call before now query) (served : Served before) :
    Served now ∧ Kept before now := by
  cases block with
  | quiet same silent => exact ⟨served.of_installed same, .of_installed same⟩
  | accepts isDemand isKey valid fence accepted installed =>
      exact served.accept digests valid fence accepted installed
  | succeeds isDemand isKey held same installed =>
      refine served.replace installed fun current isCurrent => ?_
      rw [same.packageDigest]
      exact (held.mono fun _ hosts => hosts.activation).kept_digest isCurrent
  | repeats isDemand isKey held same => exact ⟨served.of_installed same, .of_installed same⟩
  | observes isInspect found running installed =>
      exact served.replace installed fun current isCurrent =>
        (found.mono fun _ both => both.1).kept_digest isCurrent

theorem LifecycleEnd.served {ν : Type}
    {answers : (query : LifecycleQuery) → ν → LifecycleAnswer query → ν → Prop}
    (ends : LifecycleEnd env Kept call answers before now) (served : Served before) :
    Served now ∧ Kept before now := by
  cases ends with
  | still same => exact ⟨served.of_installed same, .of_installed same⟩
  | drops isProvision isKey held same installed answered unrecordable =>
      refine served.replace installed fun current isCurrent => ?_
      rw [same.packageDigest]
      exact (held.mono fun _ hosts => hosts.activation).kept_digest isCurrent

/-! ### Activations that are ready and to be stopped -/

/-- An activation is ready while it is to be stopped. -/
def HalfStopped (key : String) (state : SlaveLifecycle) : Prop :=
  ∃ activation, state.activation? key = some activation ∧
    activation.desiredState = .stopped ∧ activation.activationState = .ready

/-- A deprovision is accepted for an activation that is ready. -/
def HaltsReady (call : LifecycleCall) (key : String) (before : SlaveLifecycle) : Prop :=
  ∃ command given old, call = .deprovision command given ∧ command.packageVersionRef = key ∧
    before.activation? key = some old ∧ old.activationState = .ready

theorem halfStopped_set {key wanted : String}
    {cache : List (String × CapabilityPackageVersion)}
    (installed : now.installed = (setKey before.slave.activations key activation, cache))
    (half : HalfStopped wanted now)
    (changed : now.activation? wanted ≠ before.activation? wanted) :
    wanted = key ∧ activation.desiredState = .stopped ∧ activation.activationState = .ready := by
  have isNow : now.activation? wanted =
      if wanted = key then some activation else before.activation? wanted := by
    unfold SlaveLifecycle.activation?
    rw [(Prod.mk.inj installed).1]
    exact lookup_setKey _ _ _ _
  obtain ⟨current, isCurrent, stopped, ready⟩ := half
  by_cases same : wanted = key
  · rw [isNow, if_pos same] at isCurrent
    cases isCurrent
    exact ⟨same, stopped, ready⟩
  · rw [if_neg same] at isNow
    exact absurd isNow changed

/-- Only a deprovision that is accepted leaves a ready activation to be stopped. -/
theorem LifecycleBlock.halts {query : LifecycleQuery} {key : String}
    (block : LifecycleBlock env settings Kept call before now query) (half : HalfStopped key now)
    (changed : now.activation? key ≠ before.activation? key) : HaltsReady call key before := by
  cases block with
  | quiet same silent =>
      exact absurd (congrFun (SlaveLifecycle.activation?_of_installed same) key) changed
  | @accepts demand package activation retry isDemand isKey valid fence accepted installed =>
      obtain ⟨rfl, stopped, ready⟩ := halfStopped_set installed half changed
      cases call with
      | provision command profile given =>
          cases accepted
          cases stopped
      | deprovision command given =>
          cases isDemand
          cases accepted
          cases isOld : before.activation? package.versionRef with
          | none =>
              rw [isOld] at ready
              cases ready
          | some old =>
              rw [isOld] at ready
              exact ⟨command, given, old, rfl, isKey, isOld, ready⟩
      | review key pending => cases accepted
      | inspect key => cases accepted
      | acknowledge reportId => cases accepted
  | succeeds isDemand isKey held same installed =>
      obtain ⟨_, stopped, ready⟩ := halfStopped_set installed half changed
      cases (same.stops stopped).symm.trans ready
  | repeats isDemand isKey held same =>
      exact absurd (congrFun (SlaveLifecycle.activation?_of_installed same) key) changed
  | observes isInspect found running installed =>
      obtain ⟨_, stopped, _⟩ := halfStopped_set installed half changed
      cases running.symm.trans stopped

theorem LifecycleEnd.calm {ν : Type} {key : String}
    {answers : (query : LifecycleQuery) → ν → LifecycleAnswer query → ν → Prop}
    (ends : LifecycleEnd env Kept call answers before now) (half : HalfStopped key now) :
    now.activation? key = before.activation? key := by
  by_contra changed
  cases ends with
  | still same =>
      exact changed (congrFun (SlaveLifecycle.activation?_of_installed same) key)
  | drops isProvision isKey held same installed answered unrecordable =>
      obtain ⟨_, stopped, ready⟩ := halfStopped_set installed half changed
      cases (same.stops stopped).symm.trans ready

end Lifecycle

/-! ### Blocks of `run` -/

def RunQuery.isInvoke : RunQuery → Bool
  | .invokePlugin _ _ _ _ _ => true
  | _ => false

/-- The state of `run` as the one of a Slave. -/
def SlaveState.whole (state : SlaveState) : SlaveLifecycle := { slave := state }

/-- An invocation is for an activation of the package that is ready, and for one of its exports. -/
structure Admitted (state : SlaveState) (package : CapabilityPackageVersion)
    (exported : CapabilityExport) (activation : CapabilityPackageActivation) : Prop where
  current : state.activations.lookup package.versionRef = some activation
  ready : activation.activationState = .ready
  digest : lower activation.packageDigest = lower package.packageDigest
  exported : exported ∈ package.capabilityExports

/-- What `run` has done before it awaits a query. -/
structure RunBlock (before now : SlaveState) (query : RunQuery) : Prop where
  same : now.installed = before.installed
  admits : ∀ package exported payload activation attemptId,
    query = .invokePlugin package exported payload activation attemptId →
      Admitted now package exported activation

/-- A program of `run` that invokes no plugin. -/
def Spares {α : Type} (program : RunOp α) : Prop :=
  program.Keeps SlaveState.installed fun query => query.isInvoke = false

section Run

variable {ν : Type} {env : Env}
  {answers : (query : RunQuery) → ν → RunAnswer query → ν → Prop}
  {rely : SlaveState × ν → SlaveState × ν → Prop}
  {opening : Opening SlaveState ν RunAnswer} {now : SlaveState × ν}
  {package : CapabilityPackageVersion} {exported : CapabilityExport}

theorem runWrite_installed (update : RunWrite) (state : SlaveState) :
    (apply update state).installed = state.installed := by
  cases update with
  | takeUuid => rfl
  | remember attemptId result => rfl

theorem spares_of_keeps {α τ : Type} {view : SlaveState → τ} {asks : RunQuery → Prop}
    {program : RunOp α} (keeps : program.Keeps view asks)
    (spared : ∀ query, asks query → query.isInvoke = false) : Spares program := by
  induction program with
  | ret value => trivial
  | raise error => trivial
  | read next ih => exact fun state => ih state (keeps state)
  | write update next ih => exact ⟨runWrite_installed update, ih keeps.2⟩
  | await query next ih => exact ⟨spared query keeps.1, fun answer => ih answer (keeps.2 answer)⟩

theorem isInvoke_of_judges {query : RunQuery} (judges : query.judges = true) :
    query.isInvoke = false := by
  cases query with
  | invokePlugin package exported payload activation attemptId => cases judges
  | _ => rfl

theorem Consults.spares {α : Type} {program : RunOp α} (consults : Consults program) :
    Spares program :=
  spares_of_keeps consults fun _ isContent =>
    isInvoke_of_judges (RunQuery.judges_of_isContent isContent)

theorem Spares.bind {α β : Type} {program : RunOp α} {rest : α → RunOp β}
    (first : Spares program) (second : ∀ value, Spares (rest value)) :
    Spares (program.bind rest) :=
  Prog.Keeps.bind first second

theorem mem_of_findCachedPackage {state : SlaveState} {ref : String} {digest : Option String}
    (found : state.findCachedPackage ref digest = some package) :
    ∃ entry ∈ state.packageCache, entry.2 = package := by
  have listed : ∀ requested, SlaveState.findCachedPackage.listed state ref requested =
      some package → ∃ entry ∈ state.packageCache, entry.2 = package := by
    intro requested isListed
    exact List.mem_map.1 (List.mem_of_find?_eq_some isListed)
  have looked : ∀ key, state.packageCache.lookup key = some package →
      ∃ entry ∈ state.packageCache, entry.2 = package := by
    intro key isLooked
    rw [lookup_eq_find?] at isLooked
    obtain ⟨entry, isEntry, same⟩ := Option.map_eq_some_iff.1 isLooked
    exact ⟨entry, Keyed.mem_of_find? isEntry, same⟩
  unfold SlaveState.findCachedPackage at found
  dsimp only at found
  split at found
  · exact looked _ found
  · split at found
    · rename_i exact' isExact
      split at found
      · cases found
        exact looked _ isExact
      · exact listed _ found
    · exact listed _ found

theorem mem_of_selectedExport {binding : Option ComputeBinding}
    (isExport : selectedExport package binding = .ok exported) :
    exported ∈ package.capabilityExports := by
  unfold selectedExport at isExport
  cases binding with
  | none => cases isExport
  | some binding =>
      dsimp only at isExport
      cases found : package.exportFor binding.capabilityDescriptorRef with
      | error error =>
          rw [found] at isExport
          cases isExport
      | ok only =>
          rw [found] at isExport
          cases isExport
          unfold CapabilityPackageVersion.exportFor at found
          split at found
          · cases found
          · split at found
            · rename_i only' isOnly
              cases found
              have member : exported ∈ [exported] := List.mem_singleton.2 rfl
              rw [← isOnly] at member
              exact List.mem_of_mem_filter member
            · cases found

theorem conclude_spares (attemptId : String) (executionEpoch : Int)
    (closure : Option TaskClosure) (exported : CapabilityExport) (result : ExecutionResult) :
    Spares (RunOp.conclude env attemptId executionEpoch closure exported result) := by
  refine Spares.bind (spares_of_keeps (validateTerminalResult_judges _ _ _ _ _)
    fun _ => isInvoke_of_judges) fun result => ?_
  refine Spares.bind (.ofExcept _) fun content => ?_
  refine Spares.bind ⟨rfl, fun answer => .ofExcept _⟩ fun _ => ?_
  refine Spares.bind ⟨fun _ => rfl, trivial⟩ fun _ => ?_
  exact Spares.bind ⟨rfl, fun answer => .ofExcept _⟩ fun _ => trivial

theorem invokeExecutor_spares (payload : Dict) :
    Spares (RunOp.invokeExecutor env package payload) := by
  unfold RunOp.invokeExecutor
  dsimp only
  cases packageBodyRef env package "program_content_ref" with
  | error error => trivial
  | ok programRef =>
      change Spares ((RunOp.contentGetExpected env programRef).bind _)
      refine Spares.bind (contentGetExpected_consults programRef).spares fun program => ?_
      refine Spares.bind (.guard _ _) fun _ => ?_
      refine Spares.bind ⟨rfl, fun answer => .ofExcept _⟩ fun value => ?_
      exact Spares.bind (.ofExcept _) fun result => trivial

variable (relies : ∀ now later, rely now later → Kept now.1.whole later.1.whole)

include relies

/-- A program that invokes no plugin, while the package keeps its activation. -/
theorem Spares.secure {α : Type} {program : RunOp α} (spares : Spares program)
    (same : now.1.installed = opening.before.1.installed) (backs : Backs package now.1.whole)
    {post : Opening SlaveState ν RunAnswer → SlaveState × ν → Except Exc α → Prop}
    (holds : ∀ opening now result, now.1.installed = opening.before.1.installed →
      Backs package now.1.whole → post opening now result) :
    program.Secure answers rely
      (fun opening now query => RunBlock opening.before.1 now.1 query) opening now post := by
  induction program generalizing opening now with
  | ret value => exact holds _ _ _ same backs
  | raise error => exact holds _ _ _ same backs
  | read next ih => exact ih _ (spares _) same backs
  | write update next ih =>
      have kept : Kept now.1.whole (SlaveState.whole (apply update now.1)) :=
        .of_installed (spares.1 now.1)
      exact ih spares.2 ((spares.1 now.1).trans same) (backs.kept kept)
  | await query next ih =>
      refine ⟨⟨same, fun package exported payload activation attemptId invokes => ?_⟩,
        fun later relied answer world answered => ?_⟩
      · have spared := spares.1
        rw [invokes] at spared
        cases spared
      · exact ih answer (spares.2 answer) rfl (backs.kept (relies now later relied))

theorem invokePlugin_admits {payload : Dict} {attemptId : String}
    (isExport : exported ∈ package.capabilityExports)
    (same : now.1.installed = opening.before.1.installed) (backs : Backs package now.1.whole)
    {post : Opening SlaveState ν RunAnswer → SlaveState × ν → Except Exc ExecutionResult → Prop}
    (holds : ∀ opening now result, now.1.installed = opening.before.1.installed →
      Backs package now.1.whole → post opening now result) :
    (RunOp.invokePlugin env package exported payload attemptId).Secure answers rely
      (fun opening now query => RunBlock opening.before.1 now.1 query) opening now post := by
  unfold RunOp.invokePlugin
  refine Prog.Secure.get ?_
  cases isCurrent : now.1.activations.lookup package.versionRef with
  | none => exact holds _ _ _ same backs
  | some current =>
      dsimp only
      split
      · exact holds _ _ _ same backs
      · rename_i ready
        refine ⟨⟨same, fun _ _ _ _ _ invokes => ?_⟩, fun later relied answer world answered => ?_⟩
        · cases invokes
          obtain ⟨activation, isActivation, digest⟩ := backs
          cases isActivation.symm.trans isCurrent
          exact ⟨isCurrent, not_not.1 ready, digest, isExport⟩
        · have backs' : Backs package later.1.whole := backs.kept (relies now later relied)
          cases answer with
          | error error =>
              dsimp only
              split
              · exact holds _ _ _ rfl backs'
              · exact holds _ _ _ rfl backs'
          | ok response => exact .ofExcept (holds _ _ _ rfl backs')

theorem execute_admits {attemptId operation : String} {payload : Dict}
    {closure : Option TaskClosure} {executionEpoch : Int}
    (isExport : exported ∈ package.capabilityExports)
    (same : now.1.installed = opening.before.1.installed) (backs : Backs package now.1.whole) :
    (RunOp.execute env attemptId operation payload closure executionEpoch package
      exported).Secure answers rely
      (fun opening now query => RunBlock opening.before.1 now.1 query) opening now
      fun opening now _ => now.1.installed = opening.before.1.installed := by
  rw [RunOp.execute_eq]
  refine Prog.Secure.bind ((admissionPayload_consults _ _ _ _).spares.secure relies same backs
    fun opening now result same backs => ?_)
  cases result with
  | error error => exact same
  | ok payload =>
      refine Prog.Secure.bind ((validateInputPayload_consults _ _).spares.secure relies same backs
        fun opening now result same backs => ?_)
      cases result with
      | error error => exact same
      | ok checked =>
          have concludes : ∀ opening now (value : ExecutionResult),
              now.1.installed = opening.before.1.installed → Backs package now.1.whole →
              (RunOp.conclude env attemptId executionEpoch closure exported value).Secure
                answers rely
                (fun opening now query => RunBlock opening.before.1 now.1 query) opening now
                fun opening now _ => now.1.installed = opening.before.1.installed := by
            intro opening now value same backs
            exact (conclude_spares _ _ _ _ _).secure relies same backs fun _ _ _ same _ => same
          refine Prog.Secure.bind ?_
          unfold RunOp.perform
          split
          · refine invokePlugin_admits relies isExport same backs
              fun opening now result same backs => ?_
            cases result with
            | error error => exact same
            | ok value => exact concludes opening now value same backs
          · refine (invokeExecutor_spares payload).secure relies same backs
              fun opening now result same backs => ?_
            cases result with
            | error error => exact same
            | ok value => exact concludes opening now value same backs

omit relies in
/-- The package that `findPackage` returns is in the cache. -/
theorem findPackage_admits {operation : String} {binding : Option ComputeBinding}
    {post : Opening SlaveState ν RunAnswer → SlaveState × ν →
      Except Exc (Option CapabilityPackageVersion) → Prop}
    (holds : ∀ result, (∀ package, result = .ok (some package) →
      ∃ entry ∈ now.1.packageCache, entry.2 = package) → post opening now result) :
    (RunOp.findPackage operation binding).Secure answers rely
      (fun opening now query => RunBlock opening.before.1 now.1 query) opening now post := by
  unfold RunOp.findPackage
  dsimp only [Prog.Secure]
  cases binding.bind fun binding => binding.capabilityPackageRef with
  | none =>
      dsimp only
      split
      · exact holds (.ok none) fun package impossible => by cases impossible
      · exact holds (.error _) fun package impossible => by cases impossible
  | some ref =>
      dsimp only
      cases found : now.1.findCachedPackage ref.resourceId ref.digest with
      | none => exact holds (.error _) fun package impossible => by cases impossible
      | some package =>
          refine holds (.ok (some package)) fun other same => ?_
          cases same
          exact mem_of_findCachedPackage found

/-- All blocks of `run` are blocks of it. -/
theorem run_admits (digests : env.ValidatesDigests) (slaveId : String) (args : RunArgs)
    (served : Served now.1.whole) :
    (args.prog env slaveId).Secure answers rely
      (fun opening now query => RunBlock opening.before.1 now.1 query) ⟨none, now⟩ now
      fun opening now _ => now.1.installed = opening.before.1.installed := by
  change Prog.Secure answers rely _ ((Prog.guard _ _).bind _) ⟨none, now⟩ now _
  refine Prog.Secure.bind (.guard (fun _ => ?_) fun _ => rfl)
  refine Prog.Secure.bind (findPackage_admits fun result isCached => ?_)
  cases result with
  | error error => rfl
  | ok cached =>
      refine Prog.Secure.bind (.ofExcept ?_)
      cases admitClosure slaveId args.operation args.closure args.binding with
      | error error => rfl
      | ok admitted =>
          cases cached with
          | none => rfl
          | some cached =>
              obtain ⟨entry, member, isEntry⟩ := isCached cached rfl
              obtain ⟨present, activation, isActivation, digest⟩ := served entry member
              refine Prog.Secure.bind (.ofExcept ?_)
              cases valid : RunOp.revalidate env cached with
              | error error => rfl
              | ok package =>
                  refine Prog.Secure.bind (.ofExcept ?_)
                  cases isExport : selectedExport package args.binding with
                  | error error => rfl
                  | ok exported =>
                      have backs : Backs package now.1.whole := by
                        obtain ⟨isDigest, isPackage⟩ := revalidate_ok valid
                        rw [isEntry] at present isActivation digest
                        refine ⟨activation, ?_, ?_⟩
                        · rw [isPackage]
                          exact isActivation
                        · rw [digest]
                          refine (digests.declared cached _ isDigest fun empty => ?_).symm
                          rw [empty] at present
                          exact present rfl
                      dsimp only
                      cases now.1.attempts.lookup args.attemptId with
                      | some result => rfl
                      | none =>
                          refine ⟨⟨rfl, fun _ _ _ _ _ impossible => by cases impossible⟩,
                            fun later relied answer world answered => ?_⟩
                          have backs' : Backs package later.1.whole :=
                            backs.kept (relies now later relied)
                          cases answer with
                          | error error => rfl
                          | ok stored =>
                              cases stored with
                              | some result => rfl
                              | none =>
                                  exact execute_admits relies (mem_of_selectedExport isExport) rfl
                                    backs'

end Run

/-! ### Calls at the same time -/

/-- Calls of a Slave in any interleaving.  Stores and runtime may answer anything, and the Slave may
change outside its packages and activations. -/
def slaveSetting (env : Env) (host : SlaveHost) :
    Setting SlaveLifecycle Exc LifecycleWrite ActivationAnswer Unit SlaveCall Unit where
  code := SlaveCall.prog env host
  overlap _ _ := True
  moves _ _ _ _ := False
  answers _ _ _ _ _ := True
  drifts before after := after.1.installed = before.1.installed
  restarts _ _ := False

abbrev SlaveBeat := Beat SlaveLifecycle Exc ActivationAnswer Unit SlaveCall Unit

/-- What a call has done before it awaits a query or ends. -/
def SlaveBlock (env : Env) (settings : SlaveSettings) (before now : SlaveLifecycle) :
    SlaveCall → Stop Exc ActivationQuery Unit → Prop
  | .lifecycle call, .awaits (.lifecycle query) =>
      LifecycleBlock env settings Kept call before now query
  | .lifecycle _, .awaits _ => False
  | .lifecycle call, _ => LifecycleEnd env Kept call (fun _ (_ : Unit) _ _ => True) before now
  | .reconcile, .awaits query => RestatesOnly before now ∧ query.isReconciling = true
  | .reconcile, _ => RestatesOnly before now
  | .run _, .awaits (.lifecycle (.content query)) => RunBlock before.slave now.slave query
  | .run _, .awaits _ => False
  | .run _, _ => now.installed = before.installed

section Calls

variable {env : Env} {settings : SlaveSettings} {before now : SlaveLifecycle} {label : SlaveCall}
  {stop : Stop Exc ActivationQuery Unit}

theorem SlaveBlock.served (digests : env.ValidatesDigests)
    (block : SlaveBlock env settings before now label stop) (served : Served before) :
    Served now ∧ Kept before now := by
  cases label with
  | lifecycle call =>
      cases stop with
      | awaits query =>
          cases query with
          | lifecycle query => exact LifecycleBlock.served digests block served
          | replicaRow => exact block.elim
          | reconcile entries => exact block.elim
      | returns value => exact LifecycleEnd.served block served
      | raises error => exact LifecycleEnd.served block served
  | reconcile =>
      cases stop with
      | awaits query => exact block.1.served served
      | returns value => exact RestatesOnly.served block served
      | raises error => exact RestatesOnly.served block served
  | run args =>
      have quiet (same : now.installed = before.installed) : Served now ∧ Kept before now :=
        ⟨served.of_installed same, .of_installed same⟩
      cases stop with
      | awaits query =>
          cases query with
          | lifecycle query =>
              cases query with
              | content query => exact quiet block.same
              | _ => exact block.elim
          | replicaRow => exact block.elim
          | reconcile entries => exact block.elim
      | returns value => exact quiet block
      | raises error => exact quiet block

/-- The calls that may leave a ready activation to be stopped. -/
def Halts (label : SlaveCall) (key : String) (before : SlaveLifecycle) : Prop :=
  (∃ call, label = .lifecycle call ∧ HaltsReady call key before) ∨ label = .reconcile

theorem SlaveBlock.halts {key : String} (block : SlaveBlock env settings before now label stop)
    (half : HalfStopped key now) (changed : now.activation? key ≠ before.activation? key) :
    Halts label key before := by
  cases label with
  | lifecycle call =>
      refine Or.inl ⟨call, rfl, ?_⟩
      cases stop with
      | awaits query =>
          cases query with
          | lifecycle query => exact LifecycleBlock.halts block half changed
          | replicaRow => exact block.elim
          | reconcile entries => exact block.elim
      | returns value => exact absurd (LifecycleEnd.calm block half) changed
      | raises error => exact absurd (LifecycleEnd.calm block half) changed
  | reconcile => exact Or.inr rfl
  | run args =>
      have quiet (same : now.installed = before.installed) : Halts (.run args) key before :=
        absurd (congrFun (SlaveLifecycle.activation?_of_installed same) key) changed
      cases stop with
      | awaits query =>
          cases query with
          | lifecycle query =>
              cases query with
              | content query => exact quiet block.same
              | _ => exact block.elim
          | replicaRow => exact block.elim
          | reconcile entries => exact block.elim
      | returns value => exact quiet block
      | raises error => exact quiet block

/-- The await of a plugin invocation. -/
def invocation (package : CapabilityPackageVersion) (exported : CapabilityExport)
    (payload : Dict) (activation : CapabilityPackageActivation) (attemptId : String) :
    Stop Exc ActivationQuery Unit :=
  .awaits (.lifecycle (.content (.invokePlugin package exported payload activation attemptId)))

theorem SlaveBlock.admits {package : CapabilityPackageVersion} {exported : CapabilityExport}
    {payload : Dict} {activation : CapabilityPackageActivation} {attemptId : String}
    (block : SlaveBlock env settings before now label
      (invocation package exported payload activation attemptId)) :
    Admitted now.slave package exported activation ∧ now.installed = before.installed := by
  cases label with
  | lifecycle call =>
      change LifecycleBlock env settings Kept call before now _ at block
      cases block with
      | quiet same silent => cases silent
  | reconcile => cases block.2
  | run args => exact ⟨block.admits _ _ _ _ _ rfl, block.same⟩

end Calls

section Contracts

variable {env : Env} {host : SlaveHost} {point : SlaveLifecycle × Unit}
  {rely : SlaveLifecycle × Unit → SlaveLifecycle × Unit → Prop}

/-- All blocks of a call of the Slave are blocks of it. -/
def Guarded (env : Env) (host : SlaveHost)
    (rely : SlaveLifecycle × Unit → SlaveLifecycle × Unit → Prop) (label : SlaveCall)
    (point : SlaveLifecycle × Unit) : Prop :=
  (label.prog env host).Secure (fun _ _ _ _ => True) rely
    (fun opening now query =>
      SlaveBlock env host.toSlaveSettings opening.before.1 now.1 label (.awaits query))
    ⟨none, point⟩ point fun opening now result =>
      SlaveBlock env host.toSlaveSettings opening.before.1 now.1 label (.ofResult result)

theorem lifecycle_guarded (call : LifecycleCall)
    (relies : ∀ now later, rely now later → Kept now.1 later.1) :
    Guarded env host rely (.lifecycle call) point := by
  have blocks : Blocks env host.toSlaveSettings Kept call (fun _ _ _ _ => True) rely
      (call.prog env host.toSlaveSettings) ⟨none, point⟩ point
      (Ends env Kept call fun _ (_ : Unit) _ _ => True) :=
    lifecycleCall_blocks kept_interferes relies rfl
  refine Prog.Secure.mono (secure_ofLifecycle (fun before now query =>
    SlaveBlock env host.toSlaveSettings before.1 now.1 (.lifecycle call) (.awaits query))
    (fun before now _ => LifecycleEnd env Kept call (fun _ (_ : Unit) _ _ => True) before.1 now.1)
    ⟨none, point⟩ rfl blocks) fun opening now result ends => ?_
  cases result with
  | ok value => exact ends
  | error error => exact ends

theorem reconcile_guarded : Guarded env host rely .reconcile point := by
  refine Prog.Secure.bind (Prog.Secure.mono
    (reconcileActivations_reconciles ⟨none, point⟩ point (.refl point.1))
    fun opening now result restates => ?_)
  cases result with
  | ok value => exact restates
  | error error => exact restates

/-- A block of `run` among the calls of the lifecycle. -/
def RunsContent (before now : SlaveState) : LifecycleQuery → Prop
  | .content query => RunBlock before now query
  | _ => False

theorem run_guarded (args : RunArgs) (digests : env.ValidatesDigests)
    (relies : ∀ now later, rely now later → Kept now.1 later.1) (served : Served point.1) :
    Guarded env host rely (.run args) point := by
  have admits : ((args.prog env host.slaveId).map fun _ => ()).Secure
      (fun _ (_ : Unit) _ _ => True) (fun now later => Kept now.1.whole later.1.whole)
      (fun opening now query => RunBlock opening.before.1 now.1 query)
      ⟨none, runPoint point⟩ (runPoint point)
      fun opening now _ => now.1.installed = opening.before.1.installed := by
    refine Prog.Secure.bind (Prog.Secure.mono
      (run_admits (fun now later kept => kept) digests host.slaveId args served)
      fun opening now result same => ?_)
    cases result with
    | ok value => exact same
    | error error => exact same
  have lifted : (LifecycleOp.ofRun ((args.prog env host.slaveId).map fun _ => ())).Secure
      (fun _ (_ : Unit) _ _ => True) rely
      (fun opening now query => RunsContent opening.before.1.slave now.1.slave query)
      ⟨none, point⟩ point
      fun opening now _ => now.1.installed = opening.before.1.installed :=
    secure_ofRun relies (fun before now query => RunsContent before.1 now.1 query)
      (fun before now _ => now.1.installed = before.1.installed) ⟨none, runPoint point⟩ rfl admits
  refine Prog.Secure.mono (secure_ofLifecycle (fun before now query =>
    SlaveBlock env host.toSlaveSettings before.1 now.1 (.run args) (.awaits query))
    (fun before now _ => now.1.installed = before.1.installed) ⟨none, point⟩ rfl
    (lifted.guarantees fun opening now query block => ?_)) fun opening now result same => ?_
  · cases query with
    | content query => exact block
    | _ => exact block.elim
  · cases result with
    | ok value => exact same
    | error error => exact same

end Contracts

/-- What the calls of a Slave guarantee to each other. -/
def slaveContract (env : Env) (host : SlaveHost) (digests : env.ValidatesDigests) :
    Contract (slaveSetting env host) where
  inv point := Served point.1
  rely _ before after := Kept before.1 after.1
  guar label opening now stop :=
    SlaveBlock env host.toSlaveSettings opening.before.1 now.1 label stop
  reflexive _ point := .of_installed rfl
  transitive _ _ _ _ earlier later := earlier.trans later
  secure label ticket point served := by
    cases label with
    | lifecycle call => exact lifecycle_guarded call fun now later relied => relied.2
    | reconcile => exact reconcile_guarded
    | run args => exact run_guarded args digests (fun now later relied => relied.2) served
  keeps _ _ _ _ block served := (block.served digests served).1
  respects _ _ _ _ _ _ block served := (block.served digests served).2
  moves _ _ _ _ _ moved _ := moved.elim
  drifts _ _ drifted served :=
    ⟨served.of_installed drifted, fun _ => .of_installed drifted⟩
  restarts _ _ restarted _ := restarted.elim

section Runs

variable {env : Env} {host : SlaveHost}
  {start system : System SlaveLifecycle Exc LifecycleWrite ActivationAnswer Unit SlaveCall Unit}
  {beats : List SlaveBeat}

/-- A beat that leaves an activation alone. -/
def LeavesAlone (key : String) (beat : SlaveBeat) : Prop :=
  beat.after.1.activation? key = beat.opening.before.1.activation? key

/-- The last beat that has changed the activation of a coordinate has left it ready and to be
stopped: a deprovision that was accepted while it was ready, or a reconciliation. -/
def CutShort (key : String) (start : SlaveLifecycle) (beats : List SlaveBeat) : Prop :=
  (HalfStopped key start ∧ ∀ beat ∈ beats, LeavesAlone key beat) ∨
    ∃ earlier beat later, beats = earlier ++ beat :: later ∧
      Halts beat.label key beat.opening.before.1 ∧ HalfStopped key beat.after.1 ∧
      ∀ other ∈ later, LeavesAlone key other

/-- The activation of a package is to run and is ready. -/
def Gated (package : CapabilityPackageVersion) (state : SlaveLifecycle) : Prop :=
  ∃ activation, state.activation? package.versionRef = some activation ∧
    lower activation.packageDigest = lower package.packageDigest ∧
    activation.desiredState = .running ∧ activation.activationState = .ready

/-- The operations of the package that the Slave finds for an activation are in its snapshot. -/
def SnapshotLists (key : String) (state : SlaveLifecycle) : Prop :=
  ∀ activation package, state.activation? key = some activation →
    state.slave.findCachedPackage activation.packageVersionRef (some activation.packageDigest) =
      some package → ∀ operation, package.Offers operation →
        operation ∈ state.slave.capabilitySnapshot

theorem Gated.listed {package : CapabilityPackageVersion} {state : SlaveLifecycle}
    (gated : Gated package state) : SnapshotLists package.versionRef state := by
  intro current serving isCurrent isServing operation offers
  obtain ⟨activation, isActivation, _, running, ready⟩ := gated
  cases isActivation.symm.trans isCurrent
  unfold SlaveLifecycle.activation? at isCurrent
  rw [lookup_eq_find?] at isCurrent
  obtain ⟨entry, isEntry, same⟩ := Option.map_eq_some_iff.1 isCurrent
  subst same
  exact mem_capabilitySnapshot.2
    (Or.inr ⟨entry, Keyed.mem_of_find? isEntry, running, ready, serving, isServing, offers⟩)

theorem HalfStopped.congr {key : String} {state after : SlaveLifecycle}
    (same : after.activation? key = state.activation? key) :
    HalfStopped key after ↔ HalfStopped key state := by
  unfold HalfStopped
  rw [same]

theorem cutShort_append {key : String} {start : SlaveLifecycle} {beat : SlaveBeat}
    (alone : LeavesAlone key beat) (cut : CutShort key start beats) :
    CutShort key start (beats ++ [beat]) := by
  have last : ∀ {rest : List SlaveBeat}, (∀ other ∈ rest, LeavesAlone key other) →
      ∀ other ∈ rest ++ [beat], LeavesAlone key other := by
    intro rest alones other member
    rcases List.mem_append.1 member with member | member
    · exact alones other member
    · rw [List.mem_singleton.1 member]
      exact alone
  rcases cut with ⟨half, alones⟩ | ⟨earlier, cause, later, rfl, halts, half, alones⟩
  · exact Or.inl ⟨half, last alones⟩
  · refine Or.inr ⟨earlier, cause, later ++ [beat], ?_, halts, half, last alones⟩
    rw [List.append_assoc, List.cons_append]

/-- An activation is ready and to be stopped after a beat exactly if it has been left so. -/
theorem halfStopped_beat {key : String} {start : SlaveLifecycle} {beat : SlaveBeat}
    (before : HalfStopped key beat.opening.before.1 ↔ CutShort key start beats)
    (block : SlaveBlock env host.toSlaveSettings beat.opening.before.1 beat.after.1 beat.label
      beat.stop) :
    HalfStopped key beat.after.1 ↔ CutShort key start (beats ++ [beat]) := by
  by_cases alone : LeavesAlone key beat
  · constructor
    · intro half
      exact cutShort_append alone (before.1 ((HalfStopped.congr alone).1 half))
    · rintro (⟨half, alones⟩ | ⟨earlier, cause, later, split, halts, half, alones⟩)
      · refine (HalfStopped.congr alone).2 (before.2 (Or.inl ⟨half, fun other member => ?_⟩))
        exact alones other (List.mem_append_left _ member)
      · rcases List.eq_nil_or_concat later with rfl | ⟨later', last, rfl⟩
        · obtain ⟨rfl, isLast⟩ := List.append_inj' split rfl
          cases isLast
          exact half
        · rw [List.concat_eq_append, ← List.cons_append, ← List.append_assoc] at split
          obtain ⟨rfl, -⟩ := List.append_inj' split rfl
          refine (HalfStopped.congr alone).2 (before.2 (Or.inr ⟨earlier, cause, later', rfl, halts,
            half, fun other member => ?_⟩))
          exact alones other (by simp [member])
  · constructor
    · intro half
      exact Or.inr ⟨beats, beat, [], rfl, block.halts half alone, half,
        fun other member => (List.not_mem_nil member).elim⟩
    · rintro (⟨half, alones⟩ | ⟨earlier, cause, later, split, halts, half, alones⟩)
      · exact absurd (alones beat (by simp)) alone
      · rcases List.eq_nil_or_concat later with rfl | ⟨later', last, rfl⟩
        · obtain ⟨rfl, isLast⟩ := List.append_inj' split rfl
          cases isLast
          exact half
        · rw [List.concat_eq_append, ← List.cons_append, ← List.append_assoc] at split
          obtain ⟨-, isLast⟩ := List.append_inj' split rfl
          cases isLast
          exact absurd (alones beat (by simp)) alone

theorem Admitted.gated_iff {state : SlaveLifecycle} {package : CapabilityPackageVersion}
    {exported : CapabilityExport} {activation : CapabilityPackageActivation}
    (admitted : Admitted state.slave package exported activation) :
    Gated package state ↔ ¬HalfStopped package.versionRef state := by
  constructor
  · rintro ⟨running, isRunning, _, isDesired, _⟩ ⟨stopped, isStopped, isHalted, _⟩
    cases isRunning.symm.trans isStopped
    cases isDesired.symm.trans isHalted
  · intro whole
    refine ⟨activation, admitted.current, admitted.digest, ?_, admitted.ready⟩
    cases desired : activation.desiredState with
    | running => rfl
    | stopped => exact absurd ⟨activation, admitted.current, desired, admitted.ready⟩ whole

/-- In every interleaving of the calls of a Slave, a plugin is invoked for an activation of the
coordinate and the digest of the package that is ready.  It is also to run, so that
`capability_snapshot` lists its operations, exactly if it has not been left to be stopped: by a
deprovision that was accepted while it was ready and has not stopped it, or by a reconciliation. -/
theorem invocations_gated (digests : env.ValidatesDigests) (idle : start.tasks = [])
    (served : Served start.point.1) (run : (slaveSetting env host).Run start beats system) :
    ∀ earlier beat later, beats = earlier ++ beat :: later →
      ∀ package exported payload activation attemptId,
        beat.stop = invocation package exported payload activation attemptId →
          Admitted beat.after.1.slave package exported activation ∧
          (Gated package beat.after.1 ↔ ¬CutShort package.versionRef start.point.1 earlier) ∧
          (Gated package beat.after.1 → SnapshotLists package.versionRef beat.after.1) := by
  have sound : (slaveContract env host digests).Sound start := by
    refine ⟨served, ?_, ?_⟩
    · rw [idle]
      exact fun task member => (List.not_mem_nil member).elim
    · rw [idle]
      exact List.Pairwise.nil
  refine (Contract.induct (fun beats system =>
    (∀ key, HalfStopped key system.point.1 ↔ CutShort key start.point.1 beats) ∧
    ∀ earlier beat later, beats = earlier ++ beat :: later →
      ∀ package exported payload activation attemptId,
        beat.stop = invocation package exported payload activation attemptId →
          Admitted beat.after.1.slave package exported activation ∧
          (Gated package beat.after.1 ↔ ¬CutShort package.versionRef start.point.1 earlier) ∧
          (Gated package beat.after.1 → SnapshotLists package.versionRef beat.after.1))
    sound ?_ ?_ ?_ run).1.2
  · refine ⟨fun key => ⟨fun half => Or.inl ⟨half, fun beat member =>
      (List.not_mem_nil member).elim⟩, ?_⟩, fun earlier beat later split => ?_⟩
    · rintro (⟨half, _⟩ | ⟨earlier, cause, later, split, _⟩)
      · exact half
      · cases List.append_eq_nil_iff.1 split.symm |>.2
    · cases List.append_eq_nil_iff.1 split.symm |>.2
  · intro beats system beat system' past before step block _
    rw [← step.before_eq] at past
    rw [← step.after_eq]
    refine ⟨fun key => halfStopped_beat (past.1 key) block, ?_⟩
    intro earlier last later split package exported payload activation attemptId invokes
    rcases List.eq_nil_or_concat later with rfl | ⟨later', final, rfl⟩
    · obtain ⟨rfl, isLast⟩ := List.append_inj' split rfl
      cases isLast
      have here : SlaveBlock env host.toSlaveSettings beat.opening.before.1 beat.after.1 beat.label
          (invocation package exported payload activation attemptId) := invokes ▸ block
      obtain ⟨admitted, same⟩ := here.admits
      refine ⟨admitted, ?_, Gated.listed⟩
      rw [admitted.gated_iff, ← past.1 package.versionRef]
      exact not_congr (HalfStopped.congr
        (congrFun (SlaveLifecycle.activation?_of_installed same) _))
    · rw [List.concat_eq_append, ← List.cons_append, ← List.append_assoc] at split
      obtain ⟨rfl, -⟩ := List.append_inj' split rfl
      exact past.2 earlier last later' rfl package exported payload activation attemptId invokes
  · intro beats system system' past _ silent
    cases silent with
    | move member pending moved => exact moved.elim
    | restart restarted => exact restarted.elim
    | drift drifted =>
        refine ⟨fun key => ?_, past.2⟩
        exact (HalfStopped.congr
          (congrFun (SlaveLifecycle.activation?_of_installed drifted) key)).trans (past.1 key)

end Runs

namespace GatingDemo

/-- Validation knows one digest. -/
def env : Env :=
  { LifecycleDemo.env with
    packageDigest := fun package =>
      if package.packageDigest = "" ∨ lower package.packageDigest = "digest" then .ok "digest"
      else .error (.valueError "package_digest_mismatch") }

theorem digests : env.ValidatesDigests := by
  constructor
  · intro package digest isDigest
    change (if _ then _ else _) = _ at isDigest
    split at isDigest
    · cases isDigest
      decide
    · cases isDigest
  · intro package digest isDigest declared
    change (if _ then _ else _) = _ at isDigest
    split at isDigest
    · rename_i known
      cases isDigest
      rw [known.resolve_left declared]
      decide
    · cases isDigest

def host : SlaveHost := { slaveId := "slave-a", workspaceId := "workspace" }

def start : System SlaveLifecycle Exc LifecycleWrite ActivationAnswer Unit SlaveCall Unit :=
  { point := ({ slave := AttemptDemo.slave }, ()) }

theorem served : Served start.point.1 := by
  intro entry member
  cases List.mem_singleton.1 member
  exact ⟨by decide, _, rfl, rfl⟩

def serve (_ : Nat) : (query : ActivationQuery) → Unit → ActivationAnswer query × Unit
  | .lifecycle query, _ => (LifecycleDemo.world "ready" [] true query, ())
  | .replicaRow, _ => (.ok [], ())
  | .reconcile _, _ => (.ok [], ())

def deprovision : SlaveCall := .lifecycle (LifecycleDemo.deprovisions 2)

/-- An operation is run. -/
def running : List (Choice SlaveCall) :=
  .start (.run AttemptDemo.args) :: List.replicate 2 (.answer 0)

/-- An operation is run while a deprovision has stored that its package is to be stopped. -/
def stopping : List (Choice SlaveCall) :=
  [.start deprovision, .start (.run AttemptDemo.args)] ++ List.replicate 2 (.answer 1)

def played (choices : List (Choice SlaveCall)) :=
  start.play (slaveSetting env host) (fun _ _ => true) serve choices

theorem played_run (choices : List (Choice SlaveCall)) :
    (slaveSetting env host).Run start (played choices).1 (played choices).2 :=
  System.run_of_play (fun _ _ _ => trivial) (fun _ _ _ => trivial) choices .nil

/-- The activation in memory for which a beat invokes a plugin. -/
def invoked (beat : SlaveBeat) : Option CapabilityPackageActivation :=
  match beat.stop with
  | .awaits (.lifecycle (.content (.invokePlugin package _ _ _ _))) =>
      beat.after.1.activation? package.versionRef
  | _ => none

theorem invoked_eq {beat : SlaveBeat} {activation : CapabilityPackageActivation}
    (isInvoked : invoked beat = some activation) :
    ∃ package exported payload activation' attemptId,
      beat.stop = invocation package exported payload activation' attemptId ∧
        beat.after.1.activation? package.versionRef = some activation := by
  unfold invoked at isInvoked
  split at isInvoked
  · rename_i package exported payload activation' attemptId isStop
    exact ⟨package, exported, payload, activation', attemptId, isStop, isInvoked⟩
  · cases isInvoked

/-- A beat of a schedule that invokes a plugin for an activation with a desired state. -/
theorem exists_invoked {choices : List (Choice SlaveCall)} {desired : DesiredState}
    (found : (played choices).1.any (fun beat => (invoked beat).any fun activation =>
      activation.desiredState = desired) = true) :
    ∃ beat ∈ (played choices).1, ∃ activation, invoked beat = some activation ∧
      activation.desiredState = desired := by
  obtain ⟨beat, member, isDesired⟩ := List.any_eq_true.1 found
  cases isInvoked : invoked beat with
  | none =>
      rw [isInvoked] at isDesired
      cases isDesired
  | some activation =>
      rw [isInvoked] at isDesired
      exact ⟨beat, member, activation, isInvoked, of_decide_eq_true isDesired⟩

end GatingDemo

/-- An operation that is run while its package is ready and to run. -/
theorem invocations_gated_running :
    ∃ beat ∈ (GatingDemo.played GatingDemo.running).1,
      ∃ package exported payload activation attemptId,
        beat.stop = invocation package exported payload activation attemptId ∧
          Gated package beat.after.1 ∧ Admitted beat.after.1.slave package exported activation := by
  have found : (GatingDemo.played GatingDemo.running).1.any (fun beat =>
      (GatingDemo.invoked beat).any fun activation =>
        activation.desiredState = .running) = true := by
    decide +kernel
  obtain ⟨beat, member, activation, isInvoked, running⟩ := GatingDemo.exists_invoked found
  obtain ⟨earlier, later, split⟩ := List.append_of_mem member
  obtain ⟨package, exported, payload, current, attemptId, invokes, isCurrent⟩ :=
    GatingDemo.invoked_eq isInvoked
  obtain ⟨admitted, -, -⟩ := invocations_gated GatingDemo.digests rfl GatingDemo.served
    (GatingDemo.played_run GatingDemo.running) earlier beat later split package exported payload
    current attemptId invokes
  refine ⟨beat, member, package, exported, payload, current, attemptId, invokes, ?_, admitted⟩
  refine admitted.gated_iff.2 fun half => ?_
  obtain ⟨other, isOther, stopped, -⟩ := half
  cases isCurrent.symm.trans isOther
  cases running.symm.trans stopped

/-- A plugin that is invoked for an activation that a deprovision in progress is to stop. -/
theorem stopping_package_invoked :
    ∃ beats system, (slaveSetting GatingDemo.env GatingDemo.host).Run GatingDemo.start beats
        system ∧
      ∃ beat ∈ beats, ∃ package exported payload activation attemptId,
        beat.stop = invocation package exported payload activation attemptId ∧
          ¬Gated package beat.after.1 := by
  refine ⟨_, _, GatingDemo.played_run GatingDemo.stopping, ?_⟩
  have found : (GatingDemo.played GatingDemo.stopping).1.any (fun beat =>
      (GatingDemo.invoked beat).any fun activation =>
        activation.desiredState = .stopped) = true := by
    decide +kernel
  obtain ⟨beat, member, activation, isInvoked, stopped⟩ := GatingDemo.exists_invoked found
  obtain ⟨package, exported, payload, current, attemptId, invokes, isCurrent⟩ :=
    GatingDemo.invoked_eq isInvoked
  refine ⟨beat, member, package, exported, payload, current, attemptId, invokes, ?_⟩
  rintro ⟨other, isOther, _, running, _⟩
  cases isCurrent.symm.trans isOther
  cases stopped.symm.trans running

end Loom
