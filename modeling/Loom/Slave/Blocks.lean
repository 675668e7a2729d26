import Loom.Coroutine.Concurrent
import Loom.Properties.SingleExecution
import Loom.Slave.Reconcile
import Mathlib.Data.List.Dedup

/-!
# What a lifecycle call does between two awaits

Between two awaits a lifecycle call of a Slave leaves its activations and packages alone, or it sets
one activation and then awaits `_persist_activation` of it.  A command derives the first activation
that it sets from the one in memory, and every later one from the one that it has set before.  An
inspection derives it from the one that it read before it asked the runtime.

What happens at other coordinates or without a lock is left to the relation `rel`, which holds
between the states before and after an await.
-/

namespace Loom

open Coroutine

/-! ### Packages and activations in memory -/

/-- The activations and the packages of a Slave. -/
def SlaveState.installed (state : SlaveState) :
    List (String × CapabilityPackageActivation) × List (String × CapabilityPackageVersion) :=
  (state.activations, state.packageCache)

def SlaveLifecycle.installed (state : SlaveLifecycle) :
    List (String × CapabilityPackageActivation) × List (String × CapabilityPackageVersion) :=
  state.slave.installed

/-- A coordinate has an activation, and the cache has the package for it under both of its keys. -/
structure SlaveLifecycle.Hosts (key : String) (package : CapabilityPackageVersion)
    (activation : CapabilityPackageActivation) (state : SlaveLifecycle) : Prop where
  activation : state.activation? key = some activation
  named : state.slave.packageCache.lookup key = some package
  digested : state.slave.packageCache.lookup (packageCacheKey key package.packageDigest) =
    some package

theorem packageCacheKey_ne (key digest : String) : packageCacheKey key digest ≠ key := by
  intro same
  have lengths := congrArg String.length same
  unfold packageCacheKey at lengths
  rw [String.length_append, String.length_append] at lengths
  have : "#digest:".length = 8 := rfl
  omega

theorem cachePackage_eq (cache : List (String × CapabilityPackageVersion))
    (package : CapabilityPackageVersion) :
    cachePackage cache package package.versionRef =
      setKey (setKey cache (packageCacheKey package.versionRef package.packageDigest) package)
        package.versionRef package := by
  unfold cachePackage
  rw [List.dedup_cons_of_mem (by simp), List.dedup_cons_of_notMem List.not_mem_nil, List.dedup_nil]
  rfl

theorem hosts_installed {state : SlaveLifecycle} {package : CapabilityPackageVersion}
    {activation : CapabilityPackageActivation} {rest : List (String × CapabilityPackageActivation)}
    {cache : List (String × CapabilityPackageVersion)}
    (installed : state.installed = (setKey rest package.versionRef activation,
      cachePackage cache package package.versionRef)) :
    state.Hosts package.versionRef package activation := by
  obtain ⟨isActivations, isCache⟩ := Prod.mk.inj installed
  constructor
  · unfold SlaveLifecycle.activation?
    rw [isActivations, lookup_setKey, if_pos rfl]
  · rw [isCache, cachePackage_eq, lookup_setKey, if_pos rfl]
  · rw [isCache, cachePackage_eq, lookup_setKey, if_neg (packageCacheKey_ne _ _), lookup_setKey,
      if_pos rfl]

namespace SlaveLifecycle

variable {state after : SlaveLifecycle} {key : String} {package : CapabilityPackageVersion}
  {activation new : CapabilityPackageActivation}

theorem activation?_of_installed (same : after.installed = state.installed) :
    after.activation? = state.activation? := by
  funext wanted
  unfold activation?
  rw [(Prod.mk.inj same).1]

theorem findCachedPackage_of_installed (same : after.installed = state.installed) :
    after.slave.findCachedPackage = state.slave.findCachedPackage := by
  funext ref digest
  unfold SlaveState.findCachedPackage SlaveState.findCachedPackage.listed
  rw [(Prod.mk.inj same).2]

theorem Hosts.of_installed (hosts : state.Hosts key package activation)
    (same : after.installed = state.installed) : after.Hosts key package activation := by
  refine ⟨?_, ?_, ?_⟩
  · rw [activation?_of_installed same]
    exact hosts.activation
  · rw [(Prod.mk.inj same).2]
    exact hosts.named
  · rw [(Prod.mk.inj same).2]
    exact hosts.digested

theorem Hosts.set (hosts : state.Hosts key package activation) :
    (apply (LifecycleWrite.setActivation key new) state).Hosts key package new := by
  refine ⟨?_, hosts.named, hosts.digested⟩
  rw [activation?_setActivation, if_pos rfl]

end SlaveLifecycle

/-! ### Blocks -/

/-- What other tasks may do during an await: at least nothing, and twice. -/
structure Interferes (rel : SlaveLifecycle → SlaveLifecycle → Prop) : Prop where
  quiet : ∀ before after : SlaveLifecycle, after.installed = before.installed → rel before after
  trans : ∀ first second third, rel first second → rel second third → rel first third

/-- Something held at an earlier point of the call. -/
def Since (rel : SlaveLifecycle → SlaveLifecycle → Prop) (held : SlaveLifecycle → Prop)
    (state : SlaveLifecycle) : Prop :=
  ∃ earlier, held earlier ∧ rel earlier state

/-- A query that neither persists an activation nor executes an operation. -/
def LifecycleQuery.isIdle : LifecycleQuery → Bool
  | .persist _ _ _ _ _ => false
  | .content query => query.isContent
  | _ => true

/-- The activation with which a command starts. -/
def LifecycleCall.accepted (settings : SlaveSettings) (package : CapabilityPackageVersion)
    (existing : Option CapabilityPackageActivation) :
    LifecycleCall → Option CapabilityPackageActivation
  | .provision command _ _ =>
      some (LifecycleOp.provisioningActivation settings command package existing)
  | .deprovision command _ =>
      some (LifecycleOp.stoppingActivation settings command package existing)
  | _ => none

/-- An activation takes the place of one of the same command. -/
structure Succeeds (old new : CapabilityPackageActivation) : Prop where
  packageVersionRef : new.packageVersionRef = old.packageVersionRef
  packageDigest : new.packageDigest = old.packageDigest
  targetSlave : new.targetSlave = old.targetSlave
  desiredState : new.desiredState = old.desiredState
  activationRevision : new.activationRevision = old.activationRevision
  lastIdempotencyKey : new.lastIdempotencyKey = old.lastIdempotencyKey
  stops : new.desiredState = .stopped → new.activationState = .stopped

/-- What a call has done before it awaits a query. -/
inductive LifecycleBlock (env : Env) (settings : SlaveSettings)
    (rel : SlaveLifecycle → SlaveLifecycle → Prop) (call : LifecycleCall)
    (before now : SlaveLifecycle) : LifecycleQuery → Prop where
  | quiet {query : LifecycleQuery} (same : now.installed = before.installed)
      (silent : query.isIdle = true) : LifecycleBlock env settings rel call before now query
  | accepts {demand : Demand} {package : CapabilityPackageVersion}
      {activation : CapabilityPackageActivation} {retry : Bool}
      (isDemand : call.demand? = some demand) (isKey : demand.key = package.versionRef)
      (valid : ∃ given, RunOp.revalidate env given = .ok package)
      (fence : lifecycleRetry (before.activation? package.versionRef) demand.desiredState
        package.packageDigest demand.activationRevision demand.idempotencyKey = .ok retry)
      (accepted : call.accepted settings package (before.activation? package.versionRef) =
        some activation)
      (installed : now.installed = (setKey before.slave.activations package.versionRef activation,
        cachePackage before.slave.packageCache package package.versionRef)) :
      LifecycleBlock env settings rel call before now (.persist package activation "" [] "")
  | succeeds {demand : Demand} {package : CapabilityPackageVersion}
      {old activation : CapabilityPackageActivation} {pluginId code : String} {handle : Dict}
      (isDemand : call.demand? = some demand) (isKey : demand.key = package.versionRef)
      (held : Since rel (SlaveLifecycle.Hosts package.versionRef package old) before)
      (same : Succeeds old activation)
      (installed : now.installed = (setKey before.slave.activations package.versionRef activation,
        before.slave.packageCache)) :
      LifecycleBlock env settings rel call before now
        (.persist package activation pluginId handle code)
  | repeats {demand : Demand} {package : CapabilityPackageVersion}
      {activation : CapabilityPackageActivation} {pluginId code : String} {handle : Dict}
      (isDemand : call.demand? = some demand) (isKey : demand.key = package.versionRef)
      (held : Since rel (SlaveLifecycle.Hosts package.versionRef package activation) before)
      (same : now.installed = before.installed) :
      LifecycleBlock env settings rel call before now
        (.persist package activation pluginId handle code)
  | observes {key : String} {package : CapabilityPackageVersion}
      {old : CapabilityPackageActivation} {health : HealthState} (isInspect : call = .inspect key)
      (found : Since rel (fun state => state.activation? key = some old ∧
        state.slave.findCachedPackage old.packageVersionRef (some old.packageDigest) =
          some package) before)
      (running : old.desiredState = .running)
      (installed : now.installed = (setKey before.slave.activations key
        { old with activationState := health.toActivation }, before.slave.packageCache)) :
      LifecycleBlock env settings rel call before now
        (.persist package { old with activationState := health.toActivation } "" [] "")

section Blocks

variable {ν : Type} {env : Env} {settings : SlaveSettings}
  {rel : SlaveLifecycle → SlaveLifecycle → Prop} {call : LifecycleCall}
  {answers : (query : LifecycleQuery) → ν → LifecycleAnswer query → ν → Prop}
  {rely : SlaveLifecycle × ν → SlaveLifecycle × ν → Prop}
  {held : SlaveLifecycle → Prop}

theorem Since.now (interferes : Interferes rel) {state : SlaveLifecycle} (holds : held state) :
    Since rel held state :=
  ⟨state, holds, interferes.quiet _ _ rfl⟩

theorem Since.later (interferes : Interferes rel) {before after : SlaveLifecycle}
    (since : Since rel held before) (related : rel before after) : Since rel held after := by
  obtain ⟨earlier, holds, relates⟩ := since
  exact ⟨earlier, holds, interferes.trans _ _ _ relates related⟩

/-- The block has left packages and activations alone. -/
def Still (opening : Opening SlaveLifecycle ν LifecycleAnswer) (now : SlaveLifecycle × ν) : Prop :=
  now.1.installed = opening.before.1.installed

/-- A program all of whose blocks are blocks of a call. -/
def Blocks {α : Type} (env : Env) (settings : SlaveSettings)
    (rel : SlaveLifecycle → SlaveLifecycle → Prop) (call : LifecycleCall)
    (answers : (query : LifecycleQuery) → ν → LifecycleAnswer query → ν → Prop)
    (rely : SlaveLifecycle × ν → SlaveLifecycle × ν → Prop) (program : LifecycleOp α)
    (opening : Opening SlaveLifecycle ν LifecycleAnswer) (now : SlaveLifecycle × ν)
    (post : Opening SlaveLifecycle ν LifecycleAnswer → SlaveLifecycle × ν → Except Exc α → Prop) :
    Prop :=
  program.Secure answers rely
    (fun opening now query => LifecycleBlock env settings rel call opening.before.1 now.1 query)
    opening now post

/-- A program that leaves packages and activations alone and persists none. -/
def Idles {α : Type} (program : LifecycleOp α) : Prop :=
  program.Keeps SlaveLifecycle.installed fun query => query.isIdle = true

variable {opening : Opening SlaveLifecycle ν LifecycleAnswer} {now : SlaveLifecycle × ν}

namespace Blocks

variable {α β : Type}

theorem ofExcept {outcome : Except Exc α}
    {post : Opening SlaveLifecycle ν LifecycleAnswer → SlaveLifecycle × ν → Except Exc α → Prop}
    (holds : post opening now outcome) :
    Blocks env settings rel call answers rely (Prog.ofExcept outcome) opening now post :=
  Prog.Secure.ofExcept holds

theorem guard {condition : Prop} [Decidable condition] {error : Exc}
    {post : Opening SlaveLifecycle ν LifecycleAnswer → SlaveLifecycle × ν → Except Exc Unit → Prop}
    (passes : condition → post opening now (.ok ()))
    (fails : ¬condition → post opening now (.error error)) :
    Blocks env settings rel call answers rely (Prog.guard condition error) opening now post :=
  Prog.Secure.guard passes fails

theorem bind {program : LifecycleOp α} {rest : α → LifecycleOp β}
    {post : Opening SlaveLifecycle ν LifecycleAnswer → SlaveLifecycle × ν → Except Exc β → Prop}
    (first : Blocks env settings rel call answers rely program opening now fun opening now result =>
      match result with
      | .ok value => Blocks env settings rel call answers rely (rest value) opening now post
      | .error error => post opening now (.error error)) :
    Blocks env settings rel call answers rely (program.bind rest) opening now post := by
  refine Prog.Secure.bind (Prog.Secure.mono first fun opening now result holds => ?_)
  cases result with
  | ok value => exact holds
  | error error => exact holds

end Blocks

theorem Idles.blocks {α : Type} {program : LifecycleOp α} (idles : Idles program)
    (interferes : Interferes rel) (relies : ∀ now later, rely now later → rel now.1 later.1)
    (still : Still opening now) (since : Since rel held opening.before.1)
    {post : Opening SlaveLifecycle ν LifecycleAnswer → SlaveLifecycle × ν → Except Exc α → Prop}
    (holds : ∀ opening now result, Still opening now → Since rel held opening.before.1 →
      post opening now result) :
    Blocks env settings rel call answers rely program opening now post := by
  induction program generalizing opening now with
  | ret value => exact holds _ _ _ still since
  | raise error => exact holds _ _ _ still since
  | read next ih => exact ih _ (idles _) still since
  | write update next ih => exact ih idles.2 ((idles.1 now.1).trans still) since
  | await query next ih =>
      refine ⟨.quiet still idles.1, fun later relied answer world answered => ?_⟩
      refine ih answer (idles.2 answer) rfl ?_
      exact (since.later interferes (interferes.quiet _ _ still)).later interferes
        (relies _ _ relied)

end Blocks

/-! ### The parts that store nothing -/

section Idle

variable {env : Env} {settings : SlaveSettings} {package : CapabilityPackageVersion}

theorem Idles.bind {α β : Type} {program : LifecycleOp α} {rest : α → LifecycleOp β}
    (first : Idles program) (second : ∀ value, Idles (rest value)) : Idles (program.bind rest) :=
  Prog.Keeps.bind first second

theorem Consults.idles {α : Type} {program : RunOp α} (consults : Consults program) :
    Idles (LifecycleOp.ofRun program) := by
  induction program with
  | ret value => trivial
  | raise error => trivial
  | read next ih => exact fun state => ih state.slave (consults state.slave)
  | write update next ih =>
      refine ⟨fun state => ?_, ih consults.2⟩
      cases update with
      | takeUuid => rfl
      | remember attemptId result => rfl
  | await query next ih => exact ⟨consults.1, fun answer => ih answer (consults.2 answer)⟩

theorem orInvalid_idles {α : Type} {caught : Exc → Bool} {program : LifecycleOp α}
    (idles : Idles program) : Idles (LifecycleOp.orInvalid caught program) := by
  refine Idles.bind (Prog.Keeps.attempt idles) fun outcome => ?_
  cases outcome with
  | ok value => trivial
  | error error =>
      dsimp only
      split
      · trivial
      · trivial

theorem validateSchemaRef_idles (schemaRef : Option ResourceRef) :
    Idles (LifecycleOp.validateSchemaRef env schemaRef) := by
  cases schemaRef with
  | none => trivial
  | some schemaRef =>
      exact orInvalid_idles (.bind (loadJson_consults schemaRef).idles fun _ => .ofExcept _)

theorem validateExport_idles (exported : CapabilityExport) :
    Idles (LifecycleOp.validateExport env exported) := by
  refine Idles.bind (loadIoContract_consults _).idles fun contract => ?_
  refine Idles.bind (validateSchemaRef_idles _) fun _ => ?_
  refine Idles.bind (validateSchemaRef_idles _) fun _ => ?_
  cases contract.successValidatorRef with
  | none => trivial
  | some validatorRef =>
      exact orInvalid_idles (.bind (contentGet_consults validatorRef).idles fun _ => trivial)

theorem validatePackageExports_idles (exports : List CapabilityExport) :
    Idles (LifecycleOp.validatePackageExports env exports) := by
  induction exports with
  | nil => trivial
  | cons exported exports ih => exact Idles.bind (validateExport_idles exported) fun _ => ih

theorem uuid_idles : Idles (LifecycleOp.ofRun (RunOp.uuid env)) :=
  fun _ => ⟨fun _ => rfl, trivial⟩

theorem healthReport_idles (health : HealthState) (revision : Nat) (evidenceRefs : List String)
    (details : Dict) :
    Idles (LifecycleOp.healthReport env settings package health revision evidenceRefs details) :=
  .bind uuid_idles fun _ => trivial

theorem rememberHealthReport_idles (key : String) (report : CapabilityHealthReport) :
    Idles (LifecycleOp.rememberHealthReport key report) :=
  .bind ⟨fun _ => rfl, trivial⟩ fun _ => trivial

theorem announce_idles (eventType : String) (report : CapabilityHealthReport) :
    Idles (LifecycleOp.announce settings eventType package report) :=
  .bind ⟨fun _ => rfl, trivial⟩ fun _ => rememberHealthReport_idles _ _

theorem reviewPending_idles (key : String) (pending : CapabilityHealthReport) :
    Idles (LifecycleOp.reviewPending key pending) := by
  intro state
  dsimp only [Prog.bind]
  split
  · split
    · exact ⟨fun _ => rfl, trivial⟩
    · trivial
  · exact ⟨fun _ => rfl, trivial⟩

theorem inspectState_idles (activation : CapabilityPackageActivation) :
    Idles (LifecycleOp.inspectState settings package activation) := by
  unfold LifecycleOp.inspectState
  split
  · trivial
  · split
    · trivial
    · refine ⟨rfl, fun answer => ?_⟩
      cases answer with
      | ok inspected => trivial
      | error error =>
          dsimp only
          split
          · trivial
          · trivial

theorem acknowledgeHealthReport_idles (reportId : String) :
    Idles (LifecycleOp.acknowledgeHealthReport reportId) := by
  intro state
  dsimp only [Prog.bind]
  split
  · trivial
  · exact ⟨fun _ => rfl, fun _ => rfl, trivial⟩

end Idle

/-! ### The operations -/

section Operations

variable {ν : Type} {env : Env} {settings : SlaveSettings}
  {rel : SlaveLifecycle → SlaveLifecycle → Prop} {call : LifecycleCall}
  {answers : (query : LifecycleQuery) → ν → LifecycleAnswer query → ν → Prop}
  {rely : SlaveLifecycle × ν → SlaveLifecycle × ν → Prop}
  {opening : Opening SlaveLifecycle ν LifecycleAnswer} {now : SlaveLifecycle × ν}
  {package : CapabilityPackageVersion}

/-- The runtime has answered with a handle and details that can be recorded. -/
def Recordable (env : Env) (response : Dict) : Prop :=
  (∃ handle, env.dictOr (Dict.get response "runtime_handle") = .ok handle) ∧
    ∃ code, responseCode env response = .ok code

/-- How the last block of a call ends: nothing has been stored, or a response that cannot be
recorded keeps the activation from being persisted. -/
inductive LifecycleEnd (env : Env) (rel : SlaveLifecycle → SlaveLifecycle → Prop)
    (call : LifecycleCall)
    (answers : (query : LifecycleQuery) → ν → LifecycleAnswer query → ν → Prop)
    (before now : SlaveLifecycle) : Prop where
  | still (same : now.installed = before.installed) : LifecycleEnd env rel call answers before now
  | drops {command : CapabilityProvisionCommand} {profile : Option Dict}
      {given : Option CapabilityPackageVersion} {package : CapabilityPackageVersion}
      {old activation : CapabilityPackageActivation} {response : Dict} {world world' : ν}
      (isProvision : call = .provision command profile given)
      (isKey : command.packageVersionRef = package.versionRef)
      (held : Since rel (SlaveLifecycle.Hosts package.versionRef package old) before)
      (same : Succeeds old activation)
      (installed : now.installed = (setKey before.slave.activations package.versionRef activation,
        before.slave.packageCache))
      (answered : answers (.provision package command) world (.ok response) world')
      (unrecordable : ¬Recordable env response) : LifecycleEnd env rel call answers before now

/-- The program ends as a call does. -/
def Ends {α : Type} (env : Env) (rel : SlaveLifecycle → SlaveLifecycle → Prop)
    (call : LifecycleCall)
    (answers : (query : LifecycleQuery) → ν → LifecycleAnswer query → ν → Prop)
    (opening : Opening SlaveLifecycle ν LifecycleAnswer) (now : SlaveLifecycle × ν)
    (_ : Except Exc α) : Prop :=
  LifecycleEnd env rel call answers opening.before.1 now.1

variable (interferes : Interferes rel) (relies : ∀ now later, rely now later → rel now.1 later.1)

include interferes relies

theorem Idles.ends {α : Type} {program : LifecycleOp α} (idles : Idles program)
    (still : Still opening now) :
    Blocks env settings rel call answers rely program opening now (Ends env rel call answers) :=
  idles.blocks interferes relies still (Since.now interferes trivial : Since rel (fun _ => True) _)
    fun _ _ _ still _ => .still still

theorem report_ends {health : HealthState} {revision : Nat} {evidenceRefs : List String}
    {details : Dict} {eventType : String} (still : Still opening now) :
    Blocks env settings rel call answers rely
      ((LifecycleOp.healthReport env settings package health revision evidenceRefs details).bind
        (LifecycleOp.announce settings eventType package)) opening now
      (Ends env rel call answers) :=
  Idles.ends interferes relies
    (.bind (healthReport_idles health revision evidenceRefs details) fun report =>
      announce_idles eventType report) still

/-- An activation that has been set is persisted; where that fails, the call ends. -/
theorem persist_ends {α : Type} {rest : Unit → LifecycleOp α}
    {activation : CapabilityPackageActivation} {pluginId code : String} {handle : Dict}
    (block : LifecycleBlock env settings rel call opening.before.1 now.1
      (.persist package activation pluginId handle code))
    {held : SlaveLifecycle → Prop} (holds : Since rel held now.1)
    (next : ∀ opening now, Still opening now → Since rel held opening.before.1 →
      Blocks env settings rel call answers rely (rest ()) opening now (Ends env rel call answers)) :
    Blocks env settings rel call answers rely
      ((.await (.persist package activation pluginId handle code) Prog.ofExcept :
        LifecycleOp Unit).bind rest) opening now (Ends env rel call answers) := by
  refine ⟨block, fun later relied answer world answered => ?_⟩
  refine Blocks.bind (.ofExcept ?_)
  cases answer with
  | error error => exact .still rfl
  | ok value => exact next _ _ rfl (holds.later interferes (relies _ _ relied))

/-- An activation takes the place of the one that the call has stored. -/
theorem succeed_ends {α : Type} {rest : Unit → LifecycleOp α} {demand : Demand}
    {old activation : CapabilityPackageActivation} {pluginId code : String} {handle : Dict}
    (isDemand : call.demand? = some demand) (isKey : demand.key = package.versionRef)
    (held : Since rel (SlaveLifecycle.Hosts package.versionRef package old) opening.before.1)
    (same : Succeeds old activation) (still : Still opening now)
    (next : ∀ opening now, Still opening now →
      Blocks env settings rel call answers rely (rest ()) opening now (Ends env rel call answers)) :
    Blocks env settings rel call answers rely
      ((.await (.persist package activation pluginId handle code) Prog.ofExcept :
        LifecycleOp Unit).bind rest) opening
      (apply (LifecycleWrite.setActivation package.versionRef activation) now.1, now.2)
      (Ends env rel call answers) := by
  obtain ⟨sameActivations, sameCache⟩ := Prod.mk.inj still
  refine persist_ends interferes relies (.succeeds isDemand isKey held same ?_)
    (Since.now interferes trivial : Since rel (fun _ => True) _) fun opening now still _ =>
      next opening now still
  change (setKey now.1.slave.activations package.versionRef activation,
    now.1.slave.packageCache) = _
  rw [sameActivations, sameCache]

/-- An activation that has been set is persisted and reported. -/
theorem recorded_ends {demand : Demand} {old activation : CapabilityPackageActivation}
    {pluginId code eventType : String} {handle more : Dict} {details : Except Exc Dict}
    {health : HealthState} {revision : Nat} {evidenceRefs : List String}
    (isDemand : call.demand? = some demand) (isKey : demand.key = package.versionRef)
    (held : Since rel (SlaveLifecycle.Hosts package.versionRef package old) opening.before.1)
    (same : Succeeds old activation) (still : Still opening now) :
    Blocks env settings rel call answers rely
      ((.await (.persist package activation pluginId handle code) Prog.ofExcept :
        LifecycleOp Unit).bind fun _ => (Prog.ofExcept details).bind fun details =>
          (LifecycleOp.healthReport env settings package health revision evidenceRefs
            (details ++ more)).bind (LifecycleOp.announce settings eventType package)) opening
      (apply (LifecycleWrite.setActivation package.versionRef activation) now.1, now.2)
      (Ends env rel call answers) := by
  refine succeed_ends interferes relies isDemand isKey held same still
    fun opening now still => ?_
  refine Blocks.bind (.ofExcept ?_)
  cases details with
  | error error => exact .still still
  | ok details => exact report_ends interferes relies still

/-- What follows an answer of the runtime. -/
theorem finishRuntime_blocks {command : CapabilityProvisionCommand} {profile : Option Dict}
    {given : Option CapabilityPackageVersion} {pending : CapabilityPackageActivation}
    {response : Dict} (isProvision : call = .provision command profile given)
    (isKey : command.packageVersionRef = package.versionRef)
    (running : pending.desiredState = .running) {world world' : ν}
    (answered : answers (.provision package command) world (.ok response) world')
    (still : Still opening now)
    (held : Since rel (SlaveLifecycle.Hosts package.versionRef package pending)
      opening.before.1) :
    Blocks env settings rel call answers rely
      (LifecycleOp.finishRuntime env settings command package pending response) opening now
      (Ends env rel call answers) := by
  unfold LifecycleOp.finishRuntime
  cases provisionedState env response with
  | none => exact .still still
  | some health =>
      dsimp only
      refine Blocks.bind (.ofExcept ?_)
      cases responseEvidence env response with
      | error error => exact .still still
      | ok evidenceRefs =>
          refine Blocks.bind (.ofExcept ?_)
          cases env.dictOr (Dict.get response "runtime_profile") with
          | error error => exact .still still
          | ok runtimeProfile =>
              have same : Succeeds pending
                  { pending with
                    activationState := health.toActivation, evidenceRefs, runtimeProfile } :=
                ⟨rfl, rfl, rfl, rfl, rfl, rfl, fun stopped => by cases running.symm.trans stopped⟩
              have installed : (apply (LifecycleWrite.setActivation package.versionRef
                  { pending with
                    activationState := health.toActivation, evidenceRefs, runtimeProfile })
                  now.1).installed =
                (setKey opening.before.1.slave.activations package.versionRef
                  { pending with
                    activationState := health.toActivation, evidenceRefs, runtimeProfile },
                  opening.before.1.slave.packageCache) := by
                obtain ⟨sameActivations, sameCache⟩ := Prod.mk.inj still
                rw [← sameActivations, ← sameCache]
                rfl
              have isDemand : call.demand? = some command.demand := by rw [isProvision]; rfl
              change Blocks _ _ _ _ _ _ ((Prog.ofExcept _).bind _) opening
                (apply (LifecycleWrite.setActivation package.versionRef _) now.1, now.2) _
              refine Blocks.bind (.ofExcept ?_)
              cases isHandle : env.dictOr (Dict.get response "runtime_handle") with
              | error error =>
                  refine .drops isProvision isKey held same installed answered fun recordable => ?_
                  obtain ⟨handle, some⟩ := recordable.1
                  cases isHandle.symm.trans some
              | ok handle =>
                  dsimp only
                  split
                  · refine Blocks.bind (.ofExcept ?_)
                    cases isCode : responseCode env response with
                    | error error =>
                        refine .drops isProvision isKey held same installed answered
                          fun recordable => ?_
                        obtain ⟨code, some⟩ := recordable.2
                        cases isCode.symm.trans some
                    | ok code =>
                        exact recorded_ends interferes relies isDemand isKey held same still
                  · exact recorded_ends interferes relies isDemand isKey held same still

omit interferes relies in
theorem acceptActivationRevision_blocks {key : String} {retry : Bool}
    {post : Opening SlaveLifecycle ν LifecycleAnswer → SlaveLifecycle × ν → Except Exc Unit → Prop}
    (holds : ∀ later, later.1.installed = now.1.installed → post opening later (.ok ())) :
    Blocks env settings rel call answers rely (LifecycleOp.acceptActivationRevision key retry)
      opening
      now post := by
  cases retry with
  | true => exact holds now rfl
  | false => exact holds (apply (LifecycleWrite.unpend key) now.1, now.2) rfl

/-- The first activation of a command is set and persisted. -/
theorem accept_ends {α : Type} {rest : Unit → LifecycleOp α} {demand : Demand}
    {activation : CapabilityPackageActivation} {retry : Bool}
    (isDemand : call.demand? = some demand) (isKey : demand.key = package.versionRef)
    (valid : ∃ given, RunOp.revalidate env given = .ok package)
    (fence : lifecycleRetry (now.1.activation? package.versionRef) demand.desiredState
      package.packageDigest demand.activationRevision demand.idempotencyKey = .ok retry)
    (accepted : call.accepted settings package (now.1.activation? package.versionRef) =
      some activation)
    (still : Still opening now)
    (next : ∀ opening now, Still opening now →
      Since rel (SlaveLifecycle.Hosts package.versionRef package activation) opening.before.1 →
        Blocks env settings rel call answers rely (rest ()) opening now
          (Ends env rel call answers)) :
    Blocks env settings rel call answers rely
      ((Prog.tell (.cachePackage package demand.key)).bind fun _ =>
        (LifecycleOp.storeActivation package activation).bind rest) opening now
      (Ends env rel call answers) := by
  have sameActivation := SlaveLifecycle.activation?_of_installed still
  obtain ⟨sameActivations, sameCache⟩ := Prod.mk.inj still
  have installed : (apply (LifecycleWrite.setActivation package.versionRef activation)
      (apply (LifecycleWrite.cachePackage package demand.key) now.1)).installed =
      (setKey opening.before.1.slave.activations package.versionRef activation,
        cachePackage opening.before.1.slave.packageCache package package.versionRef) := by
    rw [← sameActivations, ← sameCache, isKey]
    rfl
  rw [sameActivation] at fence accepted
  exact persist_ends interferes relies (.accepts isDemand isKey valid fence accepted installed)
    (Since.now interferes (hosts_installed installed)) next

/-- The shared part of provisioning. -/
theorem acceptProvision_blocks {command : CapabilityProvisionCommand} {profile : Option Dict}
    {given : Option CapabilityPackageVersion}
    {work : CapabilityPackageActivation → LifecycleOp CapabilityHealthReport}
    (isProvision : call = .provision command profile given)
    (isKey : command.packageVersionRef = package.versionRef)
    (valid : ∃ given, RunOp.revalidate env given = .ok package) (still : Still opening now)
    (works : ∀ opening now pending, pending.desiredState = .running → Still opening now →
      Since rel (SlaveLifecycle.Hosts package.versionRef package pending) opening.before.1 →
        Blocks env settings rel call answers rely (work pending) opening now
          (Ends env rel call answers)) :
    Blocks env settings rel call answers rely
      (LifecycleOp.acceptProvision env settings command package work) opening now
      (Ends env rel call answers) := by
  unfold LifecycleOp.acceptProvision
  change Blocks _ _ _ _ _ _ ((Prog.ofExcept (lifecycleRetry (now.1.activation? package.versionRef) _
    _ _ _)).bind _) opening now _
  refine Blocks.bind (.ofExcept ?_)
  cases fence : lifecycleRetry (now.1.activation? package.versionRef) .running
      package.packageDigest command.activationRevision command.idempotencyKey with
  | error error => exact .still still
  | ok retry =>
      dsimp only
      refine Blocks.bind (acceptActivationRevision_blocks fun later same => ?_)
      have still' : Still opening later := same.trans still
      have existing := SlaveLifecycle.activation?_of_installed same
      dsimp only
      split
      · rename_i old isOld
        exact Idles.ends interferes relies (.bind (healthReport_idles _ _ _ _) fun report =>
          rememberHealthReport_idles _ report) still'
      · have isDemand : call.demand? = some command.demand := by rw [isProvision]; rfl
        have fence' : lifecycleRetry (later.1.activation? package.versionRef)
            command.demand.desiredState package.packageDigest command.demand.activationRevision
            command.demand.idempotencyKey = .ok retry := by
          rw [existing]
          exact fence
        refine accept_ends interferes relies isDemand isKey valid fence' ?_ still'
          fun opening now still held => works opening now _ rfl still held
        rw [existing, isProvision]
        rfl

/-- `_provision_runtime_locked`. -/
theorem provisionRuntimeLocked_blocks {command : CapabilityProvisionCommand}
    {profile : Option Dict} {given : Option CapabilityPackageVersion}
    (isProvision : call = .provision command profile given)
    (isKey : command.packageVersionRef = package.versionRef)
    (valid : ∃ given, RunOp.revalidate env given = .ok package) (still : Still opening now) :
    Blocks env settings rel call answers rely
      (LifecycleOp.provisionRuntimeLocked env settings command package) opening now
      (Ends env rel call answers) := by
  have anything : ∀ state, Since rel (fun _ => True) state := fun state =>
    Since.now interferes trivial
  refine Blocks.bind (.guard (fun _ => ?_) fun _ => LifecycleEnd.still still)
  refine Blocks.bind (.guard (fun _ => ?_) fun _ => LifecycleEnd.still still)
  refine Blocks.bind (Idles.blocks (validatePackageExports_idles _) interferes relies still
    (anything _) fun opening now result still _ => ?_)
  cases result with
  | error error => exact .still still
  | ok checked =>
      change Blocks _ _ _ _ _ _ ((Prog.guard _ _).bind _) opening now _
      refine Blocks.bind (.guard (fun _ => ?_) fun _ => LifecycleEnd.still still)
      refine acceptProvision_blocks interferes relies isProvision isKey valid still
        fun opening now pending running still held => ?_
      refine ⟨.quiet still rfl, fun later relied answer world answered => ?_⟩
      have isDemand : call.demand? = some command.demand := by rw [isProvision]; rfl
      have held' : Since rel (SlaveLifecycle.Hosts package.versionRef package pending) later.1 :=
        (held.later interferes (interferes.quiet _ _ still)).later interferes (relies _ _ relied)
      cases answer with
      | ok response =>
          exact finishRuntime_blocks interferes relies isProvision isKey running answered rfl held'
      | error error =>
          dsimp only
          split
          · refine succeed_ends interferes relies isDemand isKey held' ?_ rfl
              fun opening now still => ?_
            · exact ⟨rfl, rfl, rfl, rfl, rfl, rfl, fun stopped => by
                cases running.symm.trans stopped⟩
            · exact .still still
          · exact .still rfl

/-- `_provision_executor_locked`. -/
theorem provisionExecutorLocked_blocks {command : CapabilityProvisionCommand}
    {profile profile' : Option Dict} {given : Option CapabilityPackageVersion}
    (isProvision : call = .provision command profile given)
    (isKey : command.packageVersionRef = package.versionRef)
    (valid : ∃ given, RunOp.revalidate env given = .ok package) (still : Still opening now) :
    Blocks env settings rel call answers rely
      (LifecycleOp.provisionExecutorLocked env settings command profile' package) opening now
      (Ends env rel call answers) := by
  have anything : ∀ state, Since rel (fun _ => True) state := fun state =>
    Since.now interferes trivial
  have isDemand : call.demand? = some command.demand := by rw [isProvision]; rfl
  refine Blocks.bind (Idles.blocks (orInvalid_idles (validatePackageExports_idles _))
    interferes relies still (anything _) fun opening now result still _ => ?_)
  cases result with
  | error error => exact .still still
  | ok checked =>
      refine Blocks.bind (.guard (fun _ => ?_) fun _ => LifecycleEnd.still still)
      refine Blocks.bind (.ofExcept ?_)
      cases LifecycleOp.checkFillable package profile' with
      | error error => exact .still still
      | ok filled =>
          refine acceptProvision_blocks interferes relies isProvision isKey valid still
            fun opening now pending running still held => ?_
          cases packageBodyRef env package "program_content_ref" with
          | error error => exact .still still
          | ok programRef =>
              dsimp only
              cases Op.digestFromRef programRef with
              | error error => exact .still still
              | ok digest =>
                  refine ⟨.quiet still rfl, fun later relied answer world answered => ?_⟩
                  have held' : Since rel
                      (SlaveLifecycle.Hosts package.versionRef package pending) later.1 :=
                    (held.later interferes (interferes.quiet _ _ still)).later interferes
                      (relies _ _ relied)
                  cases answer with
                  | error error => exact .still rfl
                  | ok stat =>
                      have still : Still ⟨some ⟨.statProgram package command digest, .ok stat⟩,
                          later⟩ (later.1, world) := rfl
                      dsimp only
                      unfold LifecycleOp.finishExecutor
                      split
                      · refine succeed_ends interferes relies isDemand isKey held' ?_ still
                          fun opening now still => .still still
                        exact ⟨rfl, rfl, rfl, rfl, rfl, rfl, fun stopped => by
                          cases running.symm.trans stopped⟩
                      · refine succeed_ends interferes relies isDemand isKey held' ?_ still
                          fun opening now still => ?_
                        · exact ⟨rfl, rfl, rfl, rfl, rfl, rfl, fun stopped => by
                            cases running.symm.trans stopped⟩
                        · cases package.capabilityExports with
                          | nil => exact .still still
                          | cons exported exports => exact report_ends interferes relies still

omit interferes relies in
/-- The package of a command is the one that it names. -/
theorem commandPackage_ends {α : Type} {given : Option CapabilityPackageVersion}
    {ref digest : String} {rest : CapabilityPackageVersion → LifecycleOp α}
    (still : Still opening now)
    (next : ∀ package, ref = package.versionRef →
      (∃ given, RunOp.revalidate env given = .ok package) →
      Blocks env settings rel call answers rely (rest package) opening now
        (Ends env rel call answers)) :
    Blocks env settings rel call answers rely
      ((LifecycleOp.commandPackage env given ref digest).bind rest) opening now
      (Ends env rel call answers) := by
  refine Blocks.bind ?_
  unfold LifecycleOp.commandPackage
  refine Prog.Secure.get ?_
  cases given.or (now.1.slave.findCachedPackage ref (some digest)) with
  | none => exact LifecycleEnd.still still
  | some cached =>
      refine Blocks.bind (.ofExcept ?_)
      cases valid : RunOp.revalidate env cached with
      | error error => exact LifecycleEnd.still still
      | ok package =>
          exact Blocks.bind (.guard (fun same => next package same ⟨cached, valid⟩) fun _ =>
            LifecycleEnd.still still)

/-- `provision`. -/
theorem provision_blocks {command : CapabilityProvisionCommand} {profile profile' : Option Dict}
    {given given' : Option CapabilityPackageVersion}
    (isProvision : call = .provision command profile given) (still : Still opening now) :
    Blocks env settings rel call answers rely
      (LifecycleOp.provision env settings command profile' given') opening now
      (Ends env rel call answers) := by
  refine Blocks.bind (.guard (fun _ => ?_) fun _ => LifecycleEnd.still still)
  refine Blocks.bind (.guard (fun _ => ?_) fun _ => LifecycleEnd.still still)
  refine commandPackage_ends still fun package isKey valid => ?_
  refine Blocks.bind (.guard (fun _ => ?_) fun _ => LifecycleEnd.still still)
  dsimp only
  split
  · exact provisionRuntimeLocked_blocks interferes relies isProvision isKey valid still
  · exact provisionExecutorLocked_blocks interferes relies isProvision isKey valid still

/-- What `_deprovision_locked` does once its first activation has been persisted. -/
theorem deprovisionLocked_blocks {command : CapabilityDeprovisionCommand}
    {given : Option CapabilityPackageVersion} (isDeprovision : call = .deprovision command given)
    (isKey : command.packageVersionRef = package.versionRef)
    (valid : ∃ given, RunOp.revalidate env given = .ok package) (still : Still opening now) :
    Blocks env settings rel call answers rely
      (LifecycleOp.deprovisionLocked env settings command package) opening now
      (Ends env rel call answers) := by
  have isDemand : call.demand? = some command.demand := by rw [isDeprovision]; rfl
  refine Blocks.bind (.guard (fun _ => ?_) fun _ => LifecycleEnd.still still)
  refine Blocks.bind (.guard (fun _ => ?_) fun _ => LifecycleEnd.still still)
  change Blocks _ _ _ _ _ _ ((Prog.ofExcept (lifecycleRetry (now.1.activation? package.versionRef) _
    _ _ _)).bind _) opening now _
  refine Blocks.bind (.ofExcept ?_)
  cases fence : lifecycleRetry (now.1.activation? package.versionRef) .stopped
      package.packageDigest command.activationRevision command.idempotencyKey with
  | error error => exact LifecycleEnd.still still
  | ok retry =>
      dsimp only
      refine Blocks.bind (acceptActivationRevision_blocks fun later same => ?_)
      have still' : Still opening later := same.trans still
      have existing := SlaveLifecycle.activation?_of_installed same
      have fence' : lifecycleRetry (later.1.activation? package.versionRef)
          command.demand.desiredState package.packageDigest command.demand.activationRevision
          command.demand.idempotencyKey = .ok retry := by
        rw [existing]
        exact fence
      refine accept_ends interferes relies isDemand isKey valid fence' ?_ still'
        fun opening now still held => ?_
      · rw [existing, isDeprovision]
        rfl
      · split
        · exact Idles.ends interferes relies (.bind (healthReport_idles _ _ _ _) fun report =>
            rememberHealthReport_idles _ report) still
        · change Blocks _ _ _ _ _ _ (if _ then _ else _) opening now _
          split
          · refine succeed_ends interferes relies isDemand isKey held ?_ still
              fun opening now still => ?_
            · exact ⟨rfl, rfl, rfl, rfl, rfl, rfl, fun _ => rfl⟩
            · exact Idles.ends interferes relies (.bind (healthReport_idles _ _ _ _) fun report =>
                rememberHealthReport_idles _ report) still
          · refine ⟨.quiet still rfl, fun later relied answer world answered => ?_⟩
            have held' := (held.later interferes (interferes.quiet _ _ still)).later interferes
              (relies _ _ relied)
            cases answer with
            | error error =>
                dsimp only
                split
                · exact persist_ends interferes relies (.repeats isDemand isKey held' rfl)
                    (Since.now interferes trivial : Since rel (fun _ => True) _)
                    fun opening now still _ => LifecycleEnd.still still
                · exact LifecycleEnd.still rfl
            | ok response =>
                refine succeed_ends interferes relies isDemand isKey held' ?_ rfl
                  fun opening now still => ?_
                · exact ⟨rfl, rfl, rfl, rfl, rfl, rfl, fun _ => rfl⟩
                · exact report_ends interferes relies still

/-- `deprovision`. -/
theorem deprovision_blocks {command : CapabilityDeprovisionCommand}
    {given given' : Option CapabilityPackageVersion}
    (isDeprovision : call = .deprovision command given) (still : Still opening now) :
    Blocks env settings rel call answers rely
      (LifecycleOp.deprovision env settings command given') opening now
      (Ends env rel call answers) := by
  refine Blocks.bind (.guard (fun _ => ?_) fun _ => LifecycleEnd.still still)
  refine commandPackage_ends still fun package isKey valid => ?_
  refine Blocks.bind (.guard (fun _ => ?_) fun _ => LifecycleEnd.still still)
  exact deprovisionLocked_blocks interferes relies isDeprovision isKey valid still

/-- The part of `inspect_activation_health` on one activation. -/
theorem inspectActivation_blocks {key : String} (isInspect : call = .inspect key)
    (still : Still opening now) :
    Blocks env settings rel call answers rely (LifecycleOp.inspectActivation env settings key)
      opening
      now (Ends env rel call answers) := by
  unfold LifecycleOp.inspectActivation
  refine Prog.Secure.get ?_
  cases isOld : now.1.slave.activations.lookup key with
  | none => exact LifecycleEnd.still still
  | some old =>
      dsimp only
      split
      · exact LifecycleEnd.still still
      · rename_i eligible
        obtain ⟨_, running⟩ := not_or.1 eligible
        split
        · exact LifecycleEnd.still still
        · rename_i package isPackage
          split
          · exact LifecycleEnd.still still
          · have found : Since rel (fun state => state.activation? key = some old ∧
                state.slave.findCachedPackage old.packageVersionRef (some old.packageDigest) =
                  some package) opening.before.1 := by
              refine Since.now interferes ⟨?_, ?_⟩
              · rw [← SlaveLifecycle.activation?_of_installed still]
                exact isOld
              · rw [← SlaveLifecycle.findCachedPackage_of_installed still]
                exact isPackage
            refine Blocks.bind (Idles.blocks (inspectState_idles old) interferes relies still found
              fun opening now result still found => ?_)
            cases result with
            | error error => exact LifecycleEnd.still still
            | ok outcome =>
                obtain ⟨health, details⟩ := outcome
                have reports : ∀ opening now, Still opening now →
                    Blocks env settings rel call answers rely
                      ((LifecycleOp.ofRun (RunOp.uuid env)).bind fun id =>
                        (Prog.tell (LifecycleWrite.pend key
                          { reportId := "health-" ++ id
                            packageVersionRef := old.packageVersionRef
                            packageDigest := old.packageDigest, targetSlave := settings.slaveId
                            activationState := health, evidenceRefs := old.evidenceRefs, details
                            activationRevision := old.activationRevision })).bind fun _ =>
                          (.ret (some
                            { reportId := "health-" ++ id
                              packageVersionRef := old.packageVersionRef
                              packageDigest := old.packageDigest, targetSlave := settings.slaveId
                              activationState := health, evidenceRefs := old.evidenceRefs, details
                              activationRevision := old.activationRevision }) :
                            LifecycleOp (Option CapabilityHealthReport)))
                      opening now (Ends env rel call answers) := fun opening now still =>
                  Idles.ends interferes relies (.bind uuid_idles fun _ => ⟨fun _ => rfl, trivial⟩)
                    still
                change Blocks _ _ _ _ _ _ (if _ then _ else _) opening now _
                split
                · exact LifecycleEnd.still still
                · dsimp only
                  split
                  · refine persist_ends interferes relies ?_
                      (Since.now interferes trivial : Since rel (fun _ => True) _)
                      fun opening now still _ => reports opening now still
                    obtain ⟨sameActivations, sameCache⟩ := Prod.mk.inj still
                    refine .observes isInspect found (by simpa using running) ?_
                    rw [← sameActivations, ← sameCache]
                    rfl
                  · exact reports opening now still

omit interferes relies in
theorem Blocks.map {α β : Type} {program : LifecycleOp α} {change : α → β}
    (ends : Blocks env settings rel call answers rely program opening now
      (Ends env rel call answers)) :
    Blocks env settings rel call answers rely (program.map change) opening now
      (Ends env rel call answers) := by
  refine Prog.Secure.bind (Prog.Secure.mono ends fun opening now result ends => ?_)
  cases result with
  | ok value => exact ends
  | error error => exact ends

/-- All blocks of a lifecycle call are blocks of it. -/
theorem lifecycleCall_blocks (still : Still opening now) :
    Blocks env settings rel call answers rely (call.prog env settings) opening now
      (Ends env rel call answers) := by
  cases call with
  | provision command profile package => exact (provision_blocks interferes relies rfl still).map
  | deprovision command package => exact (deprovision_blocks interferes relies rfl still).map
  | review key pending =>
      exact (Idles.ends interferes relies (reviewPending_idles key pending) still).map
  | inspect key => exact (inspectActivation_blocks interferes relies rfl still).map
  | acknowledge reportId =>
      exact Idles.ends interferes relies (acknowledgeHealthReport_idles reportId) still

end Operations

end Loom
