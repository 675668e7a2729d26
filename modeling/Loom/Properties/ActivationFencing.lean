import Loom.Coroutine.Computes
import Loom.Observer.Execution
import Loom.Slave.Lifecycle

/-!
# Fencing of the lifecycle commands of a Slave

Every lifecycle operation holds the lock of its package coordinate, so the operations on one
coordinate are one after the other.  A command is either refused, and then nothing but content has
been read, or accepted, and then the activation has its revision and its desired state.

`inspect_activation_health` leaves out a report that has been made before, and with it the change of
the activation.
-/

namespace Loom

open Coroutine

/-! ### Tables -/

theorem lookup_eq_find? {α : Type} (table : List (String × α)) (key : String) :
    table.lookup key = (Keyed.find? Prod.fst table key).map Prod.snd := by
  induction table with
  | nil => rfl
  | cons entry table ih =>
      obtain ⟨name, value⟩ := entry
      unfold Keyed.find? at ih ⊢
      by_cases same : name = key
      · subst same
        rw [List.lookup_cons_self, List.find?_cons_of_pos (by simp)]
        rfl
      · rw [List.find?_cons_of_neg (by simpa using same), ← ih]
        have differs : (key == name) = false := by simpa using fun isKey => same isKey.symm
        simp [List.lookup_cons, differs]

theorem lookup_setKey {α : Type} (table : List (String × α)) (key wanted : String) (value : α) :
    (setKey table key value).lookup wanted =
      if wanted = key then some value else table.lookup wanted := by
  rw [lookup_eq_find?, lookup_eq_find?]
  unfold setKey
  rw [Keyed.find?_put]
  dsimp only
  split
  · rfl
  · rfl

namespace SlaveLifecycle

variable (state : SlaveLifecycle)

/-- The activation of a package coordinate. -/
def activation? (key : String) : Option CapabilityPackageActivation :=
  state.slave.activations.lookup key

@[simp]
theorem activation?_setActivation (key wanted : String)
    (activation : CapabilityPackageActivation) :
    (apply (LifecycleWrite.setActivation key activation) state).activation? wanted =
      if wanted = key then some activation else state.activation? wanted :=
  lookup_setKey _ _ _ _

@[simp]
theorem activation?_slave (update : RunWrite) :
    (apply (LifecycleWrite.slave update) state).activation? = state.activation? := by
  cases update with
  | takeUuid => rfl
  | remember attemptId result => rfl

@[simp]
theorem activation?_cachePackage (package : CapabilityPackageVersion) (ref : String) :
    (apply (LifecycleWrite.cachePackage package ref) state).activation? = state.activation? := rfl

@[simp]
theorem activation?_pend (key : String) (report : CapabilityHealthReport) :
    (apply (LifecycleWrite.pend key report) state).activation? = state.activation? := rfl

@[simp]
theorem activation?_unpend (key : String) :
    (apply (LifecycleWrite.unpend key) state).activation? = state.activation? := rfl

@[simp]
theorem activation?_reported (key : String) (revision : Nat) (health : HealthState) :
    (apply (LifecycleWrite.reported key revision health) state).activation? =
      state.activation? := rfl

@[simp]
theorem activation?_event (frame : ResourceEventFrame) :
    (apply (LifecycleWrite.event frame) state).activation? = state.activation? := rfl

end SlaveLifecycle

/-! ### What the runtime reports -/

/-- A query that only reads content. -/
def LifecycleQuery.isContent : LifecycleQuery → Bool
  | .content _ => true
  | _ => false

/-- A query that reports on no activation. -/
def LifecycleQuery.isSilent : LifecycleQuery → Bool
  | .content _ | .persist _ _ _ _ _ | .deprovision _ _ => true
  | .statProgram _ _ _ | .provision _ _ | .inspect _ _ => false

theorem LifecycleQuery.isSilent_of_isContent {query : LifecycleQuery}
    (isContent : query.isContent = true) : query.isSilent = true := by
  cases query with
  | content query => rfl
  | _ => cases isContent

/-- The exchanges of a Slave with its stores and its runtime. -/
abbrev LifecycleTrace := List (Exchange LifecycleAnswer)

/-- What an exchange reports on a package coordinate: the revision it was made for, and whether the
runtime was ready. -/
def readiness (env : Env) (key : String) : Exchange LifecycleAnswer → Option (Nat × Bool)
  | ⟨.provision package command, answer⟩ =>
      if package.versionRef = key then
        some (command.activationRevision,
          match answer with
          | .ok response => provisionedState env response = some .ready
          | .error _ => false)
      else none
  | ⟨.statProgram package command _, answer⟩ =>
      if package.versionRef = key then
        some (command.activationRevision,
          match answer, packageBodyRef env package "program_content_ref" with
          | .ok stat, .ok programRef => ContentStat.verifies stat programRef
          | _, _ => false)
      else none
  | ⟨.inspect _ activation, answer⟩ =>
      if activation.packageVersionRef = key then
        some (activation.activationRevision,
          match answer with
          | .ok inspected => inspectedState inspected = .ready
          | .error _ => false)
      else none
  | _ => none

/-- The last report on a package coordinate. -/
def lastReadiness (env : Env) (key : String) (trace : LifecycleTrace) : Option (Nat × Bool) :=
  (trace.filterMap (readiness env key)).getLast?

section Readiness

variable {env : Env} {key : String}

theorem readiness_of_isSilent {exchange : Exchange LifecycleAnswer}
    (silent : exchange.query.isSilent = true) : readiness env key exchange = none := by
  obtain ⟨query, answer⟩ := exchange
  cases query with
  | content query => rfl
  | persist package activation pluginId handle code => rfl
  | deprovision package command => rfl
  | statProgram package command digest => cases silent
  | provision package command => cases silent
  | inspect package activation => cases silent

theorem readiness_provision {package : CapabilityPackageVersion}
    {command : CapabilityProvisionCommand} {response : Dict} (same : package.versionRef = key) :
    readiness env key ⟨.provision package command, .ok response⟩ =
      some (command.activationRevision,
        decide (provisionedState env response = some .ready)) := by
  unfold readiness
  exact if_pos same

theorem readiness_statProgram {package : CapabilityPackageVersion}
    {command : CapabilityProvisionCommand} {digest : String} {stat : Option ContentStat}
    {programRef : ResourceRef} (same : package.versionRef = key)
    (isRef : packageBodyRef env package "program_content_ref" = .ok programRef) :
    readiness env key ⟨.statProgram package command digest, .ok stat⟩ =
      some (command.activationRevision, ContentStat.verifies stat programRef) := by
  unfold readiness
  refine (if_pos same).trans ?_
  rw [isRef]

theorem readiness_inspect {package : CapabilityPackageVersion}
    {activation : CapabilityPackageActivation} {inspected : Dict}
    (same : activation.packageVersionRef = key) :
    readiness env key ⟨.inspect package activation, .ok inspected⟩ =
      some (activation.activationRevision, decide (inspectedState inspected = .ready)) := by
  unfold readiness
  exact if_pos same

theorem lastReadiness_append (trace : LifecycleTrace) {more : LifecycleTrace}
    (silent : ∀ exchange ∈ more, exchange.query.isSilent = true) :
    lastReadiness env key (trace ++ more) = lastReadiness env key trace := by
  have none : more.filterMap (readiness env key) = [] := by
    rw [List.filterMap_eq_nil_iff]
    exact fun exchange member => readiness_of_isSilent (silent exchange member)
  unfold lastReadiness
  rw [List.filterMap_append, none, List.append_nil]

theorem lastReadiness_concat (trace : LifecycleTrace) (exchange : Exchange LifecycleAnswer) :
    lastReadiness env key (trace ++ [exchange]) =
      (readiness env key exchange).or (lastReadiness env key trace) := by
  unfold lastReadiness
  rw [List.filterMap_append]
  cases isReport : readiness env key exchange with
  | none => simp [isReport]
  | some report => simp [isReport]

theorem lastReadiness_of_report {trace : LifecycleTrace} {exchange : Exchange LifecycleAnswer}
    {report : Nat × Bool} (isReport : readiness env key exchange = some report) :
    lastReadiness env key (trace ++ [exchange]) = some report := by
  rw [lastReadiness_concat, isReport, Option.some_or]

end Readiness

/-! ### What a command does -/

/-- What a lifecycle command asks for. -/
structure Demand where
  key : String
  desiredState : DesiredState
  packageDigest : String
  activationRevision : Nat
  idempotencyKey : String
  deriving Repr, DecidableEq, Inhabited

def CapabilityProvisionCommand.demand (command : CapabilityProvisionCommand) : Demand :=
  { key := command.packageVersionRef, desiredState := .running
    packageDigest := command.packageDigest, activationRevision := command.activationRevision
    idempotencyKey := command.idempotencyKey }

def CapabilityDeprovisionCommand.demand (command : CapabilityDeprovisionCommand) : Demand :=
  { key := command.packageVersionRef, desiredState := .stopped
    packageDigest := command.packageDigest, activationRevision := command.activationRevision
    idempotencyKey := command.idempotencyKey }

/-- A Slave with its exchanges so far. -/
abbrev LifecyclePoint := SlaveLifecycle × LifecycleTrace

/-- The activation is ready only as the last report on its coordinate says, which is one for its
revision where it is to run. -/
def Justified (env : Env) (key : String) (activation : CapabilityPackageActivation)
    (trace : LifecycleTrace) : Prop :=
  activation.activationState = .ready →
    ∃ revision, lastReadiness env key trace = some (revision, true) ∧
      (activation.desiredState = .running → revision = activation.activationRevision)

/-- The command is refused: it raises, and nothing but content has been read. -/
structure Refused {α : Type} (start after : LifecyclePoint) (result : Except Exc α) : Prop where
  state : after.1 = start.1
  trace : ∃ more : LifecycleTrace, after.2 = start.2 ++ more ∧
    ∀ exchange ∈ more, exchange.query.isContent = true
  raises : ∃ error, result = .error error

/-- The exchanges of a call include one that is not a read of content. -/
def Acts (start after : LifecyclePoint) : Prop :=
  ∃ exchange ∈ after.2.drop start.2.length, exchange.query.isContent = false

/-- After the demand has been accepted the activation of its coordinate is `activation`. -/
structure Stands (env : Env) (demand : Demand) (start after : LifecyclePoint)
    (activation : CapabilityPackageActivation) : Prop where
  prior : start.2 <+: after.2
  current : after.1.activation? demand.key = some activation
  others : ∀ other, other ≠ demand.key → after.1.activation? other = start.1.activation? other
  revision : activation.activationRevision = demand.activationRevision
  desired : activation.desiredState = demand.desiredState
  named : (∀ old, start.1.activation? demand.key = some old →
    old.packageVersionRef = demand.key) → activation.packageVersionRef = demand.key
  justified : (∀ old, start.1.activation? demand.key = some old →
    Justified env demand.key old start.2) → Justified env demand.key activation after.2
  reports : ∀ other, other ≠ demand.key →
    lastReadiness env other after.2 = lastReadiness env other start.2

/-- The command is accepted. -/
structure Obeyed {α : Type} (env : Env) (demand : Demand) (start after : LifecyclePoint)
    (result : Except Exc α) : Prop where
  fence : ∃ retry, lifecycleRetry (start.1.activation? demand.key) demand.desiredState
    demand.packageDigest demand.activationRevision demand.idempotencyKey = .ok retry
  stands : ∃ activation, Stands env demand start after activation
  seen : (∃ value, result = .ok value) ∨ Acts start after

/-- What a run of a command comes to. -/
def Outcome {α : Type} (env : Env) (demand : Demand) (start after : LifecyclePoint)
    (result : Except Exc α) : Prop :=
  Refused start after result ∨ Obeyed env demand start after result

section Steps

variable {env : Env} {demand : Demand} {start : LifecyclePoint} {state : SlaveLifecycle}
  {trace : LifecycleTrace} {activation : CapabilityPackageActivation}
  {ok : (query : LifecycleQuery) → LifecycleAnswer query → Prop}

/-- Content that is read before a command is accepted changes nothing. -/
theorem Outcome.earlier {α : Type} {after : LifecyclePoint} {result : Except Exc α}
    {more : LifecycleTrace} (content : ∀ exchange ∈ more, exchange.query.isContent = true)
    (outcome : Outcome env demand (state, trace ++ more) after result) :
    Outcome env demand (state, trace) after result := by
  have silent : ∀ exchange ∈ more, exchange.query.isSilent = true := fun exchange member =>
    LifecycleQuery.isSilent_of_isContent (content exchange member)
  rcases outcome with refused | obeyed
  · obtain ⟨further, isTrace, isContent⟩ := refused.trace
    refine Or.inl ⟨refused.state, ⟨more ++ further, ?_, ?_⟩, refused.raises⟩
    · rw [isTrace, List.append_assoc]
    · intro exchange member
      rcases List.mem_append.1 member with member | member
      · exact content exchange member
      · exact isContent exchange member
  · obtain ⟨activation, stands⟩ := obeyed.stands
    refine Or.inr ⟨obeyed.fence, ⟨activation, (List.prefix_append _ _).trans stands.prior,
      stands.current, stands.others, stands.revision, stands.desired, stands.named, ?_, ?_⟩, ?_⟩
    · intro justified
      refine stands.justified fun old isOld => ?_
      have before := justified old isOld
      unfold Justified at before ⊢
      rwa [lastReadiness_append trace silent]
    · intro other differs
      rw [stands.reports other differs]
      exact lastReadiness_append trace silent
    · rcases obeyed.seen with returned | ⟨exchange, member, acts⟩
      · exact Or.inl returned
      · refine Or.inr ⟨exchange, ?_, acts⟩
        dsimp only at member ⊢
        rw [List.length_append] at member
        exact List.drop_subset_drop_left _ (Nat.le_add_right _ _) member

theorem Stands.obeyed {α : Type} {after : LifecyclePoint} {result : Except Exc α}
    (fence : ∃ retry, lifecycleRetry (start.1.activation? demand.key) demand.desiredState
      demand.packageDigest demand.activationRevision demand.idempotencyKey = .ok retry)
    (stands : Stands env demand start after activation) (acts : Acts start after) :
    Outcome env demand start after result :=
  Or.inr ⟨fence, ⟨activation, stands⟩, Or.inr acts⟩

/-- A program that touches no activation, and on whose queries nothing is reported. -/
def Rests {α : Type} (program : LifecycleOp α) : Prop :=
  program.Keeps SlaveLifecycle.activation? fun query => query.isSilent = true

theorem Stands.keeps {after : SlaveLifecycle} {more : LifecycleTrace}
    (stands : Stands env demand start (state, trace) activation)
    (same : after.activation? = state.activation?)
    (silent : ∀ exchange ∈ more, exchange.query.isSilent = true) :
    Stands env demand start (after, trace ++ more) activation := by
  refine ⟨stands.prior.trans (List.prefix_append _ _), ?_, ?_, stands.revision, stands.desired,
    stands.named, ?_, ?_⟩
  · exact (congrFun same demand.key).trans stands.current
  · intro other differs
    exact (congrFun same other).trans (stands.others other differs)
  · intro justified
    have before := stands.justified justified
    unfold Justified at before ⊢
    dsimp only
    rwa [lastReadiness_append trace silent]
  · intro other differs
    rw [← stands.reports other differs]
    exact lastReadiness_append trace silent

theorem Acts.append (acts : Acts start (state, trace)) (after : SlaveLifecycle)
    (more : LifecycleTrace) : Acts start (after, trace ++ more) := by
  obtain ⟨exchange, member, isAct⟩ := acts
  refine ⟨exchange, ?_, isAct⟩
  dsimp only at member ⊢
  rw [List.drop_append]
  exact List.mem_append_left _ member

theorem Rests.ensures {α : Type} {program : LifecycleOp α} (rests : Rests program)
    {post : LifecyclePoint → Except Exc α → Prop}
    (holds : ∀ after more result, after.activation? = state.activation? →
      (∀ exchange ∈ more, exchange.query.isSilent = true) → post (after, trace ++ more) result) :
    program.traced.Ensures ok (state, trace) post :=
  Prog.Keeps.ensures rests state trace holds

/-- A program that rests ends as it started. -/
theorem Rests.obeys {α : Type} {program : LifecycleOp α} (rests : Rests program)
    (fence : ∃ retry, lifecycleRetry (start.1.activation? demand.key) demand.desiredState
      demand.packageDigest demand.activationRevision demand.idempotencyKey = .ok retry)
    (stands : Stands env demand start (state, trace) activation)
    (acts : Acts start (state, trace)) :
    program.traced.Ensures ok (state, trace) (Outcome env demand start) := by
  refine rests.ensures fun after more result same silent => ?_
  exact (stands.keeps same silent).obeyed fence (acts.append after more)

/-- A program that only reads content. -/
def ReadsContent {α : Type} (program : LifecycleOp α) : Prop :=
  program.Keeps id fun query => query.isContent = true

/-- A command that has only read content so far goes on from there. -/
theorem ReadsContent.andThen {α β : Type} {program : LifecycleOp α} {rest : α → LifecycleOp β}
    (reads : ReadsContent program)
    (next : ∀ value more, (rest value).traced.Ensures ok (state, trace ++ more)
      (Outcome env demand (state, trace ++ more))) :
    (program.bind rest).traced.Ensures ok (state, trace) (Outcome env demand (state, trace)) := by
  refine .traced_bind (Prog.Keeps.ensures reads state trace
    fun after more result same content => ?_)
  cases same
  cases result with
  | ok value => exact (next value more).mono fun _ _ outcome => outcome.earlier content
  | error error => exact Or.inl ⟨rfl, ⟨more, rfl, content⟩, error, rfl⟩

end Steps

/-! ### Reading content -/

section Reading

variable {env : Env}

theorem ofRun_reads {α : Type} {program : RunOp α}
    (reads : program.Keeps id fun _ => True) : ReadsContent (LifecycleOp.ofRun program) := by
  induction program with
  | ret value => trivial
  | raise error => trivial
  | read next ih => exact fun state => ih state.slave (reads state.slave)
  | write update next ih =>
      refine ⟨fun state => ?_, ih reads.2⟩
      have same : apply update state.slave = state.slave := reads.1 state.slave
      change { state with slave := apply update state.slave } = state
      rw [same]
  | await query next ih => exact ⟨rfl, fun answer => ih answer (reads.2 answer)⟩

theorem contentGet_keeps (ref : ResourceRef) :
    (RunOp.contentGet env ref).Keeps id fun _ => True := by
  unfold RunOp.contentGet
  cases Op.digestFromRef ref with
  | error error => trivial
  | ok digest =>
      refine ⟨trivial, fun answer => ?_⟩
      rcases answer with error | _ | content
      · trivial
      · trivial
      · dsimp only
        split
        · trivial
        · trivial

theorem loadJson_reads (ref : ResourceRef) :
    ReadsContent (LifecycleOp.ofRun (RunOp.loadJson env ref)) :=
  ofRun_reads (.bind (contentGet_keeps ref) fun _ => .ofExcept _)

theorem loadIoContract_reads (ref : ResourceRef) :
    ReadsContent (LifecycleOp.ofRun (RunOp.loadIoContract env ref)) := by
  refine ofRun_reads (.bind (contentGet_keeps ref) fun raw => ?_)
  cases (env.jsonLoads raw).bind env.ioContract with
  | ok contract => trivial
  | error error =>
      dsimp only
      split
      · trivial
      · trivial

theorem orInvalid_reads {α : Type} {caught : Exc → Bool} {program : LifecycleOp α}
    (reads : ReadsContent program) : ReadsContent (LifecycleOp.orInvalid caught program) := by
  refine Prog.Keeps.bind (Prog.Keeps.attempt reads) fun outcome => ?_
  cases outcome with
  | ok value => trivial
  | error error =>
      dsimp only
      split
      · trivial
      · trivial

theorem validateSchemaRef_reads (schemaRef : Option ResourceRef) :
    ReadsContent (LifecycleOp.validateSchemaRef env schemaRef) := by
  cases schemaRef with
  | none => trivial
  | some schemaRef =>
      exact orInvalid_reads (.bind (loadJson_reads schemaRef) fun _ => .ofExcept _)

theorem validateExport_reads (exported : CapabilityExport) :
    ReadsContent (LifecycleOp.validateExport env exported) := by
  refine Prog.Keeps.bind (loadIoContract_reads _) fun contract => ?_
  refine Prog.Keeps.bind (validateSchemaRef_reads _) fun _ => ?_
  refine Prog.Keeps.bind (validateSchemaRef_reads _) fun _ => ?_
  cases contract.successValidatorRef with
  | none => trivial
  | some validatorRef =>
      exact orInvalid_reads (.bind (ofRun_reads (contentGet_keeps validatorRef)) fun _ => trivial)

theorem validatePackageExports_reads (exports : List CapabilityExport) :
    ReadsContent (LifecycleOp.validatePackageExports env exports) := by
  induction exports with
  | nil => trivial
  | cons exported exports ih => exact Prog.Keeps.bind (validateExport_reads exported) fun _ => ih

end Reading

/-! ### Provisioning -/

section Provision

variable {env : Env} {settings : SlaveSettings} {state : SlaveLifecycle} {trace : LifecycleTrace}
  {package : CapabilityPackageVersion}
  {ok : (query : LifecycleQuery) → LifecycleAnswer query → Prop}

theorem get_andThen {α : Type} {rest : SlaveLifecycle → LifecycleOp α}
    {post : LifecyclePoint → Except Exc α → Prop}
    (next : (rest state).traced.Ensures ok (state, trace) post) :
    ((Prog.get : LifecycleOp SlaveLifecycle).bind rest).traced.Ensures ok (state, trace) post :=
  next

/-- The package of a command is the one that it names. -/
theorem commandPackage_andThen {α : Type} {demand : Demand}
    {given : Option CapabilityPackageVersion} {ref digest : String}
    {rest : CapabilityPackageVersion → LifecycleOp α}
    (next : ∀ package, ref = package.versionRef →
      (rest package).traced.Ensures ok (state, trace) (Outcome env demand (state, trace))) :
    ((LifecycleOp.commandPackage env given ref digest).bind rest).traced.Ensures ok (state, trace)
      (Outcome env demand (state, trace)) := by
  have refuses : ∀ error : Exc, Outcome env demand (state, trace) (state, trace)
      (.error error : Except Exc α) := fun error =>
    Or.inl ⟨rfl, ⟨[], (List.append_nil _).symm, by simp⟩, error, rfl⟩
  refine .traced_bind ?_
  unfold LifecycleOp.commandPackage
  refine get_andThen ?_
  cases given.or (state.slave.findCachedPackage ref (some digest)) with
  | none => exact refuses _
  | some cached =>
      refine .traced_bind ?_
      rw [Prog.traced_ofExcept]
      refine .ofExcept ?_
      cases RunOp.revalidate env cached with
      | error error => exact refuses error
      | ok package =>
          refine .traced_bind ?_
          rw [Prog.traced_guard]
          exact .guard (fun same => next package same) fun _ => refuses _

theorem lifecycleRetry_congr {existing : Option CapabilityPackageActivation}
    {desired : DesiredState} {digest other : String} {revision : Nat} {idempotencyKey : String}
    (same : lower digest = lower other) :
    lifecycleRetry existing desired digest revision idempotencyKey =
      lifecycleRetry existing desired other revision idempotencyKey := by
  unfold lifecycleRetry
  rw [same]

theorem uuid_rests : Rests (LifecycleOp.ofRun (RunOp.uuid env)) :=
  fun _ => ⟨fun state => SlaveLifecycle.activation?_slave state _, trivial⟩

theorem healthReport_rests (health : HealthState) (revision : Nat) (evidenceRefs : List String)
    (details : Dict) :
    Rests (LifecycleOp.healthReport env settings package health revision evidenceRefs details) :=
  .bind uuid_rests fun _ => trivial

theorem rememberHealthReport_rests (key : String) (report : CapabilityHealthReport) :
    Rests (LifecycleOp.rememberHealthReport key report) :=
  .bind ⟨fun _ => rfl, trivial⟩ fun _ => trivial

theorem announce_rests (eventType : String) (report : CapabilityHealthReport) :
    Rests (LifecycleOp.announce settings eventType package report) :=
  .bind ⟨fun _ => rfl, trivial⟩ fun _ => rememberHealthReport_rests _ _

theorem persist_rests (activation : CapabilityPackageActivation) (pluginId : String)
    (handle : Dict) (code : String) :
    Rests (.await (.persist package activation pluginId handle code) Prog.ofExcept :
      LifecycleOp Unit) :=
  ⟨rfl, fun _ => .ofExcept _⟩

variable {demand : Demand} {start : LifecyclePoint}
  {activation new : CapabilityPackageActivation}

/-- A further activation of the coordinate takes the place of the one that stands. -/
theorem Stands.set (stands : Stands env demand start (state, trace) activation)
    (revision : new.activationRevision = activation.activationRevision)
    (desired : new.desiredState = activation.desiredState)
    (named : new.packageVersionRef = activation.packageVersionRef)
    (justified : Justified env demand.key new trace) :
    Stands env demand start (apply (LifecycleWrite.setActivation demand.key new) state, trace)
      new := by
  refine ⟨stands.prior, ?_, ?_, revision.trans stands.revision, desired.trans stands.desired,
    fun before => named.trans (stands.named before), fun _ => justified, stands.reports⟩
  · dsimp only
    rw [SlaveLifecycle.activation?_setActivation, if_pos rfl]
  · intro other differs
    dsimp only
    rw [SlaveLifecycle.activation?_setActivation, if_neg differs]
    exact stands.others other differs

theorem acts_concat (prior : start.2 <+: trace) (exchange : Exchange LifecycleAnswer)
    (isAct : exchange.query.isContent = false) :
    Acts start (state, trace ++ [exchange]) := by
  obtain ⟨more, rfl⟩ := prior
  refine ⟨exchange, ?_, isAct⟩
  dsimp only
  rw [List.append_assoc, List.drop_left]
  exact List.mem_append_right _ (List.mem_singleton.2 rfl)

/-- An activation that has been set is persisted; where that fails it stands. -/
theorem persist_andThen {α : Type} {rest : Unit → LifecycleOp α} {pluginId code : String}
    {handle : Dict}
    (fence : ∃ retry, lifecycleRetry (start.1.activation? demand.key) demand.desiredState
      demand.packageDigest demand.activationRevision demand.idempotencyKey = .ok retry)
    (stands : Stands env demand start (state, trace) activation)
    (next : ∀ trace', Stands env demand start (state, trace') activation →
      Acts start (state, trace') →
      (rest ()).traced.Ensures ok (state, trace') (Outcome env demand start)) :
    ((Prog.await (.persist package new pluginId handle code) Prog.ofExcept :
      LifecycleOp Unit).bind rest).traced.Ensures ok (state, trace) (Outcome env demand start) := by
  refine .traced_bind ?_
  intro answer allowed
  have exchanged : Stands env demand start
      (state, trace ++ [⟨.persist package new pluginId handle code, answer⟩]) activation := by
    refine stands.keeps rfl fun exchange member => ?_
    rw [List.mem_singleton.1 member]
    rfl
  have acts : Acts start
      (state, trace ++ [⟨.persist package new pluginId handle code, answer⟩]) :=
    acts_concat stands.prior _ rfl
  cases answer with
  | ok value => exact next _ exchanged acts
  | error error => exact exchanged.obeyed fence acts

/-- The first activation that an accepted command sets. -/
theorem Stands.first (same : state.activation? = start.1.activation?)
    (revision : new.activationRevision = demand.activationRevision)
    (desired : new.desiredState = demand.desiredState)
    (named : (∀ old, start.1.activation? demand.key = some old →
      old.packageVersionRef = demand.key) → new.packageVersionRef = demand.key)
    (justified : (∀ old, start.1.activation? demand.key = some old →
      Justified env demand.key old start.2) → Justified env demand.key new start.2) :
    Stands env demand start (apply (LifecycleWrite.setActivation demand.key new) state, start.2)
      new := by
  refine ⟨List.prefix_refl _, ?_, ?_, revision, desired, named, justified, fun _ _ => rfl⟩
  · dsimp only
    rw [SlaveLifecycle.activation?_setActivation, if_pos rfl]
  · intro other differs
    dsimp only
    rw [SlaveLifecycle.activation?_setActivation, if_neg differs, same]

/-- A retry is one of the revision and the desired state that the activation has. -/
theorem lifecycleRetry_true {existing : Option CapabilityPackageActivation}
    {desired : DesiredState} {digest : String} {revision : Nat} {idempotencyKey : String}
    (isRetry : lifecycleRetry existing desired digest revision idempotencyKey = .ok true) :
    ∃ old, existing = some old ∧ old.activationRevision = revision ∧
      old.desiredState = desired := by
  unfold lifecycleRetry at isRetry
  cases existing with
  | none => cases isRetry
  | some old =>
      dsimp only at isRetry
      split at isRetry
      · cases isRetry
      · split at isRetry
        · cases isRetry
        · split at isRetry
          · rename_i sameRevision
            split at isRetry
            · cases isRetry
            · rename_i sameDesired
              exact ⟨old, rfl, sameRevision.symm, by simpa using sameDesired⟩
          · cases isRetry

theorem acceptActivationRevision_ensures {key : String} {retry : Bool}
    {post : LifecyclePoint → Except Exc Unit → Prop}
    (holds : ∀ state', state'.activation? = state.activation? → post (state', trace) (.ok ())) :
    (LifecycleOp.acceptActivationRevision key retry).traced.Ensures ok (state, trace) post := by
  cases retry with
  | true => exact holds state rfl
  | false => exact holds _ (SlaveLifecycle.activation?_unpend state key)

theorem healthReport_ensures {health : HealthState} {revision : Nat}
    {evidenceRefs : List String} {details : Dict}
    {post : LifecyclePoint → Except Exc CapabilityHealthReport → Prop}
    (holds : ∀ state' report, state'.activation? = state.activation? →
      post (state', trace) (.ok report)) :
    ((LifecycleOp.healthReport env settings package health revision evidenceRefs details).bind
      fun report => LifecycleOp.rememberHealthReport package.versionRef report).traced.Ensures ok
        (state, trace) post := by
  refine .traced_bind ?_
  exact holds _ _ (SlaveLifecycle.activation?_slave state .takeUuid)

/-- The shared part of provisioning, where `work` leaves an outcome. -/
theorem acceptProvision_outcome {command : CapabilityProvisionCommand}
    {work : CapabilityPackageActivation → LifecycleOp CapabilityHealthReport}
    (isKey : command.packageVersionRef = package.versionRef)
    (sameDigest : lower package.packageDigest = lower command.packageDigest)
    (works : ∀ pending state' trace',
      (∃ retry, lifecycleRetry (state.activation? command.demand.key) .running
        command.demand.packageDigest command.activationRevision command.idempotencyKey =
          .ok retry) →
      Stands env command.demand (state, trace) (state', trace') pending →
      pending.activationState = .provisioning → Acts (state, trace) (state', trace') →
      (work pending).traced.Ensures ok (state', trace')
        (Outcome env command.demand (state, trace))) :
    (LifecycleOp.acceptProvision env settings command package work).traced.Ensures ok
      (state, trace) (Outcome env command.demand (state, trace)) := by
  have isFence : lifecycleRetry (state.slave.activations.lookup package.versionRef) .running
        package.packageDigest command.activationRevision command.idempotencyKey =
      lifecycleRetry (state.activation? command.demand.key) .running
        command.demand.packageDigest command.activationRevision command.idempotencyKey := by
    rw [lifecycleRetry_congr sameDigest, ← isKey]
    rfl
  unfold LifecycleOp.acceptProvision
  change ((Prog.ofExcept (lifecycleRetry (state.slave.activations.lookup package.versionRef)
    .running package.packageDigest command.activationRevision command.idempotencyKey)).bind _ :
      LifecycleOp CapabilityHealthReport).traced.Ensures ok (state, trace) _
  refine .traced_bind ?_
  rw [Prog.traced_ofExcept]
  refine .ofExcept ?_
  rw [isFence]
  cases isRetry : lifecycleRetry (state.activation? command.demand.key) .running
      command.demand.packageDigest command.activationRevision command.idempotencyKey with
  | error error => exact Or.inl ⟨rfl, ⟨[], (List.append_nil _).symm, by simp⟩, error, rfl⟩
  | ok retry =>
      rw [isRetry] at works
      have isExisting : state.slave.activations.lookup package.versionRef =
          state.activation? command.demand.key := by
        rw [← isKey]
        rfl
      dsimp only
      rw [isExisting]
      refine .traced_bind (acceptActivationRevision_ensures fun middle sameView => ?_)
      dsimp only
      cases isReplay : (state.activation? command.demand.key).filter fun existing =>
          retry && existing.activationState = .ready with
      | some old =>
          obtain ⟨isOld, replays⟩ := Option.filter_eq_some_iff.1 isReplay
          rw [Bool.and_eq_true] at replays
          obtain ⟨isTrue, _⟩ := replays
          rw [isTrue] at isRetry
          obtain ⟨other, isOther, revision, desired⟩ := lifecycleRetry_true isRetry
          cases isOld.symm.trans isOther
          refine healthReport_ensures fun after report sameAfter => ?_
          have kept := sameAfter.trans sameView
          refine Or.inr ⟨⟨retry, isTrue ▸ isRetry⟩, ⟨old, List.prefix_refl _,
            (congrFun kept _).trans isOld, fun other _ => congrFun kept other, revision, desired,
            fun named => named old isOld, fun justified => justified old isOld, fun _ _ => rfl⟩,
            Or.inl ⟨report, rfl⟩⟩
      | none =>
          have stands : Stands env command.demand (state, trace)
              (apply (LifecycleWrite.setActivation package.versionRef
                (LifecycleOp.provisioningActivation settings command package
                  (state.activation? command.demand.key)))
                (apply (LifecycleWrite.cachePackage package command.packageVersionRef) middle),
                trace)
              (LifecycleOp.provisioningActivation settings command package
                (state.activation? command.demand.key)) := by
            rw [← isKey]
            refine Stands.first sameView rfl rfl ?_ ?_
            · intro named
              unfold LifecycleOp.provisioningActivation
              cases isOld : state.activation? command.demand.key with
              | none => exact isKey.symm
              | some old => exact named old isOld
            · intro _ impossible
              cases impossible
          refine persist_andThen ⟨retry, isRetry⟩ stands fun trace' persisted acts => ?_
          exact works _ _ _ ⟨retry, rfl⟩ persisted rfl acts

theorem tell_andThen {α : Type} {update : LifecycleWrite} {rest : Unit → LifecycleOp α}
    {post : LifecyclePoint → Except Exc α → Prop}
    (next : (rest ()).traced.Ensures ok (apply update state, trace) post) :
    ((Prog.tell update).bind rest).traced.Ensures ok (state, trace) post :=
  next

theorem guard_andThen {α : Type} {condition : Prop} [Decidable condition] {error : Exc}
    {rest : Unit → LifecycleOp α}
    (next : condition →
      (rest ()).traced.Ensures ok (state, trace) (Outcome env demand (state, trace))) :
    ((Prog.guard condition error : LifecycleOp Unit).bind rest).traced.Ensures ok (state, trace)
      (Outcome env demand (state, trace)) := by
  refine .traced_bind ?_
  rw [Prog.traced_guard]
  exact .guard next fun _ => Or.inl ⟨rfl, ⟨[], (List.append_nil _).symm, by simp⟩, error, rfl⟩

/-- An exchange on an activation that is not ready. -/
theorem Stands.exchange (stands : Stands env demand start (state, trace) activation)
    (notReady : activation.activationState ≠ .ready) {exchange : Exchange LifecycleAnswer}
    (about : ∀ other, other ≠ demand.key → readiness env other exchange = none) :
    Stands env demand start (state, trace ++ [exchange]) activation := by
  refine ⟨stands.prior.trans (List.prefix_append _ _), stands.current, stands.others,
    stands.revision, stands.desired, stands.named, fun _ isReady => absurd isReady notReady, ?_⟩
  intro other differs
  rw [← stands.reports other differs]
  dsimp only
  rw [lastReadiness_concat, about other differs, Option.none_or]

theorem HealthState.toActivation_eq_ready {health : HealthState}
    (isReady : health.toActivation = .ready) : health = .ready := by
  cases health with
  | ready => rfl
  | _ => cases isReady

/-- What is made of the response of the runtime, once its report is in the trace. -/
theorem finishRuntime_outcome {command : CapabilityProvisionCommand}
    {pending : CapabilityPackageActivation} {response : Dict}
    (isKey : command.packageVersionRef = package.versionRef)
    (fence : ∃ retry, lifecycleRetry (start.1.activation? command.demand.key) .running
      command.demand.packageDigest command.activationRevision command.idempotencyKey = .ok retry)
    (stands : Stands env command.demand start (state, trace) pending)
    (acts : Acts start (state, trace))
    (reported : lastReadiness env command.demand.key trace =
      some (command.activationRevision, decide (provisionedState env response = some .ready))) :
    (LifecycleOp.finishRuntime env settings command package pending response).traced.Ensures ok
      (state, trace) (Outcome env command.demand start) := by
  unfold LifecycleOp.finishRuntime
  cases isState : provisionedState env response with
  | none => exact stands.obeyed fence acts
  | some health =>
      dsimp only
      refine .traced_bind ?_
      rw [Prog.traced_ofExcept]
      refine .ofExcept ?_
      cases responseEvidence env response with
      | error error => exact stands.obeyed fence acts
      | ok evidenceRefs =>
          refine .traced_bind ?_
          rw [Prog.traced_ofExcept]
          refine .ofExcept ?_
          cases env.dictOr (Dict.get response "runtime_profile") with
          | error error => exact stands.obeyed fence acts
          | ok runtimeProfile =>
              have isSet : Stands env command.demand start
                  (apply (LifecycleWrite.setActivation package.versionRef
                    { pending with
                      activationState := health.toActivation, evidenceRefs, runtimeProfile })
                    state, trace)
                  { pending with
                    activationState := health.toActivation, evidenceRefs, runtimeProfile } := by
                rw [← isKey]
                refine stands.set rfl rfl rfl fun isReady => ⟨command.activationRevision, ?_, ?_⟩
                · rw [reported, isState, HealthState.toActivation_eq_ready isReady]
                  simp
                · exact fun _ => stands.revision.symm
              have setActs : Acts start
                  (apply (LifecycleWrite.setActivation package.versionRef
                    { pending with
                      activationState := health.toActivation, evidenceRefs, runtimeProfile })
                    state, trace) := acts
              refine tell_andThen (Rests.obeys ?_ fence isSet setActs)
              refine .bind (.ofExcept _) fun handle => ?_
              split
              · exact .bind (.ofExcept _) fun code => .bind (persist_rests _ _ _ _) fun _ =>
                  .bind (.ofExcept _) fun _ => .bind (healthReport_rests _ _ _ _) fun _ =>
                    announce_rests _ _
              · exact .bind trivial fun code => .bind (persist_rests _ _ _ _) fun _ =>
                  .bind (.ofExcept _) fun _ => .bind (healthReport_rests _ _ _ _) fun _ =>
                    announce_rests _ _

theorem provisionRuntimeLocked_outcome {command : CapabilityProvisionCommand}
    (isKey : command.packageVersionRef = package.versionRef) :
    (LifecycleOp.provisionRuntimeLocked env settings command package).traced.Ensures ok
      (state, trace) (Outcome env command.demand (state, trace)) := by
  refine guard_andThen fun _ => guard_andThen fun sameDigest => ?_
  refine (validatePackageExports_reads _).andThen fun _ more => ?_
  change ((Prog.guard _ _).bind _ : LifecycleOp _).traced.Ensures ok _ _
  refine guard_andThen fun _ => acceptProvision_outcome isKey sameDigest ?_
  intro pending state' trace' fence stands provisioning acts answer allowed
  have about : ∀ other, other ≠ command.demand.key →
      readiness env other ⟨.provision package command, answer⟩ = none := by
    intro other differs
    unfold readiness
    exact if_neg fun same => differs (same.symm.trans isKey.symm)
  have exchanged := stands.exchange (by simp [provisioning]) about
  have acted := acts.append state' [⟨.provision package command, answer⟩]
  cases answer with
  | ok response =>
      refine finishRuntime_outcome isKey fence exchanged acted ?_
      exact lastReadiness_of_report (readiness_provision isKey.symm)
  | error error =>
      dsimp only
      split
      · have isSet : Stands env command.demand (state, trace ++ more)
            (apply (LifecycleWrite.setActivation package.versionRef
              { pending with activationState := .failed }) state',
              trace' ++ [⟨.provision package command, .error error⟩])
            { pending with activationState := .failed } := by
          rw [← isKey]
          exact exchanged.set rfl rfl rfl fun impossible => by cases impossible
        refine persist_andThen fence isSet fun trace'' persisted acted => ?_
        exact persisted.obeyed fence acted
      · exact exchanged.obeyed fence acted

theorem finishExecutor_outcome {command : CapabilityProvisionCommand}
    {pending : CapabilityPackageActivation} {verified : Bool}
    (isKey : command.packageVersionRef = package.versionRef)
    (fence : ∃ retry, lifecycleRetry (start.1.activation? command.demand.key) .running
      command.demand.packageDigest command.activationRevision command.idempotencyKey = .ok retry)
    (stands : Stands env command.demand start (state, trace) pending)
    (reported : lastReadiness env command.demand.key trace =
      some (command.activationRevision, verified)) :
    (LifecycleOp.finishExecutor env settings command package pending verified).traced.Ensures ok
      (state, trace) (Outcome env command.demand start) := by
  unfold LifecycleOp.finishExecutor
  have isSet : ∀ new : CapabilityPackageActivation,
      new.activationRevision = pending.activationRevision →
      new.desiredState = pending.desiredState →
      new.packageVersionRef = pending.packageVersionRef →
      (new.activationState = .ready → verified = true) →
      Stands env command.demand start
        (apply (LifecycleWrite.setActivation package.versionRef new) state, trace) new := by
    intro new revision desired named isReady
    rw [← isKey]
    refine stands.set revision desired named fun ready => ⟨command.activationRevision, ?_, ?_⟩
    · rw [reported, isReady ready]
    · intro _
      exact (revision.trans stands.revision).symm
  cases verified with
  | false =>
      rw [if_pos rfl]
      refine persist_andThen fence (isSet _ rfl rfl rfl fun impossible => by cases impossible)
        fun trace' persisted acted => ?_
      exact persisted.obeyed fence acted
  | true =>
      rw [if_neg (by simp)]
      refine persist_andThen fence (isSet _ rfl rfl rfl fun _ => rfl)
        fun trace' persisted acted => ?_
      cases package.capabilityExports with
      | nil => exact persisted.obeyed fence acted
      | cons exported exports =>
          refine Rests.obeys ?_ fence persisted acted
          exact .bind (healthReport_rests _ _ _ _) fun _ => announce_rests _ _

theorem provisionExecutorLocked_outcome {command : CapabilityProvisionCommand}
    {profile : Option Dict} (isKey : command.packageVersionRef = package.versionRef) :
    (LifecycleOp.provisionExecutorLocked env settings command profile package).traced.Ensures ok
      (state, trace) (Outcome env command.demand (state, trace)) := by
  refine (orInvalid_reads (validatePackageExports_reads _)).andThen fun _ more => ?_
  refine guard_andThen fun sameDigest => ?_
  refine ReadsContent.andThen (.ofExcept _) fun _ further => ?_
  refine acceptProvision_outcome isKey sameDigest ?_
  intro pending state' trace' fence stands provisioning acts
  cases isRef : packageBodyRef env package "program_content_ref" with
  | error error => exact stands.obeyed fence acts
  | ok programRef =>
      dsimp only
      cases Op.digestFromRef programRef with
      | error error => exact stands.obeyed fence acts
      | ok digest =>
          intro answer allowed
          have about : ∀ other, other ≠ command.demand.key →
              readiness env other ⟨.statProgram package command digest, answer⟩ = none := by
            intro other differs
            unfold readiness
            exact if_neg fun same => differs (same.symm.trans isKey.symm)
          have exchanged := stands.exchange (by simp [provisioning]) about
          have acted := acts.append state' [⟨.statProgram package command digest, answer⟩]
          cases answer with
          | error error => exact exchanged.obeyed fence acted
          | ok stat =>
              refine finishExecutor_outcome isKey fence exchanged ?_
              exact lastReadiness_of_report (readiness_statProgram isKey.symm isRef)

/-- A provision command is refused or accepted. -/
theorem provision_outcome {command : CapabilityProvisionCommand} {profile : Option Dict}
    {given : Option CapabilityPackageVersion} :
    (LifecycleOp.provision env settings command profile given).traced.Ensures ok (state, trace)
      (Outcome env command.demand (state, trace)) := by
  refine guard_andThen fun _ => guard_andThen fun _ => ?_
  refine commandPackage_andThen fun package isKey => guard_andThen fun _ => ?_
  split
  · exact provisionRuntimeLocked_outcome isKey
  · exact provisionExecutorLocked_outcome isKey

/-! ### Deprovisioning -/

theorem deprovisionLocked_outcome {command : CapabilityDeprovisionCommand}
    (isKey : command.packageVersionRef = package.versionRef) :
    (LifecycleOp.deprovisionLocked env settings command package).traced.Ensures ok
      (state, trace) (Outcome env command.demand (state, trace)) := by
  refine guard_andThen fun sameDigest => guard_andThen fun _ => ?_
  have isFence : lifecycleRetry (state.slave.activations.lookup package.versionRef) .stopped
        package.packageDigest command.activationRevision command.idempotencyKey =
      lifecycleRetry (state.activation? command.demand.key) .stopped
        command.demand.packageDigest command.activationRevision command.idempotencyKey := by
    rw [lifecycleRetry_congr sameDigest, ← isKey]
    rfl
  have isExisting : state.slave.activations.lookup package.versionRef =
      state.activation? command.demand.key := by
    rw [← isKey]
    rfl
  change ((Prog.ofExcept (lifecycleRetry (state.slave.activations.lookup package.versionRef)
    .stopped package.packageDigest command.activationRevision command.idempotencyKey)).bind _ :
      LifecycleOp CapabilityHealthReport).traced.Ensures ok (state, trace) _
  refine .traced_bind ?_
  rw [Prog.traced_ofExcept]
  refine .ofExcept ?_
  rw [isFence]
  cases isRetry : lifecycleRetry (state.activation? command.demand.key) .stopped
      command.demand.packageDigest command.activationRevision command.idempotencyKey with
  | error error => exact Or.inl ⟨rfl, ⟨[], (List.append_nil _).symm, by simp⟩, error, rfl⟩
  | ok retry =>
      have fence : ∃ retry, lifecycleRetry (state.activation? command.demand.key) .stopped
          command.demand.packageDigest command.activationRevision command.idempotencyKey =
            .ok retry := ⟨retry, isRetry⟩
      dsimp only
      rw [isExisting]
      refine .traced_bind (acceptActivationRevision_ensures fun middle sameView => ?_)
      dsimp only
      have stands : Stands env command.demand (state, trace)
          (apply (LifecycleWrite.setActivation package.versionRef
            (LifecycleOp.stoppingActivation settings command package
              (state.activation? command.demand.key)))
            (apply (LifecycleWrite.cachePackage package command.packageVersionRef) middle), trace)
          (LifecycleOp.stoppingActivation settings command package
            (state.activation? command.demand.key)) := by
        rw [← isKey]
        refine Stands.first sameView rfl rfl ?_ ?_
        · intro named
          unfold LifecycleOp.stoppingActivation
          cases isOld : state.activation? command.demand.key with
          | none => exact isKey.symm
          | some old => exact named old isOld
        · intro justified isReady
          unfold LifecycleOp.stoppingActivation at isReady ⊢
          cases isOld : state.activation? command.demand.key with
          | none =>
              rw [isOld] at isReady
              cases isReady
          | some old =>
              rw [isOld] at isReady
              obtain ⟨revision, isReport, _⟩ := justified old isOld isReady
              exact ⟨revision, isReport, fun impossible => by cases impossible⟩
      refine persist_andThen fence stands fun trace' persisted acts => ?_
      split
      · refine Rests.obeys ?_ fence persisted acts
        exact .bind (healthReport_rests _ _ _ _) fun _ => rememberHealthReport_rests _ _
      · refine get_andThen ?_
        have stops : ∀ {state' : SlaveLifecycle} {trace' : LifecycleTrace}
            {desired : CapabilityPackageActivation},
            Stands env command.demand (state, trace) (state', trace') desired →
            Stands env command.demand (state, trace)
              (apply (LifecycleWrite.setActivation package.versionRef
                { desired with activationState := .stopped }) state', trace')
              { desired with activationState := .stopped } := by
          intro state' trace' desired before
          rw [← isKey]
          exact before.set rfl rfl rfl fun impossible => by cases impossible
        split
        · refine persist_andThen fence (stops persisted) fun trace'' stopped acted => ?_
          refine Rests.obeys ?_ fence stopped acted
          exact .bind (healthReport_rests _ _ _ _) fun _ => rememberHealthReport_rests _ _
        · intro answer allowed
          have silent : ∀ exchange ∈ ([⟨.deprovision package command, answer⟩] : LifecycleTrace),
              exchange.query.isSilent = true := by
            intro exchange member
            rw [List.mem_singleton.1 member]
            rfl
          have exchanged := persisted.keeps rfl silent
          have acted := acts.append (apply (LifecycleWrite.setActivation package.versionRef
            (LifecycleOp.stoppingActivation settings command package
              (state.activation? command.demand.key)))
            (apply (LifecycleWrite.cachePackage package command.packageVersionRef) middle))
            [⟨.deprovision package command, answer⟩]
          cases answer with
          | error error =>
              dsimp only
              split
              · refine persist_andThen fence exchanged fun trace'' again acted => ?_
                exact again.obeyed fence acted
              · exact exchanged.obeyed fence acted
          | ok response =>
              refine persist_andThen fence (stops exchanged) fun trace'' stopped acted => ?_
              refine Rests.obeys ?_ fence stopped acted
              exact .bind (healthReport_rests _ _ _ _) fun _ => announce_rests _ _

/-- A deprovision command is refused or accepted. -/
theorem deprovision_outcome {command : CapabilityDeprovisionCommand}
    {given : Option CapabilityPackageVersion} :
    (LifecycleOp.deprovision env settings command given).traced.Ensures ok (state, trace)
      (Outcome env command.demand (state, trace)) := by
  refine guard_andThen fun _ => commandPackage_andThen fun package isKey => ?_
  exact guard_andThen fun _ => deprovisionLocked_outcome isKey

end Provision

/-! ### Health -/

/-- An inspection takes the state that the runtime reports: an activation that is ready has not been
reported otherwise before, and a call of the runtime that fails raises a `RuntimeError`. -/
def SoundInspection (key : String)
    (answers : (query : LifecycleQuery) → LifecycleAnswer query → Prop) (state : SlaveLifecycle) :
    Prop :=
  (∀ old, state.activation? key = some old → old.activationState = .ready →
    old.desiredState = .running → state.pendingHealthReports.lookup key = none →
    ∀ health, state.lastReportedHealth.lookup key = some (old.activationRevision, health) →
      health = .ready) ∧
  ∀ package activation error, answers (.inspect package activation) (.error error) →
    error.kind = .runtimeError

/-- What a call that is no command does to the activation of a coordinate. -/
structure Inspected (env : Env) (key : String) (sound : Prop) (start after : LifecyclePoint) :
    Prop where
  others : ∀ other, other ≠ key → after.1.activation? other = start.1.activation? other
  kept : ∀ old, start.1.activation? key = some old → ∃ health,
    after.1.activation? key = some { old with activationState := health }
  absent : start.1.activation? key = none → after.1.activation? key = none
  reports : ∀ other, other ≠ key →
    lastReadiness env other after.2 = lastReadiness env other start.2
  justified : sound → ∀ old new, start.1.activation? key = some old →
    after.1.activation? key = some new → Justified env key old start.2 →
    Justified env key new after.2

section Health

variable {env : Env} {settings : SlaveSettings} {state : SlaveLifecycle} {trace : LifecycleTrace}
  {key : String} {sound : Prop} {package : CapabilityPackageVersion}
  {ok : (query : LifecycleQuery) → LifecycleAnswer query → Prop}

/-- Nothing happens to an activation that is not touched. -/
theorem Inspected.rest {after : SlaveLifecycle} {more : LifecycleTrace}
    (same : after.activation? = state.activation?)
    (silent : ∀ exchange ∈ more, exchange.query.isSilent = true) :
    Inspected env key sound (state, trace) (after, trace ++ more) := by
  refine ⟨fun other _ => congrFun same other, fun old isOld => ⟨old.activationState, ?_⟩,
    fun absent => (congrFun same key).trans absent,
    fun other _ => lastReadiness_append trace silent, ?_⟩
  · exact (congrFun same key).trans isOld
  · intro _ old new isOld isNew justified
    cases ((congrFun same key).symm.trans isNew).symm.trans isOld
    unfold Justified at justified ⊢
    dsimp only
    rwa [lastReadiness_append trace silent]

theorem Rests.inspected {α : Type} {program : LifecycleOp α} (rests : Rests program) :
    program.traced.Ensures ok (state, trace) fun after _ =>
      Inspected env key sound (state, trace) after :=
  rests.ensures fun _ _ _ same silent => Inspected.rest same silent

theorem reviewPending_rests (key : String) (pending : CapabilityHealthReport) :
    Rests (LifecycleOp.reviewPending key pending) := by
  unfold LifecycleOp.reviewPending
  intro state
  dsimp only [bind, Prog.bind]
  cases state.slave.activations.lookup key with
  | none => exact .bind ⟨fun _ => rfl, trivial⟩ fun _ => trivial
  | some activation =>
      dsimp only
      split
      · exact .bind ⟨fun _ => rfl, trivial⟩ fun _ => trivial
      · trivial

theorem acknowledgeHealthReport_rests (reportId : String) :
    Rests (LifecycleOp.acknowledgeHealthReport reportId) := by
  unfold LifecycleOp.acknowledgeHealthReport
  intro state
  dsimp only [bind, Prog.bind]
  cases state.pendingHealthReports.find? fun entry => entry.2.reportId = reportId with
  | none => trivial
  | some entry => exact .bind ⟨fun _ => rfl, trivial⟩ fun _ => ⟨fun _ => rfl, trivial⟩

theorem Inspected.refl : Inspected env key sound (state, trace) (state, trace) := by
  have rests := @Inspected.rest env state trace key sound state [] rfl (by simp)
  rwa [List.append_nil] at rests

/-- The activation has the state that was found, or the report has been made before. -/
theorem concludeInspection_inspected {activation : CapabilityPackageActivation}
    {found : HealthState × Dict} {before : LifecycleTrace}
    (isOld : state.activation? key = some activation)
    (reports : ∀ other, other ≠ key →
      lastReadiness env other trace = lastReadiness env other before)
    (skipped : sound → state.lastReportedHealth.lookup key =
        some (activation.activationRevision, found.1) →
      Justified env key activation before → Justified env key activation trace)
    (taken : found.1 = .ready →
      lastReadiness env key trace = some (activation.activationRevision, true)) :
    (LifecycleOp.concludeInspection env settings key package activation found).traced.Ensures ok
      (state, trace) fun after _ => Inspected env key sound (state, before) after := by
  refine get_andThen ?_
  have stays : ∀ {after : SlaveLifecycle} {more : LifecycleTrace}
      {new : CapabilityPackageActivation} {health : ActivationState},
      new = { activation with activationState := health } →
      after.activation? key = some new →
      (∀ other, other ≠ key → after.activation? other = state.activation? other) →
      (∀ exchange ∈ more, exchange.query.isSilent = true) →
      (sound → Justified env key activation before → Justified env key new trace) →
      Inspected env key sound (state, before) (after, trace ++ more) := by
    intro after more new health isNew current others silent justified
    refine ⟨others, fun old isIt => ?_, fun absent => ?_, fun other differs => ?_, ?_⟩
    · cases isOld.symm.trans isIt
      exact ⟨health, isNew ▸ current⟩
    · cases isOld.symm.trans absent
    · rw [← reports other differs]
      exact lastReadiness_append trace silent
    · intro isSound old other isIt isOther before
      cases isOld.symm.trans isIt
      cases current.symm.trans isOther
      have after := justified isSound before
      unfold Justified at after ⊢
      dsimp only
      rwa [lastReadiness_append trace silent]
  have ready : ∀ {new : CapabilityPackageActivation},
      new.activationState = found.1.toActivation →
      new.activationRevision = activation.activationRevision → Justified env key new trace := by
    intro new isState revision isReady
    have isFound := HealthState.toActivation_eq_ready (isState.symm.trans isReady)
    exact ⟨activation.activationRevision, taken isFound, fun _ => revision.symm⟩
  dsimp only
  split
  · rename_i isReported
    have unchanged := @stays state [] activation activation.activationState rfl isOld
      (fun _ _ => rfl) (by simp) fun isSound => skipped isSound isReported
    rwa [List.append_nil] at unchanged
  · split
    · refine tell_andThen (Rests.ensures ?_ fun after more result same silent => ?_)
      · exact .bind (persist_rests _ _ _ _) fun _ => .bind uuid_rests fun _ =>
          .bind ⟨fun _ => rfl, trivial⟩ fun _ => trivial
      · refine @stays after more { activation with activationState := found.1.toActivation }
          found.1.toActivation rfl ?_ ?_ silent fun _ _ => ready rfl rfl
        · rw [same, SlaveLifecycle.activation?_setActivation, if_pos rfl]
        · intro other differs
          rw [same, SlaveLifecycle.activation?_setActivation, if_neg differs]
    · rename_i isState
      have isSame : activation.activationState = found.1.toActivation := by simpa using isState
      refine Rests.ensures ?_ fun after more result same silent => ?_
      · exact .bind trivial fun _ => .bind uuid_rests fun _ =>
          .bind ⟨fun _ => rfl, trivial⟩ fun _ => trivial
      · exact @stays after more activation activation.activationState rfl
          ((congrFun same key).trans isOld) (fun other _ => congrFun same other) silent
          fun _ _ => ready isSame rfl

/-- An inspection takes over what the runtime reports, if it is sound. -/
theorem inspectActivation_inspected
    (named : ∀ old, state.activation? key = some old → old.packageVersionRef = key) :
    (LifecycleOp.inspectActivation env settings key).traced.Ensures ok (state, trace)
      fun after _ => Inspected env key (SoundInspection key ok state) (state, trace) after := by
  refine get_andThen ?_
  cases isOld : state.slave.activations.lookup key with
  | none => exact Inspected.refl
  | some activation =>
      have current : state.activation? key = some activation := isOld
      dsimp only
      split
      · exact Inspected.refl
      · rename_i inspects
        obtain ⟨notPending, running⟩ := not_or.1 inspects
        rw [Option.not_isSome_iff_eq_none] at notPending
        rw [not_not] at running
        cases state.slave.findCachedPackage activation.packageVersionRef
            (some activation.packageDigest) with
        | none => exact Inspected.refl
        | some package =>
            dsimp only
            split
            · exact Inspected.refl
            · refine .traced_bind ?_
              have unasked : ∀ details : Dict,
                  (LifecycleOp.concludeInspection env settings key package activation
                    (.failed, details)).traced.Ensures ok (state, trace) fun after _ =>
                      Inspected env key (SoundInspection key ok state) (state, trace) after :=
                fun details => concludeInspection_inspected current (fun _ _ => rfl)
                  (fun _ _ justified => justified) fun impossible => by cases impossible
              unfold LifecycleOp.inspectState
              split
              · exact unasked []
              · split
                · exact unasked _
                · intro answer allowed
                  have about : ∀ other, other ≠ key →
                      lastReadiness env other
                          (trace ++ [⟨.inspect package activation, answer⟩]) =
                        lastReadiness env other trace := by
                    intro other differs
                    have none : readiness env other ⟨.inspect package activation, answer⟩ =
                      none := by
                      unfold readiness
                      exact if_neg fun same => differs (same.symm.trans (named activation current))
                    rw [lastReadiness_concat, none, Option.none_or]
                  have agrees : SoundInspection key ok state → ∀ health,
                      state.lastReportedHealth.lookup key =
                        some (activation.activationRevision, health) →
                      activation.activationState = .ready → health = .ready :=
                    fun isSound health reported isReady =>
                      isSound.1 activation current isReady running notPending health reported
                  cases answer with
                  | ok inspected =>
                      have reported : lastReadiness env key
                          (trace ++ [⟨.inspect package activation, .ok inspected⟩]) =
                            some (activation.activationRevision,
                              decide (inspectedState inspected = .ready)) :=
                        lastReadiness_of_report (readiness_inspect (named activation current))
                      change (LifecycleOp.concludeInspection env settings key package activation
                        (inspectedState inspected, [("inspect", .obj inspected)])).traced.Ensures ok
                          (state, trace ++ [⟨.inspect package activation, .ok inspected⟩]) _
                      refine concludeInspection_inspected current about ?_ ?_
                      · intro isSound isReported _ isReady
                        have isFound := agrees isSound _ isReported isReady
                        refine ⟨activation.activationRevision, ?_, fun _ => rfl⟩
                        rw [reported, decide_eq_true isFound]
                      · intro isFound
                        rw [reported, decide_eq_true isFound]
                  | error error =>
                      dsimp only
                      split
                      · change (LifecycleOp.concludeInspection env settings key package activation
                          (.failed, [("code", .str error.text)])).traced.Ensures ok
                            (state, trace ++ [⟨.inspect package activation, .error error⟩]) _
                        refine concludeInspection_inspected current about ?_ ?_
                        · intro isSound isReported _ isReady
                          cases agrees isSound _ isReported isReady
                        · intro impossible
                          cases impossible
                      · rename_i uncaught
                        refine ⟨fun _ _ => rfl, fun old isIt => ⟨old.activationState, isIt⟩,
                          fun absent => absent, about, fun isSound => ?_⟩
                        exact absurd (isSound.2 package activation error allowed) uncaught

end Health

/-! ### Histories of a Slave -/

/-- A call that holds the lock of a package coordinate, or, for `acknowledge`, needs none. -/
inductive LifecycleCall where
  | provision (command : CapabilityProvisionCommand) (profile : Option Dict)
      (package : Option CapabilityPackageVersion)
  | deprovision (command : CapabilityDeprovisionCommand)
      (package : Option CapabilityPackageVersion)
  | review (key : String) (pending : CapabilityHealthReport)
  | inspect (key : String)
  | acknowledge (reportId : String)
  deriving Repr, DecidableEq, Inhabited

namespace LifecycleCall

def prog (env : Env) (settings : SlaveSettings) : LifecycleCall → LifecycleOp Unit
  | .provision command profile package =>
      (LifecycleOp.provision env settings command profile package).map fun _ => ()
  | .deprovision command package =>
      (LifecycleOp.deprovision env settings command package).map fun _ => ()
  | .review key pending => (LifecycleOp.reviewPending key pending).map fun _ => ()
  | .inspect key => (LifecycleOp.inspectActivation env settings key).map fun _ => ()
  | .acknowledge reportId => LifecycleOp.acknowledgeHealthReport reportId

/-- What a call demands, where it is a command. -/
def demand? : LifecycleCall → Option Demand
  | .provision command _ _ => some command.demand
  | .deprovision command _ => some command.demand
  | .review _ _ | .inspect _ | .acknowledge _ => none

end LifecycleCall

/-- A call of a Slave that has been completed. -/
abbrev LifecycleEntry := Entry LifecyclePoint Exc LifecycleAnswer Unit LifecycleCall

/-- The calls of a Slave that starts without activations.  Any call of the stores and of the runtime
may fail, and the runtime may answer anything. -/
def SlaveHistory (env : Env) (settings : SlaveSettings) (entries : List LifecycleEntry)
    (point : LifecyclePoint) : Prop :=
  History (fun call => (call.prog env settings).traced) (fun _ _ => True) ({}, []) entries point

/-- The inspections of a call are sound. -/
def SoundEntry (entry : LifecycleEntry) : Prop :=
  ∀ key, entry.label = .inspect key → SoundInspection key entry.answers entry.before.1

/-- Every activation is stored under its own coordinate. -/
def Named (point : LifecyclePoint) : Prop :=
  ∀ key activation, point.1.activation? key = some activation →
    activation.packageVersionRef = key

section Calls

variable {env : Env} {settings : SlaveSettings} {entry : LifecycleEntry}
  {ok : (query : LifecycleQuery) → LifecycleAnswer query → Prop}

theorem Outcome.forget {α β : Type} {demand : Demand} {start after : LifecyclePoint}
    {result : Except Exc α} (change : α → β) (outcome : Outcome env demand start after result) :
    Outcome env demand start after (result.map change) := by
  rcases outcome with ⟨state, trace, error, isError⟩ | ⟨fence, stands, seen⟩
  · refine Or.inl ⟨state, trace, error, ?_⟩
    rw [isError]
    rfl
  · refine Or.inr ⟨fence, stands, ?_⟩
    rcases seen with ⟨value, isValue⟩ | acts
    · refine Or.inl ⟨change value, ?_⟩
      rw [isValue]
      rfl
    · exact Or.inr acts

theorem traced_map_ensures {α β : Type} {program : LifecycleOp α} {change : α → β}
    {point : LifecyclePoint} {post : LifecyclePoint → Except Exc β → Prop}
    (ensures : program.traced.Ensures ok point fun after result =>
      post after (result.map change)) :
    (program.map change).traced.Ensures ok point post := by
  refine .traced_bind (ensures.mono fun after result holds => ?_)
  cases result with
  | ok value => exact holds
  | error error => exact holds

theorem Inspected.mono {key : String} {sound more : Prop} {start after : LifecyclePoint}
    (inspected : Inspected env key sound start after) (implies : more → sound) :
    Inspected env key more start after :=
  ⟨inspected.others, inspected.kept, inspected.absent, inspected.reports,
    fun holds => inspected.justified (implies holds)⟩

/-- What a call does: a command is refused or accepted, and any other call inspects at most one
activation. -/
theorem call_effect (named : Named entry.before)
    (runs : (entry.label.prog env settings).traced.Runs entry.answers entry.before entry.after
      entry.result) :
    (∃ demand, entry.label.demand? = some demand ∧
      Outcome env demand entry.before entry.after entry.result) ∨
    (entry.label.demand? = none ∧
      ∃ key, Inspected env key (SoundEntry entry) entry.before entry.after) := by
  obtain ⟨label, answers, before, after, result⟩ := entry
  obtain ⟨state, trace⟩ := before
  cases label with
  | provision command profile package =>
      refine Or.inl ⟨command.demand, rfl, ?_⟩
      have ensures : (LifecycleCall.prog env settings
          (.provision command profile package)).traced.Ensures answers (state, trace)
            (Outcome env command.demand (state, trace)) :=
        traced_map_ensures ((provision_outcome).mono fun _ _ outcome => outcome.forget _)
      exact ensures.runs runs
  | deprovision command package =>
      refine Or.inl ⟨command.demand, rfl, ?_⟩
      have ensures : (LifecycleCall.prog env settings
          (.deprovision command package)).traced.Ensures answers (state, trace)
            (Outcome env command.demand (state, trace)) :=
        traced_map_ensures ((deprovision_outcome).mono fun _ _ outcome => outcome.forget _)
      exact ensures.runs runs
  | review key pending =>
      refine Or.inr ⟨rfl, key, ?_⟩
      have rests : Rests (LifecycleCall.prog env settings (.review key pending)) :=
        .bind (reviewPending_rests key pending) fun _ => trivial
      exact rests.inspected.runs runs
  | acknowledge reportId =>
      refine Or.inr ⟨rfl, "", ?_⟩
      exact (acknowledgeHealthReport_rests reportId).inspected.runs runs
  | inspect key =>
      refine Or.inr ⟨rfl, key, ?_⟩
      have ensures : (LifecycleCall.prog env settings (.inspect key)).traced.Ensures answers
          (state, trace) fun after _ =>
            Inspected env key (SoundInspection key answers state) (state, trace) after :=
        traced_map_ensures (inspectActivation_inspected (named key))
      exact (ensures.runs runs).mono fun isSound => isSound key rfl

/-- What the fence lets through. -/
theorem lifecycleRetry_ok {old : CapabilityPackageActivation} {desired : DesiredState}
    {digest idempotencyKey : String} {revision : Nat} {retry : Bool}
    (isOk : lifecycleRetry (some old) desired digest revision idempotencyKey = .ok retry) :
    lower old.packageDigest = lower digest ∧ old.activationRevision ≤ revision ∧
      (revision = old.activationRevision → old.desiredState = desired) := by
  unfold lifecycleRetry at isOk
  dsimp only at isOk
  split at isOk
  · cases isOk
  · rename_i sameDigest
    split at isOk
    · cases isOk
    · rename_i notStale
      refine ⟨by simpa using sameDigest, by omega, fun sameRevision => ?_⟩
      rw [if_pos sameRevision] at isOk
      split at isOk
      · cases isOk
      · rename_i sameDesired
        simpa using sameDesired

/-- A command that the activation of its coordinate leaves behind: of a lower revision, of the same
revision with another desired state, or of another package. -/
def Demand.Stale (demand : Demand) (state : SlaveLifecycle) : Prop :=
  ∃ old, state.activation? demand.key = some old ∧
    (demand.activationRevision < old.activationRevision ∨
      (demand.activationRevision = old.activationRevision ∧
        demand.desiredState ≠ old.desiredState) ∨
      lower demand.packageDigest ≠ lower old.packageDigest)

theorem Outcome.refused {α : Type} {demand : Demand} {start after : LifecyclePoint}
    {result : Except Exc α} (outcome : Outcome env demand start after result)
    (stale : demand.Stale start.1) : Refused start after result := by
  rcases outcome with refused | obeyed
  · exact refused
  · obtain ⟨old, isOld, isStale⟩ := stale
    obtain ⟨retry, isRetry⟩ := obeyed.fence
    rw [isOld] at isRetry
    obtain ⟨sameDigest, le, sameDesired⟩ := lifecycleRetry_ok isRetry
    rcases isStale with lt | ⟨sameRevision, otherDesired⟩ | otherDigest
    · omega
    · exact absurd (sameDesired sameRevision).symm otherDesired
    · exact absurd sameDigest.symm otherDigest

/-- An activation is followed by one of no lower revision, and of the same desired state where the
revision is the same. -/
def CapabilityPackageActivation.Precedes (old new : CapabilityPackageActivation) : Prop :=
  old.activationRevision ≤ new.activationRevision ∧
    (old.activationRevision = new.activationRevision → old.desiredState = new.desiredState)

/-- No call lets the revision of an activation decrease. -/
theorem call_precedes (named : Named entry.before)
    (runs : (entry.label.prog env settings).traced.Runs entry.answers entry.before entry.after
      entry.result) (key : String) {old : CapabilityPackageActivation}
    (isOld : entry.before.1.activation? key = some old) :
    ∃ new, entry.after.1.activation? key = some new ∧ old.Precedes new := by
  rcases call_effect named runs with ⟨demand, _, refused | obeyed⟩ | ⟨_, inspectedKey, inspected⟩
  · exact ⟨old, (congrArg (fun state => state.activation? key) refused.state).trans isOld,
      Nat.le_refl _, fun _ => rfl⟩
  · obtain ⟨activation, stands⟩ := obeyed.stands
    by_cases same : key = demand.key
    · subst same
      obtain ⟨retry, isRetry⟩ := obeyed.fence
      rw [isOld] at isRetry
      obtain ⟨_, le, sameDesired⟩ := lifecycleRetry_ok isRetry
      refine ⟨activation, stands.current, ?_, fun sameRevision => ?_⟩
      · rw [stands.revision]
        exact le
      · rw [stands.desired]
        rw [stands.revision] at sameRevision
        exact sameDesired sameRevision.symm
    · exact ⟨old, (stands.others key same).trans isOld, Nat.le_refl _, fun _ => rfl⟩
  · by_cases same : key = inspectedKey
    · subst same
      obtain ⟨health, isNew⟩ := inspected.kept old isOld
      exact ⟨_, isNew, Nat.le_refl _, fun _ => rfl⟩
    · exact ⟨old, (inspected.others key same).trans isOld, Nat.le_refl _, fun _ => rfl⟩

theorem call_named (named : Named entry.before)
    (runs : (entry.label.prog env settings).traced.Runs entry.answers entry.before entry.after
      entry.result) : Named entry.after := by
  intro key activation isNew
  rcases call_effect named runs with ⟨demand, _, refused | obeyed⟩ | ⟨_, inspectedKey, inspected⟩
  · rw [refused.state] at isNew
    exact named key activation isNew
  · obtain ⟨other, stands⟩ := obeyed.stands
    by_cases same : key = demand.key
    · subst same
      cases stands.current.symm.trans isNew
      exact stands.named (named demand.key)
    · exact named key activation ((stands.others key same).symm.trans isNew)
  · by_cases same : key = inspectedKey
    · subst same
      cases isOld : entry.before.1.activation? key with
      | none => cases (inspected.absent isOld).symm.trans isNew
      | some old =>
          obtain ⟨health, isKept⟩ := inspected.kept old isOld
          cases isKept.symm.trans isNew
          exact named key old isOld
    · exact named key activation ((inspected.others key same).symm.trans isNew)

/-- Every activation of a point is justified. -/
def AllJustified (env : Env) (point : LifecyclePoint) : Prop :=
  ∀ key activation, point.1.activation? key = some activation →
    Justified env key activation point.2

theorem call_justified (named : Named entry.before) (isSound : SoundEntry entry)
    (runs : (entry.label.prog env settings).traced.Runs entry.answers entry.before entry.after
      entry.result) (justified : AllJustified env entry.before) :
    AllJustified env entry.after := by
  intro key activation isNew
  rcases call_effect named runs with ⟨demand, _, refused | obeyed⟩ | ⟨_, inspectedKey, inspected⟩
  · obtain ⟨more, isTrace, content⟩ := refused.trace
    rw [refused.state] at isNew
    have before := justified key activation isNew
    unfold Justified at before ⊢
    rwa [isTrace, lastReadiness_append _ fun exchange member =>
      LifecycleQuery.isSilent_of_isContent (content exchange member)]
  · obtain ⟨other, stands⟩ := obeyed.stands
    by_cases same : key = demand.key
    · subst same
      cases stands.current.symm.trans isNew
      exact stands.justified (justified demand.key)
    · have before := justified key activation ((stands.others key same).symm.trans isNew)
      unfold Justified at before ⊢
      rwa [stands.reports key same]
  · by_cases same : key = inspectedKey
    · subst same
      cases isOld : entry.before.1.activation? key with
      | none => cases (inspected.absent isOld).symm.trans isNew
      | some old =>
          exact inspected.justified isSound old activation isOld isNew (justified key old isOld)
    · have before := justified key activation ((inspected.others key same).symm.trans isNew)
      unfold Justified at before ⊢
      rwa [inspected.reports key same]

/-- A command has been accepted: it returned, or it went on to the stores or the runtime. -/
def AcceptedEntry (entry : LifecycleEntry) (demand : Demand) : Prop :=
  entry.label.demand? = some demand ∧ (entry.result = .ok () ∨ Acts entry.before entry.after)

/-- An accepted command determines the activation of its coordinate. -/
theorem AcceptedEntry.current {demand : Demand} (accepted : AcceptedEntry entry demand)
    (named : Named entry.before)
    (runs : (entry.label.prog env settings).traced.Runs entry.answers entry.before entry.after
      entry.result) :
    ∃ activation, entry.after.1.activation? demand.key = some activation ∧
      activation.activationRevision = demand.activationRevision ∧
      activation.desiredState = demand.desiredState := by
  rcases call_effect named runs with ⟨other, isDemand, refused | obeyed⟩ | ⟨isNone, _⟩
  · exfalso
    rcases accepted.2 with returned | ⟨exchange, member, acts⟩
    · obtain ⟨error, isError⟩ := refused.raises
      cases returned.symm.trans isError
    · obtain ⟨more, isTrace, content⟩ := refused.trace
      rw [isTrace, List.drop_left] at member
      rw [content exchange member] at acts
      cases acts
  · cases accepted.1.symm.trans isDemand
    obtain ⟨activation, stands⟩ := obeyed.stands
    exact ⟨activation, stands.current, stands.revision, stands.desired⟩
  · cases accepted.1.symm.trans isNone

/-- An activation that a call has changed was changed by a command that it accepted. -/
theorem call_issued (named : Named entry.before)
    (runs : (entry.label.prog env settings).traced.Runs entry.answers entry.before entry.after
      entry.result) {key : String} {activation : CapabilityPackageActivation}
    (isNew : entry.after.1.activation? key = some activation) :
    (∃ demand, AcceptedEntry entry demand ∧ demand.key = key ∧
      demand.activationRevision = activation.activationRevision ∧
      demand.desiredState = activation.desiredState) ∨
    ∃ old, entry.before.1.activation? key = some old ∧
      old.activationRevision = activation.activationRevision ∧
      old.desiredState = activation.desiredState := by
  rcases call_effect named runs with
    ⟨demand, isDemand, refused | obeyed⟩ | ⟨_, inspectedKey, inspected⟩
  · rw [refused.state] at isNew
    exact Or.inr ⟨activation, isNew, rfl, rfl⟩
  · obtain ⟨other, stands⟩ := obeyed.stands
    by_cases same : key = demand.key
    · subst same
      cases stands.current.symm.trans isNew
      refine Or.inl ⟨demand, ⟨isDemand, ?_⟩, rfl, stands.revision.symm, stands.desired.symm⟩
      rcases obeyed.seen with ⟨value, returned⟩ | acts
      · exact Or.inl returned
      · exact Or.inr acts
    · exact Or.inr ⟨activation, (stands.others key same).symm.trans isNew, rfl, rfl⟩
  · by_cases same : key = inspectedKey
    · subst same
      cases isOld : entry.before.1.activation? key with
      | none => cases (inspected.absent isOld).symm.trans isNew
      | some old =>
          obtain ⟨health, isKept⟩ := inspected.kept old isOld
          cases isKept.symm.trans isNew
          exact Or.inr ⟨old, rfl, rfl, rfl⟩
    · exact Or.inr ⟨activation, (inspected.others key same).symm.trans isNew, rfl, rfl⟩

/-- The activations follow the accepted commands of the highest revision. -/
structure FollowsCommands (entries : List LifecycleEntry) (point : LifecyclePoint) : Prop where
  issued : ∀ key activation, point.1.activation? key = some activation →
    ∃ entry ∈ entries, ∃ demand, AcceptedEntry entry demand ∧ demand.key = key ∧
      demand.activationRevision = activation.activationRevision ∧
      demand.desiredState = activation.desiredState
  latest : ∀ entry ∈ entries, ∀ demand, AcceptedEntry entry demand →
    ∃ activation, point.1.activation? demand.key = some activation ∧
      demand.activationRevision ≤ activation.activationRevision ∧
      (demand.activationRevision = activation.activationRevision →
        demand.desiredState = activation.desiredState)

end Calls

section Histories

variable {env : Env} {settings : SlaveSettings} {entries : List LifecycleEntry}
  {point : LifecyclePoint}

theorem SlaveHistory.named (history : SlaveHistory env settings entries point) :
    ∀ entry ∈ entries, Named entry.before := by
  refine history.preserves_at (fun entry member named => ?_) ?_
  · exact call_named named (history.runs_answered entry member).1
  · intro key activation impossible
    cases impossible

theorem SlaveHistory.follows (history : SlaveHistory env settings entries point) :
    FollowsCommands entries point := by
  have named := history.named
  unfold SlaveHistory at history
  induction history with
  | nil =>
      constructor
      · intro key activation impossible
        cases impossible
      · intro entry member
        cases member
  | @call entries before after result history label answers allowed runs ih =>
      have earlier := ih fun entry member => named entry (List.mem_append_left _ member)
      have isLast : (⟨label, answers, before, after, result⟩ : LifecycleEntry) ∈
          entries ++ [⟨label, answers, before, after, result⟩] := by simp
      have namedLast := named _ isLast
      constructor
      · intro key activation isNew
        rcases call_issued namedLast runs isNew with
          ⟨demand, accepted, facts⟩ | ⟨old, isOld, revision, desired⟩
        · exact ⟨_, isLast, demand, accepted, facts⟩
        · obtain ⟨entry, member, demand, accepted, sameKey, sameRevision, sameDesired⟩ :=
            earlier.issued key old isOld
          exact ⟨entry, List.mem_append_left _ member, demand, accepted, sameKey,
            sameRevision.trans revision, sameDesired.trans desired⟩
      · intro entry member demand accepted
        rcases List.mem_append.1 member with member | member
        · obtain ⟨old, isOld, le, sameDesired⟩ := earlier.latest entry member demand accepted
          obtain ⟨new, isNew, precedes⟩ := call_precedes namedLast runs demand.key isOld
          refine ⟨new, isNew, Nat.le_trans le precedes.1, fun sameRevision => ?_⟩
          have between : old.activationRevision = new.activationRevision := by
            have := precedes.1
            omega
          exact (sameDesired (sameRevision.trans between.symm)).trans (precedes.2 between)
        · rw [List.mem_singleton.1 member] at accepted
          obtain ⟨activation, isNew, revision, desired⟩ := accepted.current namedLast runs
          exact ⟨activation, isNew, Nat.le_of_eq revision.symm, fun _ => desired.symm⟩

/-- For every history of lifecycle calls of a Slave: no call lets the revision of an activation
decrease; a stale command raises and has only read content; the desired state is that of the
accepted command with the highest revision; and, if the inspections are sound, an activation is
ready only as the last report of the runtime on it says. -/
theorem lifecycle_fenced (history : SlaveHistory env settings entries point) :
    (∀ entry ∈ entries, ∀ key old, entry.before.1.activation? key = some old →
      ∃ new, entry.after.1.activation? key = some new ∧
        old.activationRevision ≤ new.activationRevision) ∧
    (∀ entry ∈ entries, ∀ demand, entry.label.demand? = some demand →
      demand.Stale entry.before.1 → Refused entry.before entry.after entry.result) ∧
    FollowsCommands entries point ∧
    ((∀ entry ∈ entries, SoundEntry entry) → ∀ key activation,
      point.1.activation? key = some activation → Justified env key activation point.2) := by
  have runs := fun entry member => (history.runs_answered entry member).1
  refine ⟨?_, ?_, history.follows, ?_⟩
  · intro entry member key old isOld
    obtain ⟨new, isNew, precedes⟩ :=
      call_precedes (history.named entry member) (runs entry member) key isOld
    exact ⟨new, isNew, precedes.1⟩
  · intro entry member demand isDemand stale
    rcases call_effect (history.named entry member) (runs entry member) with
      ⟨other, isOther, outcome⟩ | ⟨isNone, _⟩
    · cases isDemand.symm.trans isOther
      exact outcome.refused stale
    · cases isDemand.symm.trans isNone
  · intro isSound
    have all : AllJustified env point := by
      refine history.preserves (fun entry member justified => ?_) ?_
      · exact call_justified (history.named entry member) (isSound entry member)
          (runs entry member) justified
      · intro key activation impossible
        cases impossible
    exact all

end Histories

/-! ### Whole inspections -/

section Inspections

variable {env : Env} {settings : SlaveSettings}
  {ok : (query : LifecycleQuery) → LifecycleAnswer query → Prop} {start point : LifecyclePoint}

/-- A run of a program is a history of calls that are no commands. -/
def IsInspection {α : Type} (env : Env) (settings : SlaveSettings)
    (ok : (query : LifecycleQuery) → LifecycleAnswer query → Prop) (program : LifecycleOp α) :
    Prop :=
  ∀ start point result, program.traced.Runs ok start point result →
    ∃ entries : List LifecycleEntry,
      History (fun call => (call.prog env settings).traced) ok start entries point ∧
        ∀ entry ∈ entries, entry.label.demand? = none

theorem IsInspection.ret {α : Type} (value : α) :
    IsInspection env settings ok (.ret value : LifecycleOp α) := by
  intro start point result runs
  cases runs with
  | ret => exact ⟨[], .nil, by simp⟩

theorem IsInspection.bind {α β : Type} {program : LifecycleOp α} {rest : α → LifecycleOp β}
    (first : IsInspection env settings ok program)
    (second : ∀ value, IsInspection env settings ok (rest value)) :
    IsInspection env settings ok (program.bind rest) := by
  intro start point result runs
  rw [Prog.traced_bind] at runs
  rcases runs.of_bind with ⟨middle, value, earlier, later⟩ | ⟨error, raised, _⟩
  · obtain ⟨entries, history, none⟩ := first start middle _ earlier
    obtain ⟨more, further, noneFurther⟩ := second value middle point _ later
    refine ⟨entries ++ more, history.append further, fun entry member => ?_⟩
    rcases List.mem_append.1 member with member | member
    · exact none entry member
    · exact noneFurther entry member
  · exact first start point _ raised

/-- One call whose result is not used. -/
theorem IsInspection.call {α : Type} {program : LifecycleOp α} (call : LifecycleCall)
    (isCall : call.prog env settings = program.map fun _ => ()) (none : call.demand? = none) :
    IsInspection env settings ok program := by
  intro start point result runs
  have mapped : ∃ result, (call.prog env settings).traced.Runs ok start point result := by
    rw [isCall]
    unfold Prog.map
    rw [Prog.traced_bind]
    cases result with
    | ok value => exact ⟨_, .bind runs .ret⟩
    | error error => exact ⟨_, runs.bind_error⟩
  obtain ⟨result', runs'⟩ := mapped
  have history : History (fun call : LifecycleCall => (call.prog env settings).traced) ok start []
      start := .nil
  refine ⟨_, history.call call ok (fun _ _ allowed => allowed) runs', fun entry member => ?_⟩
  rw [List.nil_append, List.mem_singleton] at member
  rw [member]
  exact none

/-- A run of `inspect_activation_health` is a history of the calls under its locks. -/
theorem inspectActivationHealth_isInspection :
    IsInspection env settings ok (LifecycleOp.inspectActivationHealth env settings) := by
  have reviews : ∀ entries, IsInspection env settings ok (LifecycleOp.reviewAll entries) := by
    intro entries
    induction entries with
    | nil => exact .ret _
    | cons entry entries ih =>
        exact .bind (.call (.review entry.1 entry.2) rfl rfl) fun _ => .bind ih fun _ => .ret _
  have inspects : ∀ keys, IsInspection env settings ok
      (LifecycleOp.inspectAll env settings keys) := by
    intro keys
    induction keys with
    | nil => exact .ret _
    | cons key keys ih =>
        exact .bind (.call (.inspect key) rfl rfl) fun _ => .bind ih fun _ => .ret _
  have reads : IsInspection env settings ok (Prog.get : LifecycleOp SlaveLifecycle) := by
    intro start point result runs
    cases runs with
    | read runs =>
        cases runs with
        | ret => exact ⟨[], .nil, by simp⟩
  exact .bind reads fun _ => .bind (reviews _) fun _ => .bind reads fun _ =>
    .bind (inspects _) fun _ => .ret _

end Inspections

namespace LifecycleDemo

def env : Env := { Demo.env with packageDigest := fun _ => .ok "digest" }

def settings : SlaveSettings := { slaveId := "slave-a" }

def key : String := "capability-package://double/v1"

/-- A package that runs in a container. -/
def package : CapabilityPackageVersion :=
  { Demo.package "double" "container:http" "package-closure-2" [] with
    packageType := "service", packageDigest := "digest" }

def provisions (revision : Nat) : LifecycleCall :=
  .provision
    { commandId := "command", packageVersionRef := key, packageDigest := "digest"
      targetSlave := "slave-a", idempotencyKey := "key", activationRevision := revision } none
    (some package)

def deprovisions (revision : Nat) : LifecycleCall :=
  .deprovision
    { commandId := "command", packageVersionRef := key, packageDigest := "digest"
      targetSlave := "slave-a", idempotencyKey := "key", activationRevision := revision } none

/-- The answers around a Slave, with those of the runtime and of the database. -/
def world (provisioned : String) (inspected : Dict) (persists : Bool) :
    (query : LifecycleQuery) → LifecycleAnswer query
  | .content (.contentGet digest) => .ok (Demo.contentOf digest)
  | .content (.contentPut _ _) => .ok ()
  | .content (.storedAttempt _) => .ok none
  | .content (.storeAttempt _ _) => .ok ()
  | .content (.runProgram _ _) => .ok .null
  | .content (.invokePlugin _ _ _ _ _) => .ok []
  | .statProgram _ _ _ => .ok none
  | .persist _ _ _ _ _ => if persists then .ok () else .error ⟨.other, "database is locked"⟩
  | .provision _ _ => .ok [("activation_state", .str provisioned)]
  | .deprovision _ _ => .ok []
  | .inspect _ _ => .ok inspected

def healthy : Dict := [("identity_match", .bool true), ("healthy", .bool true)]

def unhealthy : Dict := [("exists", .bool true), ("running", .bool true)]

/-- Calls with the answers around them. -/
def played (calls : List (LifecycleCall × ((query : LifecycleQuery) → LifecycleAnswer query))) :
    List LifecycleEntry × LifecyclePoint :=
  play (fun call => (call.prog env settings).traced) calls ({}, [])

theorem played_history
    (calls : List (LifecycleCall × ((query : LifecycleQuery) → LifecycleAnswer query))) :
    SlaveHistory env settings (played calls).1 (played calls).2 :=
  History.of_play calls (fun _ _ _ => trivial) _

/-- A package is provisioned and inspected, and a command of a lower revision comes late. -/
def fencedCalls : List (LifecycleCall × ((query : LifecycleQuery) → LifecycleAnswer query)) :=
  [(provisions 2, world "ready" [] true), (.inspect key, world "" healthy true),
    (deprovisions 1, world "" [] true)]

/-- The runtime is found healthy, but that cannot be stored; then it is found degraded, as it was
after it was provisioned. -/
def skippedCalls : List (LifecycleCall × ((query : LifecycleQuery) → LifecycleAnswer query)) :=
  [(provisions 1, world "degraded" [] true), (.inspect key, world "" healthy false),
    (.inspect key, world "" unhealthy true)]

/-- Whether an activation that is inspected has not been reported otherwise. -/
def isSound (entry : LifecycleEntry) : Bool :=
  match entry.label with
  | .inspect key =>
      match entry.before.1.activation? key, entry.before.1.lastReportedHealth.lookup key with
      | some old, some (revision, health) =>
          old.activationState ≠ .ready || revision ≠ old.activationRevision || health = .ready
      | _, _ => true
  | _ => true

theorem soundEntry_of_isSound
    {calls : List (LifecycleCall × ((query : LifecycleQuery) → LifecycleAnswer query))}
    (answers : ∀ call ∈ calls, ∀ package activation,
      (call.2 (.inspect package activation)).toBool = true)
    {entry : LifecycleEntry} (member : entry ∈ (played calls).1) (checked : isSound entry = true) :
    SoundEntry entry := by
  intro key isInspect
  unfold isSound at checked
  rw [isInspect] at checked
  dsimp only at checked
  refine ⟨fun old isOld isReady _ _ health reported => ?_,
    fun package activation error raised => ?_⟩
  · rw [isOld, reported] at checked
    simpa [isReady] using checked
  · obtain ⟨call, isCall, _, isAnswers⟩ := mem_play _ _ entry member
    rw [isAnswers] at raised
    have answered := answers call isCall package activation
    rw [← show _ = call.2 (.inspect package activation) from raised] at answered
    cases answered

end LifecycleDemo

/-- A package that is provisioned, inspected and kept from a late command: it is ready as the
runtime has last reported. -/
theorem late_command_fenced :
    ∃ activation, (LifecycleDemo.played LifecycleDemo.fencedCalls).2.1.activation?
        LifecycleDemo.key = some activation ∧
      activation.activationState = .ready ∧
      Justified LifecycleDemo.env LifecycleDemo.key activation
        (LifecycleDemo.played LifecycleDemo.fencedCalls).2.2 := by
  have facts : ((LifecycleDemo.played LifecycleDemo.fencedCalls).2.1.activation?
        LifecycleDemo.key).map CapabilityPackageActivation.activationState = some .ready ∧
      (LifecycleDemo.played LifecycleDemo.fencedCalls).1.all LifecycleDemo.isSound = true := by
    decide +kernel
  obtain ⟨activation, isCurrent, isReady⟩ := Option.map_eq_some_iff.1 facts.1
  have fenced := lifecycle_fenced (LifecycleDemo.played_history LifecycleDemo.fencedCalls)
  refine ⟨activation, isCurrent, isReady, fenced.2.2.2 (fun entry member => ?_) _ _ isCurrent⟩
  refine LifecycleDemo.soundEntry_of_isSound ?_ member (List.all_eq_true.1 facts.2 entry member)
  intro call isCall package activation
  simp only [LifecycleDemo.fencedCalls, List.mem_cons, List.not_mem_nil, or_false] at isCall
  rcases isCall with rfl | rfl | rfl
  · rfl
  · rfl
  · rfl

/-- An activation that stays ready although the runtime has last reported that it is degraded: the
same report had been made before. -/
theorem repeated_report_skipped :
    ∃ entries point, SlaveHistory LifecycleDemo.env LifecycleDemo.settings entries point ∧
      ∃ activation, point.1.activation? LifecycleDemo.key = some activation ∧
        activation.desiredState = .running ∧
        ¬Justified LifecycleDemo.env LifecycleDemo.key activation point.2 := by
  refine ⟨_, _, LifecycleDemo.played_history LifecycleDemo.skippedCalls, ?_⟩
  have facts : ((LifecycleDemo.played LifecycleDemo.skippedCalls).2.1.activation?
        LifecycleDemo.key).map (fun activation =>
          (activation.activationState, activation.desiredState)) = some (.ready, .running) ∧
      lastReadiness LifecycleDemo.env LifecycleDemo.key
        (LifecycleDemo.played LifecycleDemo.skippedCalls).2.2 = some (1, false) := by
    decide +kernel
  obtain ⟨activation, isCurrent, isState⟩ := Option.map_eq_some_iff.1 facts.1
  rw [Prod.mk.injEq] at isState
  refine ⟨activation, isCurrent, isState.2, fun justified => ?_⟩
  obtain ⟨revision, isReport, _⟩ := justified isState.1
  cases facts.2.symm.trans isReport

end Loom
