import Loom.Slave.Blocks

/-!
# The calls of a Slave

Lifecycle calls, reconciliation and `run` on one Slave, as programs over the same state and the same
queries, with what each of them does between two awaits.  A lifecycle call has its blocks; a
reconciliation changes activations in their state and their profile only; `run` changes none, and
invokes a plugin only for an activation that is ready.
-/

namespace Loom

open Coroutine

/-- A call of a Slave. -/
inductive SlaveCall where
  | lifecycle (call : LifecycleCall)
  | reconcile
  | run (args : RunArgs)
  deriving Repr, DecidableEq, Inhabited

def SlaveCall.prog (env : Env) (host : SlaveHost) : SlaveCall → ActivationOp Unit
  | .lifecycle call => ActivationOp.ofLifecycle (call.prog env host.toSlaveSettings)
  | .reconcile => (ActivationOp.reconcileActivations env host).map fun _ => ()
  | .run args => ActivationOp.ofLifecycle
      (LifecycleOp.ofRun ((args.prog env host.slaveId).map fun _ => ()))

/-! ### Programs of a part of the Slave -/

section Lifts

variable {ν α : Type}

theorem secure_ofLifecycle {program : LifecycleOp α}
    {answers : (query : ActivationQuery) → ν → ActivationAnswer query → ν → Prop}
    {rely : SlaveLifecycle × ν → SlaveLifecycle × ν → Prop}
    (guar : SlaveLifecycle × ν → SlaveLifecycle × ν → ActivationQuery → Prop)
    (post : SlaveLifecycle × ν → SlaveLifecycle × ν → Except Exc α → Prop)
    (opening : Opening SlaveLifecycle ν LifecycleAnswer)
    {lifted : Opening SlaveLifecycle ν ActivationAnswer} {now : SlaveLifecycle × ν}
    (same : lifted.before = opening.before)
    (secure : program.Secure (fun query => answers (.lifecycle query)) rely
      (fun opening now query => guar opening.before now (.lifecycle query)) opening now
      fun opening now result => post opening.before now result) :
    (ActivationOp.ofLifecycle program).Secure answers rely
      (fun opening now query => guar opening.before now query) lifted now
      fun opening now result => post opening.before now result := by
  induction program generalizing opening lifted now with
  | ret value =>
      change post lifted.before now _
      rw [same]
      exact secure
  | raise error =>
      change post lifted.before now _
      rw [same]
      exact secure
  | read next ih => exact ih _ _ same secure
  | write update next ih => exact ih _ same secure
  | await query next ih =>
      refine ⟨?_, fun later relied answer world answered => ?_⟩
      · dsimp only
        rw [same]
        exact secure.1
      · exact ih answer _ rfl (secure.2 later relied answer world answered)

/-- The point of a Slave as `run` sees it. -/
def runPoint (point : SlaveLifecycle × ν) : SlaveState × ν := (point.1.slave, point.2)

theorem secure_ofRun {program : RunOp α}
    {answers : (query : LifecycleQuery) → ν → LifecycleAnswer query → ν → Prop}
    {rely : SlaveLifecycle × ν → SlaveLifecycle × ν → Prop}
    {relyRun : SlaveState × ν → SlaveState × ν → Prop}
    (relies : ∀ now later, rely now later → relyRun (runPoint now) (runPoint later))
    (guar : SlaveState × ν → SlaveState × ν → LifecycleQuery → Prop)
    (post : SlaveState × ν → SlaveState × ν → Except Exc α → Prop)
    (opening : Opening SlaveState ν RunAnswer)
    {lifted : Opening SlaveLifecycle ν LifecycleAnswer} {now : SlaveLifecycle × ν}
    (same : runPoint lifted.before = opening.before)
    (secure : program.Secure (fun query => answers (.content query)) relyRun
      (fun opening now query => guar opening.before now (.content query)) opening (runPoint now)
      fun opening now result => post opening.before now result) :
    (LifecycleOp.ofRun program).Secure answers rely
      (fun opening now query => guar (runPoint opening.before) (runPoint now) query) lifted now
      fun opening now result => post (runPoint opening.before) (runPoint now) result := by
  induction program generalizing opening lifted now with
  | ret value =>
      change post (runPoint lifted.before) (runPoint now) _
      rw [same]
      exact secure
  | raise error =>
      change post (runPoint lifted.before) (runPoint now) _
      rw [same]
      exact secure
  | read next ih => exact ih _ _ same secure
  | write update next ih => exact ih _ same secure
  | await query next ih =>
      refine ⟨?_, fun later relied answer world answered => ?_⟩
      · dsimp only
        rw [same]
        exact secure.1
      · exact ih answer _ rfl (secure.2 (runPoint later) (relies _ _ relied) answer world answered)

end Lifts

/-! ### Reconciliation -/

/-- An activation with another state and another profile. -/
def Restated (old new : CapabilityPackageActivation) : Prop :=
  ∃ activationState runtimeProfile, new = { old with activationState, runtimeProfile }

theorem Restated.refl (activation : CapabilityPackageActivation) :
    Restated activation activation :=
  ⟨activation.activationState, activation.runtimeProfile, rfl⟩

theorem Restated.trans {first second third : CapabilityPackageActivation}
    (earlier : Restated first second) (later : Restated second third) : Restated first third := by
  obtain ⟨_, _, rfl⟩ := earlier
  obtain ⟨state, profile, rfl⟩ := later
  exact ⟨state, profile, rfl⟩

/-- Activations have changed in their state and their profile only. -/
structure RestatesOnly (before now : SlaveLifecycle) : Prop where
  cache : now.slave.packageCache = before.slave.packageCache
  kept : ∀ key old, before.activation? key = some old →
    ∃ new, now.activation? key = some new ∧ Restated old new
  only : ∀ key, before.activation? key = none → now.activation? key = none

theorem RestatesOnly.refl (state : SlaveLifecycle) : RestatesOnly state state :=
  ⟨rfl, fun _ old isOld => ⟨old, isOld, .refl old⟩, fun _ none => none⟩

theorem RestatesOnly.set {before now : SlaveLifecycle} (restates : RestatesOnly before now)
    {key : String}
    {old new : CapabilityPackageActivation} (isOld : now.activation? key = some old)
    (restated : Restated old new) :
    RestatesOnly before (apply (LifecycleWrite.setActivation key new) now) := by
  refine ⟨restates.cache, fun wanted first isFirst => ?_, fun wanted none => ?_⟩
  · obtain ⟨second, isSecond, earlier⟩ := restates.kept wanted first isFirst
    rw [SlaveLifecycle.activation?_setActivation]
    split
    · rename_i same
      rw [same, isOld] at isSecond
      cases isSecond
      exact ⟨new, rfl, earlier.trans restated⟩
    · exact ⟨second, isSecond, earlier⟩
  · have absent := restates.only wanted none
    rw [SlaveLifecycle.activation?_setActivation]
    split
    · rename_i same
      rw [same, isOld] at absent
      cases absent
    · exact absent

theorem reconciledActivation_restated {env : Env} {item : Dict}
    {activation updated : CapabilityPackageActivation}
    (isUpdated : reconciledActivation env item activation = .ok updated) :
    Restated activation updated := by
  unfold reconciledActivation at isUpdated
  cases isState : reconciledState env item activation with
  | error error =>
      rw [isState] at isUpdated
      cases isUpdated
  | ok state =>
      rw [isState] at isUpdated
      cases isUpdated
      exact ⟨_, _, rfl⟩

/-- A query of a reconciliation. -/
def ActivationQuery.isReconciling : ActivationQuery → Bool
  | .replicaRow | .reconcile _ | .lifecycle (.persist _ _ _ _ _) => true
  | _ => false

section Reconcile

variable {ν : Type} {env : Env} {host : SlaveHost}
  {answers : (query : ActivationQuery) → ν → ActivationAnswer query → ν → Prop}
  {rely : SlaveLifecycle × ν → SlaveLifecycle × ν → Prop}
  {opening : Opening SlaveLifecycle ν ActivationAnswer} {now : SlaveLifecycle × ν}
  {packages : List (ReconcileEntry × CapabilityPackageVersion)}

/-- A program all of whose blocks only restate activations. -/
def Reconciles {α : Type}
    (answers : (query : ActivationQuery) → ν → ActivationAnswer query → ν → Prop)
    (rely : SlaveLifecycle × ν → SlaveLifecycle × ν → Prop) (program : ActivationOp α) : Prop :=
  ∀ opening now, RestatesOnly opening.before.1 now.1 →
    program.Secure answers rely
      (fun opening now query => RestatesOnly opening.before.1 now.1 ∧ query.isReconciling = true)
      opening now fun opening now _ => RestatesOnly opening.before.1 now.1

namespace Reconciles

variable {α β : Type}

theorem ret (value : α) : Reconciles answers rely (.ret value : ActivationOp α) :=
  fun _ _ restates => restates

theorem raise (error : Exc) : Reconciles answers rely (.raise error : ActivationOp α) :=
  fun _ _ restates => restates

theorem ofExcept (outcome : Except Exc α) :
    Reconciles answers rely (Prog.ofExcept outcome : ActivationOp α) :=
  fun _ _ restates => .ofExcept restates

theorem bind {program : ActivationOp α} {rest : α → ActivationOp β}
    (first : Reconciles answers rely program)
    (second : ∀ value, Reconciles answers rely (rest value)) :
    Reconciles answers rely (program.bind rest) := by
  intro opening now restates
  refine Prog.Secure.bind (Prog.Secure.mono (first opening now restates)
    fun opening now result restates => ?_)
  cases result with
  | ok value => exact second value opening now restates
  | error error => exact restates

theorem await {query : ActivationQuery} {rest : ActivationAnswer query → ActivationOp α}
    (reconciling : query.isReconciling = true)
    (next : ∀ answer, Reconciles answers rely (rest answer)) :
    Reconciles answers rely (.await query rest) :=
  fun _ _ restates => ⟨⟨restates, reconciling⟩, fun later _ answer _ _ =>
    next answer _ _ (RestatesOnly.refl later.1)⟩

end Reconciles

theorem persistReconciled_reconciles (key : String) (activation : CapabilityPackageActivation)
    (pluginId code : String) :
    Reconciles answers rely
      (ActivationOp.persistReconciled packages key activation pluginId code) := by
  intro opening now restates
  unfold ActivationOp.persistReconciled
  refine Prog.Secure.get ?_
  dsimp only
  cases ((packages.reverse.find? fun item => item.1.activationKey = key).map Prod.snd).or
      (now.1.slave.findCachedPackage activation.packageVersionRef
        (some activation.packageDigest)) with
  | none => exact restates
  | some package => exact Reconciles.await rfl (fun answer => .ofExcept _) opening now restates

theorem settleEntry_reconciles (response : Dict) (entry : ReconcileEntry) :
    Reconciles answers rely (ActivationOp.settleEntry env packages response entry) := by
  intro opening now restates
  unfold ActivationOp.settleEntry
  refine Prog.Secure.get ?_
  cases isOld : now.1.slave.activations.lookup entry.activationKey with
  | none => exact restates
  | some old =>
      refine Prog.Secure.bind (.ofExcept ?_)
      cases responseItem entry.activationKey response with
      | error error => exact restates
      | ok item =>
          dsimp only
          cases item with
          | none =>
              dsimp only
              split
              · exact restates
              · exact persistReconciled_reconciles _ _ _ _ opening _
                  (restates.set isOld ⟨_, old.runtimeProfile, rfl⟩)
          | some item =>
              refine Prog.Secure.bind (.ofExcept ?_)
              cases isUpdated : reconciledActivation env item old with
              | error error => exact restates
              | ok updated =>
                  exact persistReconciled_reconciles _ _ _ _ opening _
                    (restates.set isOld (reconciledActivation_restated isUpdated))

theorem settleEntries_reconciles (response : Dict) (entries : List ReconcileEntry) :
    Reconciles answers rely (ActivationOp.settleEntries env packages response entries) := by
  induction entries with
  | nil => exact .ret ()
  | cons entry entries ih => exact .bind (settleEntry_reconciles response entry) fun _ => ih

theorem reconcileEntries_reconciles (entries : List ReconcileEntry) :
    Reconciles answers rely (ActivationOp.reconcileEntries env packages entries) := by
  refine .await rfl fun answer => ?_
  cases answer with
  | ok response => exact .bind (settleEntries_reconciles response entries) fun _ => .ret _
  | error error =>
      dsimp only
      split
      · exact .bind (settleEntries_reconciles [] entries) fun _ => .ret _
      · exact .raise error

/-- `reconcile_activations` restates activations. -/
theorem reconcileActivations_reconciles :
    Reconciles answers rely (ActivationOp.reconcileActivations env host) := by
  intro opening now restates
  unfold ActivationOp.reconcileActivations
  change (if _ then _ else _ : ActivationOp Dict).Secure _ _ _ opening now _
  split
  · exact restates
  · split
    · refine Reconciles.await rfl (fun answer => ?_) opening now restates
      cases answer with
      | error error => exact .raise error
      | ok records =>
          exact .bind (.ofExcept _) fun listed => reconcileEntries_reconciles _
    · exact reconcileEntries_reconciles _ opening now restates

end Reconcile

end Loom
