import Loom.Coroutine.Pool
import Loom.Properties.Leases
import Loom.Slave.App

/-!
# Driver epochs at a Slave

The Observer numbers the registrations of a workspace's drivers in one sequence, whatever their
driver ids.  A Slave remembers the highest epoch of each driver id.  So it refuses an older
registration of the driver that it has served, and of other drivers only where their requests
carry no smaller epoch than those it has recorded (`Unrivalled`).
-/

namespace Loom

open Coroutine
open Prog (Does)

/-- A segment of a request to a Slave. -/
abbrev WorkerSegment := Segment SlaveApp Exc EpochWrite ServiceQuery SlaveReply WorkerRequest

/-- Requests to a Slave in any interleaving. -/
abbrev WorkerPool := Pool SlaveApp Exc EpochWrite ServiceAnswer SlaveReply WorkerRequest

/-- The driver epoch of a request that a segment accepts: one that it hands to the service. -/
def acceptedEpoch (segment : WorkerSegment) : Option Int :=
  match segment.stop with
  | .awaits _ => segment.label.driverEpoch
  | .returns _ | .raises _ => none

/-- When the request of a segment arrives, no epoch of another driver is recorded that is larger
than the epoch it carries. -/
def Unrivalled (segment : WorkerSegment) : Prop :=
  segment.origin.query = none → ∀ driverId epoch other recorded,
    segment.label.driverId = some driverId → segment.label.driverEpoch = some epoch →
    segment.origin.start.driverEpochs.lookup other = some recorded → other ≠ driverId →
    recorded ≤ epoch

namespace SlaveApp

/-- The recorded epochs have not fallen. -/
def Rises (before after : SlaveApp) : Prop :=
  ∀ driverId recorded, before.driverEpochs.lookup driverId = some recorded →
    ∃ later, after.driverEpochs.lookup driverId = some later ∧ recorded ≤ later

theorem Rises.refl (app : SlaveApp) : app.Rises app :=
  fun _ recorded found => ⟨recorded, found, le_refl _⟩

theorem Rises.trans {first second third : SlaveApp} (one : first.Rises second)
    (two : second.Rises third) : first.Rises third := by
  intro driverId recorded found
  obtain ⟨middle, foundMiddle, below⟩ := one driverId recorded found
  obtain ⟨later, foundLater, above⟩ := two driverId middle foundMiddle
  exact ⟨later, foundLater, le_trans below above⟩

theorem lookup_filter_ne (entries : List (String × Int)) {driverId other : String}
    (differs : other ≠ driverId) :
    (entries.filter fun entry => entry.1 ≠ driverId).lookup other = entries.lookup other := by
  induction entries with
  | nil => rfl
  | cons entry entries ih =>
      obtain ⟨name, epoch⟩ := entry
      by_cases removed : name = driverId
      · subst removed
        have apart : (other == name) = false := by simpa using differs
        simpa [List.filter, List.lookup_cons, apart] using ih
      · have kept : decide (name ≠ driverId) = true := by simpa using removed
        simp only [List.filter, kept, List.lookup_cons]
        split
        · rfl
        · exact ih

theorem lookup_apply (update : EpochWrite) (app : SlaveApp) (driverId : String) :
    (apply update app).driverEpochs.lookup driverId =
      if driverId = update.driverId then some update.epoch
      else app.driverEpochs.lookup driverId := by
  show List.lookup driverId ((update.driverId, update.epoch) :: _) = _
  split
  · rename_i same
    subst same
    simp
  · rename_i differs
    have apart : (driverId == update.driverId) = false := by simpa using differs
    rw [List.lookup_cons, apart]
    exact lookup_filter_ne _ differs

end SlaveApp

/-- What a segment of a request does, where the Slave has a secret: it records the epoch that the
request carries, which is none below the one recorded for its driver, or it records nothing and
starts no work. -/
inductive WorkerBlock (request : WorkerRequest) (origin : Origin SlaveApp ServiceQuery)
    (made : List EpochWrite) (stop : Stop Exc ServiceQuery SlaveReply) : Prop where
  | idle (nothing : made = []) (final : stop.isFinal)
  | recorded (driverId : String) (epoch : Int) (first : origin.query = none)
      (names : request.driverId = some driverId) (carries : request.driverEpoch = some epoch)
      (current : ∀ previous, origin.start.driverEpochs.lookup driverId = some previous →
        previous ≤ epoch)
      (writes : made = [⟨driverId, epoch⟩])

section Blocks

variable {env : SlaveEnv} {ok : (query : ServiceQuery) → ServiceAnswer query → Prop}
variable {rely : SlaveApp → SlaveApp → Prop}

/-- `record_driver_epoch` raises, or records an epoch that is current for its driver. -/
theorem recordDriverEpoch_does (secret : strip env.internalApiSecret ≠ "")
    {driverId : Option String} {driverEpoch : Option Int}
    {block : Origin SlaveApp ServiceQuery → List EpochWrite → Stop Exc ServiceQuery Unit → Prop}
    {origin : Origin SlaveApp ServiceQuery}
    (raises : ∀ text, block origin [] (.raises (.valueError text)))
    (records : ∀ name epoch, driverId = some name → driverEpoch = some epoch →
      (∀ previous, origin.start.driverEpochs.lookup name = some previous → previous ≤ epoch) →
      block origin [⟨name, epoch⟩] (.returns ())) :
    Does ok rely block (SlaveOp.recordDriverEpoch env driverId driverEpoch) origin [] := by
  unfold SlaveOp.recordDriverEpoch
  rw [if_neg secret]
  cases driverId with
  | none => exact raises _
  | some name =>
      cases driverEpoch with
      | none => exact raises _
      | some epoch =>
          dsimp only
          split
          · exact raises _
          · dsimp only [Does, applyAll_nil]
            cases found : origin.start.driverEpochs.lookup name with
            | none =>
                refine records name epoch rfl rfl fun previous isPrevious => ?_
                rw [found] at isPrevious
                cases isPrevious
            | some previous =>
                dsimp only
                split
                · exact raises _
                · rename_i notStale
                  have isMax : max epoch (if previous = 0 then epoch else previous) = epoch := by
                    split
                    · exact max_self _
                    · exact max_eq_left (not_lt.1 notStale)
                  rw [isMax]
                  refine records name epoch rfl rfl fun recorded isRecorded => ?_
                  rw [found, Option.some.injEq] at isRecorded
                  omega

/-- An endpoint checks the driver epoch, runs two more checks and hands the request to the
service; then it answers with what its handler makes of the outcome. -/
theorem endpoint_does (secret : strip env.internalApiSecret ≠ "") (request : WorkerRequest)
    {β : Type} {first second : Prop} [Decidable first] [Decidable second]
    {firstError secondError : Exc} {query : ServiceQuery}
    {outcome : ServiceAnswer query → Except Exc β} {handler : Except Exc β → SlaveOp SlaveReply}
    (handles : ∀ result, ∃ stop : Stop Exc ServiceQuery SlaveReply, stop.isFinal ∧
      ∀ block origin made, block origin made stop → Does ok rely block (handler result) origin made)
    (state : SlaveApp) :
    Does ok rely (WorkerBlock request)
      (((SlaveOp.recordDriverEpoch env request.driverId request.driverEpoch).bind fun _ =>
        (Prog.guard first firstError).bind fun _ => (Prog.guard second secondError).bind fun _ =>
          .await query fun answer => Prog.ofExcept (outcome answer)).attempt.bind handler)
      ⟨none, state⟩ [] := by
  have refused : ∀ origin result,
      Does ok rely (WorkerBlock request) (handler result) origin [] := by
    intro origin result
    obtain ⟨stop, final, handled⟩ := handles result
    exact handled _ _ _ (.idle rfl final)
  rw [Does.bind_iff, Does.attempt_iff, Does.bind_iff]
  refine recordDriverEpoch_does secret (fun text => refused _ _) ?_
  intro name epoch names carries current
  have recorded : ∀ stop, WorkerBlock request ⟨none, state⟩ [⟨name, epoch⟩] stop :=
    fun stop => .recorded name epoch rfl names carries current rfl
  have raised : ∀ result, Does ok rely (WorkerBlock request) (handler result) ⟨none, state⟩
      [⟨name, epoch⟩] := by
    intro result
    obtain ⟨stop, -, handled⟩ := handles result
    exact handled _ _ _ (recorded stop)
  refine Does.bind_iff.2 (Does.guard_iff.2 ⟨fun _ => ?_, fun _ => raised _⟩)
  refine Does.bind_iff.2 (Does.guard_iff.2 ⟨fun _ => ?_, fun _ => raised _⟩)
  refine ⟨recorded _, fun later _ answer _ => ?_⟩
  exact Does.ofExcept_iff.2 ⟨fun value _ => refused _ _, fun error _ => refused _ _⟩

/-- The answers of `dispatch` end it. -/
theorem dispatchAnswer_ends (request : SlaveDispatchRequest)
    (result : Except Exc ExecutionResult) :
    ∃ stop : Stop Exc ServiceQuery SlaveReply, stop.isFinal ∧ ∀ block origin made,
      block origin made stop →
        Does ok rely block (SlaveOp.dispatchAnswer request result) origin made := by
  unfold SlaveOp.dispatchAnswer
  split
  · exact ⟨.returns _, rfl, fun _ _ _ holds => holds⟩
  · split
    · exact ⟨.returns _, rfl, fun _ _ _ holds => holds⟩
    · exact ⟨.returns _, rfl, fun _ _ _ holds => holds⟩
    · exact ⟨.returns _, rfl, fun _ _ _ holds => holds⟩
    · exact ⟨.returns _, rfl, fun _ _ _ holds => holds⟩
    · exact ⟨.raises _, rfl, fun _ _ _ holds => holds⟩

/-- The answers of `provision` and `deprovision` end them. -/
theorem commandAnswer_ends (result : Except Exc CapabilityHealthReport) :
    ∃ stop : Stop Exc ServiceQuery SlaveReply, stop.isFinal ∧ ∀ block origin made,
      block origin made stop → Does ok rely block (SlaveOp.commandAnswer result) origin made := by
  unfold SlaveOp.commandAnswer
  split
  · exact ⟨.returns _, rfl, fun _ _ _ holds => holds⟩
  · split
    · exact ⟨.returns _, rfl, fun _ _ _ holds => holds⟩
    · exact ⟨.returns _, rfl, fun _ _ _ holds => holds⟩
    · exact ⟨.returns _, rfl, fun _ _ _ holds => holds⟩
    · exact ⟨.raises _, rfl, fun _ _ _ holds => holds⟩

theorem unauthorized_does (request : WorkerRequest) (reply : SlaveReply) (state : SlaveApp) :
    Does ok rely (WorkerBlock request) (.ret reply) ⟨none, state⟩ [] :=
  WorkerBlock.idle rfl rfl

section

-- The rule for endpoints is applied as it stands: nothing has to be computed.
attribute [local irreducible] Coroutine.Prog.Does

theorem dispatch_does (secret : strip env.internalApiSecret ≠ "") (headers : AuthHeaders)
    (request : SlaveDispatchRequest) (state : SlaveApp) :
    Does ok rely (WorkerBlock (.dispatch headers request)) (SlaveOp.dispatch env request)
      ⟨none, state⟩ [] := by
  unfold SlaveOp.dispatch SlaveOp.dispatchBody
  exact endpoint_does secret (.dispatch headers request) (dispatchAnswer_ends request) state

theorem provision_does (secret : strip env.internalApiSecret ≠ "") (headers : AuthHeaders)
    (request : SlaveProvisionRequest) (state : SlaveApp) :
    Does ok rely (WorkerBlock (.provision headers request)) (SlaveOp.provision env request)
      ⟨none, state⟩ [] := by
  unfold SlaveOp.provision SlaveOp.commandBody
  exact endpoint_does secret (.provision headers request) commandAnswer_ends state

theorem deprovision_does (secret : strip env.internalApiSecret ≠ "") (headers : AuthHeaders)
    (request : SlaveDeprovisionRequest) (state : SlaveApp) :
    Does ok rely (WorkerBlock (.deprovision headers request)) (SlaveOp.deprovision env request)
      ⟨none, state⟩ [] := by
  unfold SlaveOp.deprovision SlaveOp.commandBody
  exact endpoint_does secret (.deprovision headers request) commandAnswer_ends state

/-- Every segment of every request is as described. -/
theorem WorkerRequest.does (secret : strip env.internalApiSecret ≠ "") (request : WorkerRequest)
    (state : SlaveApp) :
    Does ok rely (WorkerBlock request) (request.prog env) ⟨none, state⟩ [] := by
  unfold WorkerRequest.prog
  split
  · cases request with
    | dispatch headers request => exact dispatch_does secret headers request state
    | provision headers request => exact provision_does secret headers request state
    | deprovision headers request => exact deprovision_does secret headers request state
  · exact unauthorized_does _ _ _

end

end Blocks

/-! ### Interleavings -/

section Runs

variable {env : SlaveEnv} {ok : (query : ServiceQuery) → ServiceAnswer query → Prop}
variable {ready : ServiceQuery → SlaveApp → Prop}
variable {segments : List WorkerSegment} {pool : WorkerPool}

theorem WorkerBlock.rises {request : WorkerRequest} {origin : Origin SlaveApp ServiceQuery}
    {made : List EpochWrite} {stop : Stop Exc ServiceQuery SlaveReply}
    (block : WorkerBlock request origin made stop) :
    origin.start.Rises (applyAll made origin.start) := by
  cases block with
  | idle nothing final =>
      rw [nothing]
      exact .refl _
  | recorded driverId epoch first names carries current writes =>
      rw [writes]
      intro other recorded found
      rw [applyAll_cons, applyAll_nil, SlaveApp.lookup_apply]
      split
      · rename_i same
        subst same
        exact ⟨epoch, rfl, current recorded found⟩
      · exact ⟨recorded, found, le_refl _⟩

/-- A segment that accepts a request leaves its epoch recorded for its driver, and finds none
above it. -/
theorem WorkerBlock.accepted {segment : WorkerSegment} {epoch : Int}
    (block : WorkerBlock segment.label segment.origin segment.made segment.stop)
    (accepts : acceptedEpoch segment = some epoch) :
    ∃ driverId, segment.label.driverId = some driverId ∧ segment.label.driverEpoch = some epoch ∧
      segment.origin.query = none ∧
      (∀ previous, segment.origin.start.driverEpochs.lookup driverId = some previous →
        previous ≤ epoch) ∧
      segment.final.driverEpochs.lookup driverId = some epoch := by
  unfold acceptedEpoch at accepts
  cases stops : segment.stop with
  | returns value =>
      rw [stops] at accepts
      cases accepts
  | raises error =>
      rw [stops] at accepts
      cases accepts
  | awaits query =>
      rw [stops] at accepts block
      cases block with
      | idle nothing final => cases final
      | recorded driverId recorded first names carries current writes =>
          have same : recorded = epoch := by
            rw [carries] at accepts
            exact Option.some.inj accepts
          subst same
          refine ⟨driverId, names, carries, first, current, ?_⟩
          unfold Segment.final
          rw [writes, applyAll_cons, applyAll_nil, SlaveApp.lookup_apply, if_pos rfl]

/-- The epochs of two accepted requests grow, where the later one is unrivalled. -/
theorem accepted_le {earlier later : WorkerSegment} {first second : Int}
    (block : WorkerBlock earlier.label earlier.origin earlier.made earlier.stop)
    (block' : WorkerBlock later.label later.origin later.made later.stop)
    (rises : earlier.final.Rises later.origin.start) (unrivalled : Unrivalled later)
    (accepts : acceptedEpoch earlier = some first)
    (accepts' : acceptedEpoch later = some second) : first ≤ second := by
  obtain ⟨driverId, -, -, -, -, recorded⟩ := block.accepted accepts
  obtain ⟨rival, names, carries, isFirst, current, -⟩ := block'.accepted accepts'
  obtain ⟨latest, found, above⟩ := rises driverId first recorded
  by_cases same : driverId = rival
  · subst same
    exact le_trans above (current latest found)
  · exact le_trans above (unrivalled isFirst rival second driverId latest names carries found same)

/-- In every interleaving of requests that meet no larger epoch of another driver, the epochs of
the accepted requests never fall. -/
theorem accepted_ordered (secret : strip env.internalApiSecret ≠ "")
    (run : Pool.Run (WorkerRequest.prog env) ok ready ⟨{}, []⟩ segments pool)
    (unrivalled : ∀ segment ∈ segments, Unrivalled segment) :
    segments.Pairwise fun earlier later => ∀ first second,
      acceptedEpoch earlier = some first → acceptedEpoch later = some second → first ≤ second := by
  have blocks := run.described (WorkerRequest.does secret)
  have rises := run.ordered SlaveApp.Rises.refl (fun _ _ _ => SlaveApp.Rises.trans)
    fun segment member => (blocks segment member).rises
  refine rises.imp_of_mem ?_
  intro earlier later isEarlier isLater risen first second accepts accepts'
  exact accepted_le (blocks earlier isEarlier) (blocks later isLater) risen
    (unrivalled later isLater) accepts accepts'

end Runs

/-- Where no request arrives at a Slave with a smaller epoch than one recorded for another driver
id, the accepted epochs never fall, and a driver that a newer registration of its workspace has
replaced starts no work after its successor. -/
theorem driver_epochs_fenced {env : SlaveEnv} (secret : strip env.internalApiSecret ≠ "")
    {ok : (query : ServiceQuery) → ServiceAnswer query → Prop}
    {ready : ServiceQuery → SlaveApp → Prop} {segments : List WorkerSegment} {pool : WorkerPool}
    (run : Pool.Run (WorkerRequest.prog env) ok ready ⟨{}, []⟩ segments pool)
    (unrivalled : ∀ segment ∈ segments, Unrivalled segment)
    {agentEnv : AgentEnv} {entries : List AgentEntry} {registry : Registry}
    (registrations : History (AgentCall.prog agentEnv) AgentAnswer.Allowed {} entries registry) :
    (segments.Pairwise fun earlier later => ∀ first second,
      acceptedEpoch earlier = some first → acceptedEpoch later = some second → first ≤ second) ∧
    entries.Pairwise fun old new => ∀ replaced successor oldLease newLease,
      AgentIssue old replaced oldLease → AgentIssue new successor newLease →
      replaced.role = .driver → successor.role = .driver →
      replaced.workspaceId = successor.workspaceId →
      segments.Pairwise fun earlier later =>
        acceptedEpoch earlier = some newLease.epoch →
          acceptedEpoch later ≠ some oldLease.epoch := by
  have ordered := accepted_ordered secret run unrivalled
  refine ⟨ordered, (Registry.Tracks.history registrations).grows.imp ?_⟩
  intro old new grows replaced successor oldLease newLease oldIssue newIssue isDriver isDriver' same
  have newer := grows replaced successor oldLease newLease oldIssue newIssue isDriver isDriver' same
  refine ordered.imp ?_
  intro earlier later le accepts accepts'
  exact absurd (le _ _ accepts accepts') (not_le.2 newer)

namespace FencingDemo

def env : SlaveEnv where
  internalApiSecret := "secret"
  slaveId := "slave-a"

/-- A dispatch for a driver and an epoch. -/
def dispatches (driverId : String) (epoch : Int) : WorkerRequest :=
  .dispatch { internalToken := "secret" }
    { attemptId := "attempt", executionId := "execution", operation := "operation"
      driverId := some driverId, driverEpoch := some epoch }

/-- Requests arrive at the Slave, one after the other. -/
def arrivals (requests : List WorkerRequest) : Option (List WorkerSegment × WorkerPool) :=
  Pool.play (WorkerRequest.prog env) (fun _ _ => true)
    (requests.map fun request => .spawn request) ⟨{}, []⟩

def registers (driverId : String) : AgentCall :=
  .registerAgent
    { role := .driver, agentId := driverId, instanceId := driverId ++ "-1"
      workspaceId := "workspace", endpointUrl := "http://driver/", protocolVersion := "2" }

/-- A driver registers at the Observer, and another one after it. -/
def registrations (first second : String) : List AgentEntry × Registry :=
  LeaseDemo.timed [(0, registers first), (1000000, registers second)] {}

/-- The epoch of the lease that a call returned. -/
def issuedEpoch (entry : AgentEntry) : Option Int :=
  match entry.result with
  | .ok (.lease lease) => some lease.epoch
  | _ => none

/-- What holds of the segments of some arrivals holds of an interleaving of requests. -/
theorem exists_run {requests : List WorkerRequest} {check : List WorkerSegment → Bool}
    (checked : (arrivals requests).any (fun played => check played.1) = true) :
    ∃ segments pool, Pool.Run (WorkerRequest.prog env) (fun _ _ => True)
      (fun _ _ => (true : Bool) = true) ⟨{}, []⟩ segments pool ∧ check segments = true := by
  obtain ⟨⟨segments, pool⟩, played, holds⟩ := (Option.any_eq_true _ _).1 checked
  refine ⟨segments, pool, ?_, holds⟩
  simpa using Pool.Run.of_play _ Pool.Run.nil played

/-- No epoch of another driver above the one that a request carries is recorded. -/
def isUnrivalled (segment : WorkerSegment) : Bool :=
  match segment.label.driverId, segment.label.driverEpoch with
  | some driverId, some epoch => segment.origin.start.driverEpochs.all fun entry =>
      entry.1 = driverId || entry.2 ≤ epoch
  | _, _ => true

theorem unrivalled_of_check {segment : WorkerSegment} (checked : isUnrivalled segment = true) :
    Unrivalled segment := by
  intro _ driverId epoch other recorded names carries found differs
  unfold isUnrivalled at checked
  rw [names, carries] at checked
  obtain ⟨before, after, split, -⟩ := List.lookup_eq_some_iff.1 found
  have member : (other, recorded) ∈ segment.origin.start.driverEpochs := by
    rw [split]
    simp
  simpa [differs] using List.all_eq_true.1 checked (other, recorded) member

end FencingDemo

/-- A driver registers twice.  The Slave serves the newer registration and refuses the older. -/
theorem driver_epochs_fenced_successor :
    ∃ segments : List WorkerSegment, segments.map acceptedEpoch = [some 2, none, some 2] ∧
      (segments.Pairwise fun earlier later => ∀ first second,
        acceptedEpoch earlier = some first → acceptedEpoch later = some second →
          first ≤ second) ∧
      (FencingDemo.registrations "driver" "driver").1.Pairwise fun old new =>
        ∀ replaced successor oldLease newLease,
          AgentIssue old replaced oldLease → AgentIssue new successor newLease →
          replaced.role = .driver → successor.role = .driver →
          replaced.workspaceId = successor.workspaceId →
          segments.Pairwise fun earlier later =>
            acceptedEpoch earlier = some newLease.epoch →
              acceptedEpoch later ≠ some oldLease.epoch := by
  obtain ⟨segments, pool, run, checked⟩ := @FencingDemo.exists_run
    [FencingDemo.dispatches "driver" 2, FencingDemo.dispatches "driver" 1,
      FencingDemo.dispatches "driver" 2]
    (fun segments => segments.map acceptedEpoch = [some 2, none, some 2] &&
      segments.all FencingDemo.isUnrivalled) (by decide +kernel)
  rw [Bool.and_eq_true, decide_eq_true_eq] at checked
  refine ⟨segments, checked.1, ?_⟩
  refine driver_epochs_fenced (by decide +kernel) run (fun segment member => ?_)
    (LeaseDemo.timed_history _ _)
  exact FencingDemo.unrivalled_of_check (List.all_eq_true.1 checked.2 segment member)

/-- Two drivers register with epochs 1 and 2.  The Slave serves the second one, and then accepts
work from the first. -/
theorem replaced_driver_accepted :
    (FencingDemo.registrations "driver-a" "driver-b").1.map FencingDemo.issuedEpoch =
      [some 1, some 2] ∧
    ¬∀ (segments : List WorkerSegment) (pool : WorkerPool),
      Pool.Run (WorkerRequest.prog FencingDemo.env) (fun _ _ => True)
        (fun _ _ => (true : Bool) = true) ⟨{}, []⟩ segments pool →
      segments.Pairwise fun earlier later => ∀ first second,
        acceptedEpoch earlier = some first → acceptedEpoch later = some second →
          first ≤ second := by
  refine ⟨by decide +kernel, fun claim => ?_⟩
  obtain ⟨segments, pool, run, checked⟩ := @FencingDemo.exists_run
    [FencingDemo.dispatches "driver-b" 2, FencingDemo.dispatches "driver-a" 1]
    (fun segments => segments.map acceptedEpoch = [some 2, some 1]) (by decide +kernel)
  rw [decide_eq_true_eq] at checked
  obtain ⟨earlier, rest, rfl, accepts, others⟩ := List.map_eq_cons_iff.1 checked
  obtain ⟨later, more, rfl, accepts', -⟩ := List.map_eq_cons_iff.1 others
  have ordered := claim _ pool run
  have falls := (List.pairwise_cons.1 ordered).1 later List.mem_cons_self 2 1 accepts accepts'
  omega

end Loom
