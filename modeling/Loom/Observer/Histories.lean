import Loom.Observer.Sequential

/-!
# What sequential calls do to the records

`Rule` is the proof rule for relations between a record before and after a call: a relation that
light writes, the write blocks, the copies of reassignments and the drafts of patches satisfy, and
that composes, relates the record installed for a run before a call to the one installed after
it.  `Rule.lasts` relates the records of a run across many calls, and `Rule.invariant` is the rule
for properties of all records of all histories.
-/

namespace Loom

open Coroutine

/-- A record together with the number of uuids drawn so far. -/
structure View where
  uuids : Nat
  record : RunRecord

/-- Run ids are bound to allocated records. -/
def Repo.Allocated (repo : Repo) : Prop :=
  ∀ runId address, repo.address? runId = some address → address < repo.next

/-- A call with one write block starts it from the records that it was called with. -/
structure Permitted (permits : Call → Repo → Prop) (call : Call) (site : Site) : Prop where
  start : ∃ start : Repo, permits call start ∧ start.Alike site.start ∧
    ∀ runId, call.runId? = some runId → start.address? runId = some site.address

/-- The write block starts from the record that is installed where the call is made. -/
theorem Permitted.record {permits : Call → Repo → Prop} {call : Call} {site : Site}
    (permitted : Permitted permits call site) {runId : String}
    (names : call.runId? = some runId) :
    ∃ start : Repo, permits call start ∧ start.Alike site.start ∧
      start.run? runId = some site.record := by
  obtain ⟨start, permits, alike, named⟩ := permitted.start
  refine ⟨start, permits, alike, ?_⟩
  unfold Repo.run?
  rw [named runId names, alike.heap]
  rfl

/-- A relation between records that sequential calls establish, where each call is made in a
repository that `permits` it. -/
structure Rule (env : Env) (ok : (query : Query) → Answer query → Prop)
    (permits : Call → Repo → Prop) (moves : View → View → Prop) : Prop where
  still : ∀ {before after : View}, before.uuids ≤ after.uuids →
    before.record.Still after.record → moves before after
  trans : ∀ {first second third : View}, moves first second → moves second third →
    moves first third
  change : ∀ {call : Call} {site : Site} {updates : List RecordWrite} {fate : Fate},
    Change env ok Repo.Still site call updates fate → site.Undisturbed →
    (∃ start, permits call start) → (call.isSingle → Permitted permits call site) →
    moves ⟨site.start.uuids, site.record⟩ ⟨site.uuids, applyAll updates site.record⟩
  reassign : ∀ {site : Site} {args : ReassignArgs}
    (move : Reassignment env Repo.Still site args), site.Undisturbed →
    moves ⟨site.start.uuids, site.record⟩ ⟨site.uuids, applyAll move.updates site.record⟩
  draft : ∀ {site : Site} {operations : List Dict} {draft : List RecordWrite}
    {record : RunRecord}, DraftChange env ok site operations draft →
    site.Undisturbed →
    (site.loaded.state = .opened ∨ site.loaded.state = .thinking ∨
      site.loaded.state = .awaitingDecision ∧ site.loaded.decision = .str "repair") →
    site.record.Still record →
    moves ⟨site.start.uuids, record⟩ ⟨site.uuids, applyAll draft record⟩

/-- The records of `after` are moved from those of `before`, under the same run ids. -/
structure HeapMoves (moves : View → View → Prop) (before after : Repo) : Prop where
  runs : after.runs = before.runs
  next : after.next = before.next
  record : ∀ address, moves ⟨before.uuids, before.heap address⟩ ⟨after.uuids, after.heap address⟩

/-- The records installed in `after` are moved from those installed in `before`. -/
def Moved (moves : View → View → Prop) (before after : Repo) : Prop :=
  ∀ runId record', after.run? runId = some record' →
    ∃ record, before.run? runId = some record ∧
      moves ⟨before.uuids, record⟩ ⟨after.uuids, record'⟩

theorem Repo.run?_eq_some {repo : Repo} {runId : String} {record : RunRecord} :
    repo.run? runId = some record ↔
      ∃ address, repo.address? runId = some address ∧ repo.heap address = record := by
  unfold Repo.run?
  cases repo.address? runId <;> simp

theorem HeapMoves.moved {moves : View → View → Prop} {before after : Repo}
    (heap : HeapMoves moves before after) : Moved moves before after := by
  intro runId record' found
  obtain ⟨address, installed, rfl⟩ := Repo.run?_eq_some.1 found
  refine ⟨before.heap address, Repo.run?_eq_some.2 ⟨address, ?_, rfl⟩, heap.record address⟩
  unfold Repo.address? at installed ⊢
  rwa [heap.runs] at installed

theorem HeapMoves.allocated {moves : View → View → Prop} {before after : Repo}
    (heap : HeapMoves moves before after)
    (allocated : before.Allocated) : after.Allocated := by
  intro runId address installed
  unfold Repo.address? at installed
  rw [heap.runs] at installed
  rw [heap.next]
  exact allocated runId address installed

namespace Rule

variable {env : Env} {ok : (query : Query) → Answer query → Prop}
  {permits : Call → Repo → Prop} {moves : View → View → Prop}

section Stages

variable (rule : Rule env ok permits moves)
include rule

theorem heapMoves_refl (repo : Repo) : HeapMoves moves repo repo :=
  ⟨rfl, rfl, fun _ => rule.still (le_refl _) (.refl _)⟩

theorem heapMoves_trans {first second third : Repo} (one : HeapMoves moves first second)
    (two : HeapMoves moves second third) : HeapMoves moves first third :=
  ⟨two.runs.trans one.runs, two.next.trans one.next,
    fun address => rule.trans (one.record address) (two.record address)⟩

/-- Updates of one record. -/
theorem heapMoves_of_writes {made : List Write} {repo : Repo} {address : Nat}
    {updates : List RecordWrite} (writes : effects made = writesAt address updates)
    (changed : moves ⟨repo.uuids, repo.heap address⟩
      ⟨(applyAll made repo).uuids, applyAll updates (repo.heap address)⟩) :
    HeapMoves moves repo (applyAll made repo) := by
  have alike := alike_effects made repo
  rw [writes, applyAll_writesAt] at alike
  refine ⟨alike.runs, alike.next, fun other => ?_⟩
  rw [alike.heap]
  by_cases same : other = address
  · subst same
    show moves _ ⟨_, Function.update repo.heap other _ other⟩
    rw [Function.update_self]
    exact changed
  · show moves _ ⟨_, Function.update repo.heap address _ other⟩
    rw [Function.update_of_ne same]
    exact rule.still (uuids_le made repo) (.refl _)

theorem heapMoves_of_alike {made : List Write} (untouched : effects made = []) (repo : Repo) :
    HeapMoves moves repo (applyAll made repo) := by
  have alike := alike_effects made repo
  rw [untouched] at alike
  refine ⟨alike.runs, alike.next, fun address => ?_⟩
  rw [alike.heap]
  exact rule.still (uuids_le made repo) (.refl _)

end Stages

/-- Appending light events. -/
theorem still_events (record : RunRecord) (events : List Event)
    (plain : ∀ event ∈ events, event.isLight) :
    record.Still (applyAll (events.map RecordWrite.appendEvent) record) := by
  induction events generalizing record with
  | nil => exact .refl record
  | cons event events ih =>
      refine .trans (.appendEvent record (plain event List.mem_cons_self)) ?_
      exact ih _ fun other member => plain other (List.mem_cons_of_mem _ member)

theorem still_packages (record : RunRecord) (packages : List CapabilityPackageVersion) :
    record.Still (applyAll (packages.map RecordWrite.appendPackage) record) := by
  induction packages generalizing record with
  | nil => exact .refl record
  | cons package packages ih => exact .trans (.appendPackage record package) (ih _)

/-- The record under the writes of a patch, its receipt included. -/
theorem patch_effect {made : List Write} (repo : Repo) (address : Nat)
    (updates : List RecordWrite) {operationId : String} {receipt : List Write}
    (writes : effects made = writesAt address updates ++ receipt)
    (isReceipt : receipt = [] ∨ IsReceipt operationId address receipt) :
    ∃ events : List Event,
      (∀ event ∈ events, event.isLight) ∧
      (applyAll made repo).runs = repo.runs ∧ (applyAll made repo).next = repo.next ∧
      (applyAll made repo).heap = Function.update repo.heap address
        (applyAll (updates ++ events.map .appendEvent) (repo.heap address)) := by
  have alike := alike_effects made repo
  rw [writes, applyAll_append, applyAll_writesAt] at alike
  rcases isReceipt with rfl | ⟨stored, events, plain, rfl⟩
  · refine ⟨[], by simp, alike.runs, alike.next, ?_⟩
    rw [alike.heap]
    simp
  · rw [applyAll_cons, applyAll_writesAt] at alike
    refine ⟨events, plain, alike.runs, alike.next, ?_⟩
    rw [alike.heap]
    simp [apply]

section Stages

variable (rule : Rule env ok permits moves)
include rule

theorem patched_moves {made : List Write} {origin : Origin Repo Query} {call : Call} {site : Site}
    {operationId : String} {operations : List Dict} {packages : List CapabilityPackageVersion}
    {draft : List RecordWrite} {receipt : List Write}
    (place : site.Place Repo.Still call origin made)
    (editable : site.loaded.state = .opened ∨ site.loaded.state = .thinking ∨
      site.loaded.state = .awaitingDecision ∧ site.loaded.decision = .str "repair")
    (writes : effects made =
      writesAt site.address (packages.map .appendPackage ++ draft) ++ receipt)
    (drafted : draft = [] ∨ DraftChange env ok site operations draft)
    (concluded : receipt = [] ∨ IsReceipt operationId site.address receipt) :
    HeapMoves moves origin.start (applyAll made origin.start) := by
  obtain ⟨events, plain, runs, next, heap⟩ := patch_effect origin.start _ _ writes concluded
  refine ⟨runs, next, fun other => ?_⟩
  rw [heap]
  by_cases same : other = site.address
  · subst same
    rw [Function.update_self, applyAll_append, applyAll_append]
    have packed := still_packages (origin.start.heap site.address) packages
    have logged : ∀ record : RunRecord,
        moves ⟨(applyAll made origin.start).uuids, record⟩
          ⟨(applyAll made origin.start).uuids,
            applyAll (events.map RecordWrite.appendEvent) record⟩ :=
      fun record => rule.still (le_refl _) (still_events record events plain)
    refine rule.trans ?_ (logged _)
    rcases drafted with rfl | drafted
    · exact rule.still (uuids_le made origin.start) packed
    · have start : origin.start.heap site.address = site.record := by
        unfold Site.record
        rw [place.start]
      rw [start] at packed ⊢
      have edited := rule.draft drafted place.undisturbed editable packed
      rw [place.uuids, place.start] at edited
      refine rule.trans ?_ edited
      exact rule.still (le_refl origin.start.uuids) packed
  · rw [Function.update_of_ne same]
    exact rule.still (uuids_le made origin.start) (.refl _)

theorem concluded_moves {made : List Write} {repo : Repo} {address : Nat} {operationId : String}
    {receipt : List Write} (writes : effects made = receipt)
    (isReceipt : IsReceipt operationId address receipt) :
    HeapMoves moves repo (applyAll made repo) := by
  obtain ⟨events, plain, runs, next, heap⟩ :=
    patch_effect repo address [] (writes.trans (List.nil_append _).symm) (.inr isReceipt)
  refine ⟨runs, next, fun other => ?_⟩
  rw [heap]
  by_cases same : other = address
  · subst same
    rw [Function.update_self]
    exact rule.still (uuids_le made repo) (still_events _ events plain)
  · rw [Function.update_of_ne same]
    exact rule.still (uuids_le made repo) (.refl _)

/-- A stage of a call other than `open_run` and `reassign_dynamic_node` moves every record. -/
theorem stage_moves {call : Call} {origin : Origin Repo Query} {made : List Write}
    {stop : Stop Exc Query Reply} (stage : Stage env ok call origin made stop)
    (notOpen : ∀ args, call ≠ .openRun args)
    (notReassign : ∀ args, call ≠ .reassignDynamicNode args) (allowed : ∃ start, permits call start)
    (permitted : ∀ site : Site, site.Place Repo.Still call origin made → call.isSingle →
      Permitted permits call site) :
    HeapMoves moves origin.start (applyAll made origin.start) := by
  cases stage with
  | quiet untouched _ => exact rule.heapMoves_of_alike untouched _
  | change site updates fate place writes ends change =>
      refine rule.heapMoves_of_writes writes ?_
      have changed := rule.change change place.undisturbed allowed (permitted site place)
      rw [place.uuids] at changed
      unfold Site.record at changed
      rw [place.start] at changed
      exact changed
  | opened args _ _ isOpen => exact absurd isOpen (notOpen args)
  | copied site args _ isReassign => exact absurd isReassign (notReassign args)
  | copyFailed site args _ isReassign => exact absurd isReassign (notReassign args)
  | swapped args _ _ _ isReassign => exact absurd isReassign (notReassign args)
  | patched site _ _ _ operationId operations packages draft receipt isPatch place admitted
      editable writes drafted concluded =>
      exact rule.patched_moves place editable writes drafted concluded
  | concluded _ _ _ operationId _ address _ _ _ receipt _ _ _ _ _ _ _ writes isReceipt =>
      exact rule.concluded_moves writes isReceipt

omit rule in
/-- The permission of a call holds at its write block. -/
theorem permitted_at {call : Call} {before : Repo} {origin : Origin Repo Query}
    {made : List Write} {site : Site} (permitted : permits call before)
    (fresh : (∃ record, origin.query = some (.persist record)) ∨ before.Alike origin.start)
    (place : site.Place Repo.Still call origin made) (single : call.isSingle) :
    Permitted permits call site := by
  rcases fresh with ⟨record, query⟩ | alike
  · exfalso
    rcases place.since with ⟨-, unnamed | ⟨runId, loaded⟩⟩ | ⟨-, other, service, isService⟩
    · cases call <;> simp [Call.runId?, Call.isSingle] at unnamed single
    · rw [query] at loaded
      cases loaded
    · rw [query] at service
      cases service
      cases isService
  · refine ⟨before, permitted, ?_, fun runId names => ?_⟩
    · rw [place.start]
      exact alike
    · have found := place.loaded runId names
      unfold Repo.address? at found ⊢
      rw [alike.runs, ← place.start, place.undisturbed.still.runs]
      exact found

omit rule in
theorem fresh_next {call : Call} {before : Repo} {origin : Origin Repo Query}
    {made : List Write} {query : Query} (single : call.isSingle)
    (stage : Stage env ok call origin made (.awaits query))
    (fresh : (∃ record, origin.query = some (.persist record)) ∨ before.Alike origin.start) :
    (∃ record, some query = some (Query.persist record)) ∨
      before.Alike (applyAll made origin.start) := by
  rcases stage.single single with ⟨untouched, silent⟩ | ⟨site, updates, fate, -, -, ends, -⟩
  · rcases fresh with ⟨record, stored⟩ | alike
    · cases silent.final single record stored
    · have same := alike_effects made origin.start
      rw [untouched] at same
      exact .inr (alike.trans same.symm)
  · cases fate with
    | stored =>
        cases ends
        exact .inl ⟨_, rfl⟩
    | raised error => cases ends

theorem call_moves {call : Call} {before after : Repo} {result : Except Exc Reply}
    (runs : (call.prog env).Runs ok before after result) (permitted : permits call before)
    (notOpen : ∀ args, call ≠ .openRun args)
    (notReassign : ∀ args, call ≠ .reassignDynamicNode args) : HeapMoves moves before after := by
  let holds := fun origin : Origin Repo Query => HeapMoves moves before origin.start ∧
    (call.isSingle → (∃ record, origin.query = some (.persist record)) ∨
      before.Alike origin.start)
  have step : ∀ origin made stop, Stage env ok call origin made stop → holds origin →
      HeapMoves moves before (applyAll made origin.start) := by
    rintro origin made stop stage ⟨moved, fresh⟩
    refine rule.heapMoves_trans moved
      (rule.stage_moves stage notOpen notReassign ⟨before, permitted⟩ ?_)
    exact fun site place single => permitted_at permitted (fresh single) place single
  refine Prog.Chain.induct holds (fun state _ => HeapMoves moves before state)
    (fun origin made query stage held => ?_)
    (fun origin made _ stage held => step origin made _ stage held)
    (fun origin made _ stage held => step origin made _ stage held) (Call.stages runs)
    ⟨rule.heapMoves_refl before, fun _ => .inr (Repo.Alike.refl before)⟩
  exact ⟨step origin made _ stage held,
    fun single => fresh_next single stage (held.2 single)⟩

end Stages

section Copies

variable (rule : Rule env ok permits moves)
include rule

theorem moved_trans {first second third : Repo} (one : Moved moves first second)
    (two : Moved moves second third) : Moved moves first third := by
  intro runId record' found
  obtain ⟨record, foundSecond, secondMoves⟩ := two runId record' found
  obtain ⟨start, foundFirst, firstMoves⟩ := one runId record foundSecond
  exact ⟨start, foundFirst, rule.trans firstMoves secondMoves⟩

/-- Allocating a record moves no installed one. -/
theorem alloc_moved {made : List Write} {repo : Repo} {record : RunRecord}
    (updates : List RecordWrite) (allocated : repo.Allocated)
    (writes : effects made = .alloc record :: writesAt repo.next updates) :
    Moved moves repo (applyAll made repo) ∧ (applyAll made repo).Allocated ∧
      (applyAll made repo).next = repo.next + 1 ∧
      (applyAll made repo).heap repo.next = applyAll updates record := by
  obtain ⟨heap, next⟩ := heap_of_alloc writes
  have runs : (applyAll made repo).runs = repo.runs := by
    have alike := (alike_effects made repo).runs
    rwa [writes, applyAll_cons, applyAll_writesAt] at alike
  refine ⟨?_, ?_, next, by rw [heap, Function.update_self]⟩
  · intro runId record' found
    obtain ⟨address, installed, rfl⟩ := Repo.run?_eq_some.1 found
    have installed' : repo.address? runId = some address := by
      unfold Repo.address? at installed ⊢
      rwa [runs] at installed
    refine ⟨repo.heap address, Repo.run?_eq_some.2 ⟨address, installed', rfl⟩, ?_⟩
    rw [heap, Function.update_of_ne (allocated runId address installed').ne]
    exact rule.still (uuids_le made repo) (.refl _)
  · intro runId address installed
    unfold Repo.address? at installed
    rw [runs] at installed
    rw [next]
    exact Nat.lt_succ_of_lt (allocated runId address installed)

/-- The state of a reassignment between its segments. -/
structure Reassigning (moves : View → View → Prop) (before : Repo) (runId : String)
    (origin : Origin Repo Query) : Prop where
  moved : Moved moves before origin.start
  allocated : origin.start.Allocated
  copy : ∀ copy, origin.query = some (.persist copy) →
    ∃ address record, origin.start.next = address + 1 ∧ origin.start.heap address = copy ∧
      before.run? runId = some record ∧
      moves ⟨before.uuids, record⟩ ⟨origin.start.uuids, copy⟩

theorem reassign_stage {args : ReassignArgs} {before : Repo} {origin : Origin Repo Query}
    {made : List Write} {stop : Stop Exc Query Reply}
    (stage : Stage env ok (.reassignDynamicNode args) origin made stop)
    (held : Reassigning moves before args.runId origin) :
    Moved moves before (applyAll made origin.start) ∧ (applyAll made origin.start).Allocated ∧
      ∀ query, stop = .awaits query →
        Reassigning moves before args.runId ⟨some query, applyAll made origin.start⟩ := by
  cases stage with
  | quiet untouched silent =>
      have heap := rule.heapMoves_of_alike untouched origin.start
      have moved := rule.moved_trans held.moved heap.moved
      refine ⟨moved, heap.allocated held.allocated, fun query ends => ?_⟩
      refine ⟨moved, heap.allocated held.allocated, fun copy stores => ?_⟩
      subst ends
      cases stores
      cases silent.unasked rfl
  | change site updates fate place writes ends change => cases change
  | opened args _ _ isOpen => cases isOpen
  | copied site args' move isReassign place writes ends =>
      cases isReassign
      unfold Site.record at writes
      rw [place.start] at writes
      obtain ⟨moved, allocated, next, copied⟩ := rule.alloc_moved _ held.allocated writes
      have moved := rule.moved_trans held.moved moved
      refine ⟨moved, allocated, fun query stops => ⟨moved, allocated, fun copy stores => ?_⟩⟩
      have installed : origin.start.run? args.runId = some site.record := by
        refine Repo.run?_eq_some.2 ⟨site.address, ?_, by unfold Site.record; rw [place.start]⟩
        have found := place.loaded args.runId rfl
        unfold Repo.address? at found ⊢
        rwa [← place.start, place.undisturbed.still.runs]
      obtain ⟨record, found, moves'⟩ := held.moved _ _ installed
      subst stops
      cases stores
      cases ends
      refine ⟨origin.start.next, record, next, ?_, found, ?_⟩
      · rw [copied]
        unfold Site.record
        rw [place.start]
      · have reassigned := rule.reassign move place.undisturbed
        rw [place.uuids, place.start] at reassigned
        exact rule.trans moves' reassigned
  | copyFailed site args' error isReassign place writes ends =>
      obtain ⟨moved, allocated, -, -⟩ :=
        rule.alloc_moved [] held.allocated writes
      refine ⟨rule.moved_trans held.moved moved, allocated, fun query stops => ?_⟩
      rw [ends] at stops
      cases stops
  | swapped args' copied copy address isReassign query isCopy isLast still writes ends =>
      cases isReassign
      obtain ⟨copyAt, record, next, isCopyAt, found, moves'⟩ := held.copy copy query
      have sameAddress : address = copyAt := by
        have sameNext := still.next
        omega
      subst sameAddress
      have alike := alike_effects made origin.start
      rw [writes] at alike
      have installed : ∀ other, (applyAll made origin.start).address? other =
          if other = args.runId then some address else origin.start.address? other := by
        intro other
        unfold Repo.address?
        rw [alike.runs]
        exact lookup_assign _ _ _ _
      have heap : (applyAll made origin.start).heap = origin.start.heap := alike.heap
      refine ⟨?_, ?_, fun query stops => ?_⟩
      · intro other record' foundOther
        obtain ⟨at', atOther, rfl⟩ := Repo.run?_eq_some.1 foundOther
        rw [installed] at atOther
        have later : origin.start.uuids ≤ (applyAll made origin.start).uuids :=
          uuids_le made origin.start
        split at atOther
        · rename_i same
          cases atOther
          subst same
          refine ⟨record, found, rule.trans moves' (rule.still later ?_)⟩
          rw [heap, isCopyAt]
          exact .refl _
        · obtain ⟨start, foundStart, startMoves⟩ :=
            held.moved other _ (Repo.run?_eq_some.2 ⟨at', atOther, rfl⟩)
          refine ⟨start, foundStart, rule.trans startMoves (rule.still later ?_)⟩
          rw [heap]
          exact .refl _
      · intro other at' atOther
        have sameNext : (applyAll made origin.start).next = origin.start.next := alike.next
        rw [installed] at atOther
        rw [sameNext]
        split at atOther
        · cases atOther
          omega
        · exact held.allocated other at' atOther
      · obtain ⟨attempt, returns⟩ := ends
        rw [returns] at stops
        cases stops
  | patched _ _ _ _ _ _ _ _ _ isPatch => cases isPatch
  | concluded _ _ _ _ _ _ _ _ _ _ _ isPatch => cases isPatch

theorem reassign_moved {args : ReassignArgs} {before after : Repo} {result : Except Exc Reply}
    (allocated : before.Allocated)
    (runs : ((Call.reassignDynamicNode args).prog env).Runs ok before after result) :
    Moved moves before after ∧ after.Allocated := by
  refine Prog.Chain.induct (Reassigning moves before args.runId)
    (fun state _ => Moved moves before state ∧ state.Allocated) ?_ ?_ ?_ (Call.stages runs) ?_
  · exact fun origin made query stage held => (rule.reassign_stage stage held).2.2 query rfl
  · intro origin made value stage held
    obtain ⟨moved, allocated, -⟩ := rule.reassign_stage stage held
    exact ⟨moved, allocated⟩
  · intro origin made error stage held
    obtain ⟨moved, allocated, -⟩ := rule.reassign_stage stage held
    exact ⟨moved, allocated⟩
  · exact ⟨(rule.heapMoves_refl before).moved, allocated, fun copy stores => by cases stores⟩

end Copies

end Rule

/-- The record of a run that `open_run` has opened. -/
structure NewRun (env : Env) (args : OpenArgs) (uuids : Nat) (runId : String)
    (record : RunRecord) : Prop where
  named : runId = args.newRunId env uuids
  isNew : ∃ contract draft createdAt, args.contract = .ok contract ∧
    record = args.newRecord runId contract draft createdAt

section Open

variable {env : Env} {ok : (query : Query) → Answer query → Prop}

/-- `after` has the records of `before` and perhaps one new run. -/
structure Opens (env : Env) (args : OpenArgs) (before after : Repo) : Prop where
  allocated : after.Allocated
  uuids : before.uuids ≤ after.uuids
  record : ∀ runId record, after.run? runId = some record →
    before.run? runId = some record ∨ NewRun env args before.uuids runId record

theorem Opens.quiet {args : OpenArgs} {before repo : Repo} {made : List Write}
    (untouched : effects made = []) (opens : Opens env args before repo) :
    Opens env args before (applyAll made repo) := by
  have alike := alike_effects made repo
  rw [untouched] at alike
  have address : ∀ runId, (applyAll made repo).address? runId = repo.address? runId := by
    intro runId
    unfold Repo.address?
    rw [alike.runs]
    rfl
  refine ⟨?_, opens.uuids.trans (uuids_le made repo), ?_⟩
  · intro runId found installed
    rw [address] at installed
    rw [alike.next]
    exact opens.allocated runId found installed
  · intro runId record found
    unfold Repo.run? at found
    rw [address, alike.heap] at found
    exact opens.record runId record found

theorem Opens.opened {args : OpenArgs} {before : Repo} {made : List Write} {record : RunRecord}
    {contract : ClosureContract} (allocated : before.Allocated)
    (writes : effects made = [.alloc record, .install record.runId before.next])
    (named : record.runId = args.newRunId env before.uuids)
    (contracted : args.contract = .ok contract)
    (isNew : ∃ createdAt, record = args.newRecord record.runId contract record.draft createdAt) :
    Opens env args before (applyAll made before) := by
  have alike := alike_effects made before
  rw [writes] at alike
  have heap : (applyAll made before).heap = Function.update before.heap before.next record :=
    alike.heap
  have next : (applyAll made before).next = before.next + 1 := alike.next
  have address : ∀ runId, (applyAll made before).address? runId =
      if runId = record.runId then some before.next else before.address? runId := by
    intro runId
    unfold Repo.address?
    rw [alike.runs]
    exact lookup_assign _ _ _ _
  refine ⟨?_, uuids_le made before, ?_⟩
  · intro runId found installed
    rw [address] at installed
    rw [next]
    split at installed
    · cases installed
      exact Nat.lt_succ_self _
    · exact Nat.lt_succ_of_lt (allocated runId found installed)
  · intro runId found installed
    obtain ⟨at', atRun, rfl⟩ := Repo.run?_eq_some.1 installed
    rw [address] at atRun
    rw [heap]
    split at atRun
    · rename_i same
      cases atRun
      subst same
      rw [Function.update_self]
      obtain ⟨createdAt, isNew⟩ := isNew
      exact .inr ⟨named, contract, record.draft, createdAt, contracted, isNew⟩
    · rw [Function.update_of_ne (allocated runId at' atRun).ne]
      exact .inl (Repo.run?_eq_some.2 ⟨at', atRun, rfl⟩)

theorem open_stage {args : OpenArgs} {before : Repo} {origin : Origin Repo Query}
    {made : List Write} {stop : Stop Exc Query Reply} (allocated : before.Allocated)
    (stage : Stage env ok (.openRun args) origin made stop)
    (held : Opens env args before origin.start ∧ (origin.query = none → origin.start = before)) :
    Opens env args before (applyAll made origin.start) := by
  cases stage with
  | quiet untouched _ => exact held.1.quiet untouched
  | change site updates fate place writes ends change => cases change
  | opened args' record contract isOpen first writes named contracted isNew ends =>
      cases isOpen
      rw [held.2 first] at writes named ⊢
      exact .opened allocated writes named contracted isNew
  | copied _ _ _ isReassign => cases isReassign
  | copyFailed _ _ _ isReassign => cases isReassign
  | swapped _ _ _ _ isReassign => cases isReassign
  | patched _ _ _ _ _ _ _ _ _ isPatch => cases isPatch
  | concluded _ _ _ _ _ _ _ _ _ _ _ isPatch => cases isPatch

theorem open_records {args : OpenArgs} {before after : Repo} {result : Except Exc Reply}
    (allocated : before.Allocated)
    (runs : ((Call.openRun args).prog env).Runs ok before after result) :
    Opens env args before after := by
  refine Prog.Chain.induct (fun origin => Opens env args before origin.start ∧
      (origin.query = none → origin.start = before))
    (fun state _ => Opens env args before state) ?_ ?_ ?_ (Call.stages runs) ?_
  · exact fun origin made query stage held =>
      ⟨open_stage allocated stage held, fun first => by cases first⟩
  · exact fun origin made value stage held => open_stage allocated stage held
  · exact fun origin made error stage held => open_stage allocated stage held
  · exact ⟨⟨allocated, le_refl _, fun _ _ found => .inl found⟩, fun _ => rfl⟩

end Open

section Histories

variable {env : Env} {ok : (query : Query) → Answer query → Prop}
  {permits : Call → Repo → Prop} {moves : View → View → Prop}

/-- A sequential history of the Observer, from a new repository. -/
abbrev Observed (env : Env) (ok : (query : Query) → Answer query → Prop)
    (entries : List (Entry Repo Exc Answer Reply Call)) (repo : Repo) : Prop :=
  History (Call.prog env) ok Repo.empty entries repo

/-- What a call does to the records installed for the runs. -/
theorem Rule.relates (rule : Rule env ok permits moves) {call : Call} {before after : Repo}
    {result : Except Exc Reply} (allocated : before.Allocated) (permitted : permits call before)
    (runs : (call.prog env).Runs ok before after result) :
    after.Allocated ∧ ∀ runId record', after.run? runId = some record' →
      (∃ record, before.run? runId = some record ∧
        moves ⟨before.uuids, record⟩ ⟨after.uuids, record'⟩) ∨
      ∃ args, call = .openRun args ∧ NewRun env args before.uuids runId record' := by
  by_cases isOpen : ∃ args, call = .openRun args
  · obtain ⟨args, rfl⟩ := isOpen
    have opens := open_records allocated runs
    refine ⟨opens.allocated, fun runId record' found => ?_⟩
    rcases opens.record runId record' found with same | isNew
    · exact .inl ⟨record', same, rule.still opens.uuids (.refl _)⟩
    · exact .inr ⟨args, rfl, isNew⟩
  · by_cases isReassign : ∃ args, call = .reassignDynamicNode args
    · obtain ⟨args, rfl⟩ := isReassign
      obtain ⟨moved, allocated'⟩ := rule.reassign_moved allocated runs
      exact ⟨allocated', fun runId record' found => .inl (moved runId record' found)⟩
    · have heap := rule.call_moves runs permitted (fun args same => isOpen ⟨args, same⟩)
        fun args same => isReassign ⟨args, same⟩
      exact ⟨heap.allocated allocated,
        fun runId record' found => .inl (heap.moved runId record' found)⟩

/-- A run stays installed. -/
theorem installed_apply {repo : Repo} {runId : String} (write : Write)
    (installed : (repo.address? runId).isSome) :
    ((apply write repo).address? runId).isSome := by
  cases write with
  | install other address =>
      show ((assign repo.runs other address).lookup runId).isSome
      rw [lookup_assign]
      split
      · rfl
      · exact installed
  | _ => exact installed

/-- The call opens no run under the id of an installed one. -/
def Repo.isFresh (repo : Repo) (env : Env) : Call → Bool
  | .openRun args => (repo.address? (args.newRunId env repo.uuids)).isNone
  | _ => true

/-- The record of a run after a call comes from the one before. -/
theorem Rule.follows (rule : Rule env ok permits moves) {call : Call} {before after : Repo}
    {result : Except Exc Reply} (allocated : before.Allocated) (permitted : permits call before)
    (fresh : before.isFresh env call) (runs : (call.prog env).Runs ok before after result)
    {runId : String} {record : RunRecord} (installed : before.run? runId = some record) :
    ∃ record', after.run? runId = some record' ∧
      moves ⟨before.uuids, record⟩ ⟨after.uuids, record'⟩ := by
  obtain ⟨address, found, -⟩ := Repo.run?_eq_some.1 installed
  have stays : (after.address? runId).isSome :=
    runs.preserves (fun repo => (repo.address? runId).isSome)
      (fun write repo => installed_apply write) (by rw [found]; rfl)
  obtain ⟨address', found'⟩ := Option.isSome_iff_exists.1 stays
  have installed' : after.run? runId = some (after.heap address') :=
    Repo.run?_eq_some.2 ⟨address', found', rfl⟩
  obtain ⟨-, relates⟩ := rule.relates allocated permitted runs
  rcases relates runId _ installed' with ⟨other, foundOther, moved⟩ | ⟨args, isOpen, isNew⟩
  · rw [installed] at foundOther
    cases foundOther
    exact ⟨_, installed', moved⟩
  · subst isOpen
    unfold Repo.isFresh at fresh
    dsimp only at fresh
    rw [← isNew.named, found] at fresh
    cases fresh

/-- The record of a run after calls comes from the one before them. -/
theorem Rule.lasts (rule : Rule env ok permits moves) {repo repo' : Repo}
    {entries : List (Entry Repo Exc Answer Reply Call)}
    (history : History (Call.prog env) ok repo entries repo') (allocated : repo.Allocated)
    (permitted : ∀ entry ∈ entries, permits entry.label entry.before)
    (fresh : ∀ entry ∈ entries, entry.before.isFresh env entry.label)
    {runId : String} {record : RunRecord} (installed : repo.run? runId = some record) :
    ∃ record', repo'.run? runId = some record' ∧
      moves ⟨repo.uuids, record⟩ ⟨repo'.uuids, record'⟩ := by
  let held := fun state : Repo => state.Allocated ∧
    ∃ record', state.run? runId = some record' ∧
      moves ⟨repo.uuids, record⟩ ⟨state.uuids, record'⟩
  have step : ∀ entry ∈ entries, held entry.before → held entry.after := by
    rintro entry member ⟨allocated, record', installed, moved⟩
    have runs := history.runs entry member
    obtain ⟨record'', installed', moved'⟩ :=
      rule.follows allocated (permitted entry member) (fresh entry member) runs installed
    exact ⟨(rule.relates allocated (permitted entry member) runs).1, record'', installed',
      rule.trans moved moved'⟩
  have initial : held repo := ⟨allocated, record, installed, rule.still (le_refl _) (.refl _)⟩
  exact (history.preserves step initial).2

/-- Every installed record has a property. -/
structure Repo.All (holds : View → Prop) (repo : Repo) : Prop where
  allocated : repo.Allocated
  record : ∀ runId record, repo.run? runId = some record → holds ⟨repo.uuids, record⟩

theorem Repo.All.empty (holds : View → Prop) : Repo.empty.All holds :=
  ⟨fun _ _ found => (by cases found), fun _ _ found => (by cases found)⟩

section Invariant

variable {holds : View → Prop} (rule : Rule env ok permits moves)
variable (keeps : ∀ before after, moves before after → holds before → holds after)
variable (isNew : ∀ args drawn runId record uuids, NewRun env args drawn runId record →
  holds ⟨uuids, record⟩)
include rule keeps isNew

theorem Rule.call_all {call : Call} {before after : Repo} {result : Except Exc Reply}
    (permitted : permits call before) (runs : (call.prog env).Runs ok before after result)
    (all : before.All holds) : after.All holds := by
  obtain ⟨allocated, relates⟩ := rule.relates all.allocated permitted runs
  refine ⟨allocated, fun runId record' found => ?_⟩
  rcases relates runId record' found with ⟨record, installed, moved⟩ | ⟨args, -, opened⟩
  · exact keeps _ _ moved (all.record runId record installed)
  · exact isNew args _ runId record' _ opened

/-- A property that new runs have and calls preserve holds of every record of a history. -/
theorem Rule.invariant {entries : List (Entry Repo Exc Answer Reply Call)} {repo : Repo}
    (history : Observed env ok entries repo)
    (permitted : ∀ entry ∈ entries, permits entry.label entry.before) :
    repo.All holds ∧ ∀ entry ∈ entries, entry.before.All holds := by
  have step : ∀ entry ∈ entries, entry.before.All holds → entry.after.All holds :=
    fun entry member all =>
      rule.call_all keeps isNew (permitted entry member) (history.runs entry member) all
  exact ⟨history.preserves step (Repo.All.empty holds),
    history.preserves_at step (Repo.All.empty holds)⟩

end Invariant

end Histories

end Loom
