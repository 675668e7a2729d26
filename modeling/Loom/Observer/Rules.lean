import Loom.Observer.Changes

/-!
# Rules for the primitives of an operation

The equations of `Prog.Does` at the primitives that operations are written in, and what the
writes of a segment do to the repository.
-/

namespace Loom

open Coroutine

/-! ### Effects on the repository -/

@[simp]
theorem effects_nil : effects [] = [] := rfl

@[simp]
theorem effects_append (first second : List Write) :
    effects (first ++ second) = effects first ++ effects second := by
  unfold effects
  rw [List.filter_append]

theorem effects_minor {made : List Write} (areMinor : ∀ write ∈ made, write.isMinor) :
    effects made = [] := by
  unfold effects
  rw [List.filter_eq_nil_iff]
  intro write member
  simp [areMinor write member]

@[simp]
theorem effects_cons_minor {write : Write} (isMinor : write.isMinor) (made : List Write) :
    effects (write :: made) = effects made := by
  unfold effects
  simp [isMinor]

@[simp]
theorem effects_cons_record (address : Nat) (update : RecordWrite) (made : List Write) :
    effects (.record address update :: made) = .record address update :: effects made := rfl

@[simp]
theorem effects_cons_alloc (record : RunRecord) (made : List Write) :
    effects (.alloc record :: made) = .alloc record :: effects made := rfl

@[simp]
theorem effects_cons_install (runId : String) (address : Nat) (made : List Write) :
    effects (.install runId address :: made) = .install runId address :: effects made := rfl

@[simp]
theorem effects_cons_storeReceipt (operationId : String) (receipt : PatchReceipt)
    (made : List Write) :
    effects (.storeReceipt operationId receipt :: made) =
      .storeReceipt operationId receipt :: effects made := rfl

@[simp]
theorem effects_cons_takeUuid (made : List Write) :
    effects (.takeUuid :: made) = effects made := rfl

@[simp]
theorem effects_writesAt (address : Nat) (updates : List RecordWrite) :
    effects (writesAt address updates) = writesAt address updates := by
  unfold effects writesAt
  rw [List.filter_eq_self]
  intro write member
  obtain ⟨update, -, rfl⟩ := List.mem_map.1 member
  rfl

/-- The two repositories hold the same records, installed alike, and the same receipts. -/
structure Repo.Alike (repo other : Repo) : Prop where
  heap : repo.heap = other.heap
  next : repo.next = other.next
  runs : repo.runs = other.runs
  idempotency : repo.idempotency = other.idempotency

namespace Repo.Alike

theorem refl (repo : Repo) : repo.Alike repo := ⟨rfl, rfl, rfl, rfl⟩

theorem symm {repo other : Repo} (alike : repo.Alike other) : other.Alike repo :=
  ⟨alike.heap.symm, alike.next.symm, alike.runs.symm, alike.idempotency.symm⟩

theorem trans {first second third : Repo} (one : first.Alike second) (two : second.Alike third) :
    first.Alike third :=
  ⟨one.heap.trans two.heap, one.next.trans two.next, one.runs.trans two.runs,
    one.idempotency.trans two.idempotency⟩

theorem minor {write : Write} (isMinor : write.isMinor) (repo : Repo) :
    repo.Alike (apply write repo) := by
  cases write with
  | takeUuid => exact ⟨rfl, rfl, rfl, rfl⟩
  | storeSlaves view => exact ⟨rfl, rfl, rfl, rfl⟩
  | acquire runId => exact ⟨rfl, rfl, rfl, rfl⟩
  | release runId => exact ⟨rfl, rfl, rfl, rfl⟩
  | acquireCapability lock => exact ⟨rfl, rfl, rfl, rfl⟩
  | releaseCapability lock => exact ⟨rfl, rfl, rfl, rfl⟩
  | record address update => cases isMinor
  | alloc record => cases isMinor
  | install runId address => cases isMinor
  | storeReceipt operationId receipt => cases isMinor

theorem apply {repo other : Repo} (alike : repo.Alike other) (write : Write) :
    (apply write repo).Alike (Coroutine.apply write other) := by
  rcases repo with ⟨heap, next, runs, idempotency, slaves, locked, held, uuids⟩
  rcases other with ⟨heap', next', runs', idempotency', slaves', locked', held', uuids'⟩
  obtain ⟨rfl, rfl, rfl, rfl⟩ := alike
  cases write <;> exact ⟨rfl, rfl, rfl, rfl⟩

theorem applyAll {repo other : Repo} (alike : repo.Alike other) (made : List Write) :
    (applyAll made repo).Alike (Coroutine.applyAll made other) := by
  induction made generalizing repo other with
  | nil => exact alike
  | cons write made ih => exact ih (alike.apply write)

end Repo.Alike

/-- Minor writes leave records, installation and receipts alone. -/
theorem alike_effects (made : List Write) (repo : Repo) :
    (applyAll made repo).Alike (applyAll (effects made) repo) := by
  induction made generalizing repo with
  | nil => exact Repo.Alike.refl repo
  | cons write made ih =>
      by_cases isMinor : write.isMinor
      · rw [effects_cons_minor isMinor, applyAll_cons]
        exact (ih _).trans ((Repo.Alike.minor isMinor repo).symm.applyAll _)
      · have kept : effects (write :: made) = write :: effects made := by
          unfold effects
          simp [isMinor]
        rw [kept, applyAll_cons, applyAll_cons]
        exact ih _

theorem applyAll_writesAt (address : Nat) (updates : List RecordWrite) (repo : Repo) :
    applyAll (writesAt address updates) repo =
      { repo with heap :=
          Function.update repo.heap address (applyAll updates (repo.heap address)) } := by
  induction updates generalizing repo with
  | nil =>
      show repo = _
      rw [applyAll_nil, Function.update_eq_self]
  | cons update updates ih =>
      show applyAll (writesAt address updates) (apply (Write.record address update) repo) = _
      rw [ih]
      show ({ repo with heap := _ } : Repo) = _
      simp only [Repo.mk.injEq, and_true]
      funext other
      by_cases same : other = address
      · subst same
        simp [apply]
      · simp [apply, Function.update_of_ne same]

/-- The record at the site of a segment with updates, once they are made. -/
theorem heap_of_writes {made : List Write} {repo : Repo} {address : Nat}
    {updates : List RecordWrite} (writes : effects made = writesAt address updates) :
    (applyAll made repo).heap =
      Function.update repo.heap address (applyAll updates (repo.heap address)) := by
  have alike := (alike_effects made repo).heap
  rwa [writes, applyAll_writesAt] at alike

theorem heap_at (made : List Write) (repo : Repo) (address : Nat) (updates : List RecordWrite)
    (writes : effects made = writesAt address updates) :
    (applyAll made repo).heap address = applyAll updates (repo.heap address) := by
  rw [heap_of_writes writes, Function.update_self]

/-- A segment that allocates a record and updates it. -/
theorem heap_of_alloc {made : List Write} {repo : Repo} {record : RunRecord}
    {updates : List RecordWrite}
    (writes : effects made = .alloc record :: writesAt repo.next updates) :
    (applyAll made repo).heap = Function.update repo.heap repo.next (applyAll updates record) ∧
      (applyAll made repo).next = repo.next + 1 := by
  have alike := alike_effects made repo
  rw [writes, applyAll_cons, applyAll_writesAt] at alike
  refine ⟨?_, alike.next⟩
  rw [alike.heap]
  simp [apply]

theorem uuids_le (made : List Write) (repo : Repo) :
    repo.uuids ≤ (applyAll made repo).uuids := by
  induction made generalizing repo with
  | nil => exact le_refl _
  | cons write made ih =>
      refine le_trans ?_ (ih _)
      cases write with
      | takeUuid => exact Nat.le_succ _
      | record address update => exact le_refl _
      | alloc record => exact le_refl _
      | install runId address => exact le_refl _
      | storeSlaves view => exact le_refl _
      | acquire runId => exact le_refl _
      | release runId => exact le_refl _
      | acquireCapability lock => exact le_refl _
      | releaseCapability lock => exact le_refl _
      | storeReceipt operationId receipt => exact le_refl _

/-- A uuid that is drawn within a segment lies between the counters at its ends. -/
theorem drawn_within (made earlier later : List Write) (repo : Repo) :
    repo.uuids ≤ (applyAll (made ++ earlier) repo).uuids ∧
      (applyAll (made ++ earlier) repo).uuids <
        (applyAll (made ++ (earlier ++ Write.takeUuid :: later)) repo).uuids := by
  refine ⟨uuids_le _ repo, ?_⟩
  rw [← List.append_assoc, applyAll_append (made ++ earlier), applyAll_cons]
  exact uuids_le later (apply Write.takeUuid (applyAll (made ++ earlier) repo))

/-! ### Rules of `Does` -/

namespace Op

open Prog (Does continued)

variable {α β : Type} {ok : (query : Query) → Answer query → Prop} {rely : Repo → Repo → Prop}
variable {block : Origin Repo Query → List Write → Stop Exc Query β → Prop}
variable {origin : Origin Repo Query} {made : List Write}

theorem does_load {runId : String} {rest : Nat → Op β} :
    Does ok rely block (load runId >>= rest) origin made ↔
      block origin made (.awaits (.load runId)) ∧
        ∀ state, rely (applyAll made origin.start) state →
          (∀ answer, ok (.load runId) answer →
            (state.address? runId = none →
              block ⟨some (.load runId), state⟩ [] (.raises (.keyError runId))) ∧
            ∀ address, state.address? runId = some address →
              Does ok rely block (rest address) ⟨some (.load runId), state⟩ []) := by
  refine and_congr Iff.rfl (forall_congr' fun state => forall_congr' fun _ =>
    forall_congr' fun answer => forall_congr' fun _ => ?_)
  cases found : state.address? runId with
  | none => simp [Prog.bind, Does, applyAll, found]
  | some address => simp [Prog.bind, Does, applyAll, found]

theorem does_recordAt {address : Nat} {rest : RunRecord → Op β} :
    Does ok rely block (recordAt address >>= rest) origin made ↔
      Does ok rely block (rest ((applyAll made origin.start).heap address)) origin made :=
  Iff.rfl

theorem does_read {next : Repo → Op α} {rest : α → Op β} :
    Does ok rely block ((.read next : Op α) >>= rest) origin made ↔
      Does ok rely block (next (applyAll made origin.start) >>= rest) origin made :=
  Iff.rfl

theorem does_get {rest : Repo → Op β} :
    Does ok rely block (Prog.get >>= rest) origin made ↔
      Does ok rely block (rest (applyAll made origin.start)) origin made :=
  Iff.rfl

theorem does_pure_bind {value : α} {rest : α → Op β} :
    Does ok rely block ((.ret value : Op α) >>= rest) origin made ↔
      Does ok rely block (rest value) origin made :=
  Iff.rfl

theorem does_modify {address : Nat} {update : RecordWrite} {rest : Unit → Op β} :
    Does ok rely block (modify address update >>= rest) origin made ↔
      Does ok rely block (rest ()) origin (made ++ [Write.record address update]) :=
  Iff.rfl

theorem does_appendEvent {address : Nat} {event : Event} {rest : Unit → Op β} :
    Does ok rely block (appendEvent address event >>= rest) origin made ↔
      Does ok rely block (rest ()) origin (made ++ [Write.record address (.appendEvent event)]) :=
  Iff.rfl

theorem does_tell {write : Write} {rest : Unit → Op β} :
    Does ok rely block ((Prog.tell write : Op Unit) >>= rest) origin made ↔
      Does ok rely block (rest ()) origin (made ++ [write]) :=
  Iff.rfl

theorem does_uuid {env : Env} {rest : String → Op β} :
    Does ok rely block (uuid env >>= rest) origin made ↔
      Does ok rely block (rest (env.hex (applyAll made origin.start).uuids)) origin
        (made ++ [Write.takeUuid]) :=
  Iff.rfl

theorem does_now {env : Env} {rest : String → Op β} :
    Does ok rely block (now env >>= rest) origin made ↔
      Does ok rely block (rest (env.now (applyAll made origin.start).uuids)) origin made :=
  Iff.rfl

theorem does_alloc {record : RunRecord} {rest : Nat → Op β} :
    Does ok rely block (alloc record >>= rest) origin made ↔
      Does ok rely block (rest (applyAll made origin.start).next) origin
        (made ++ [Write.alloc record]) :=
  Iff.rfl

theorem does_check {condition : Prop} [Decidable condition] {text : String}
    {rest : Unit → Op β} :
    Does ok rely block (check condition text >>= rest) origin made ↔
      (condition → Does ok rely block (rest ()) origin made) ∧
        (¬condition → block origin made (.raises (.valueError text))) := by
  rw [Prog.bind_eq, Does.bind_iff]
  exact Does.guard_iff

theorem does_ofExcept {outcome : Except Exc α} {rest : α → Op β} :
    Does ok rely block ((Prog.ofExcept outcome : Op α) >>= rest) origin made ↔
      (∀ value, outcome = .ok value → Does ok rely block (rest value) origin made) ∧
        ∀ error, outcome = .error error → block origin made (.raises error) := by
  rw [Prog.bind_eq, Does.bind_iff]
  exact Does.ofExcept_iff

theorem does_provenance {env : Env} {address : Nat} {known : Option CapabilityPackageVersion}
    {rest : Provenance → Op β} :
    Does ok rely block (provenance env address known >>= rest) origin made ↔
      (∀ value, (applyAll made origin.start).provenance env
          ((applyAll made origin.start).heap address) known = .ok value →
        Does ok rely block (rest value) origin made) ∧
      ∀ error, (applyAll made origin.start).provenance env
          ((applyAll made origin.start).heap address) known = .error error →
        block origin made (.raises error) := by
  unfold provenance
  rw [does_read, does_ofExcept]

theorem does_transition {address : Nat} {event : RunEvent} {reason : Option Json}
    {rest : Unit → Op β} :
    Does ok rely block (transition address event reason >>= rest) origin made ↔
      (((applyAll made origin.start).heap address).transitionTarget event ≠ none →
        Does ok rely block (rest ()) origin
          (made ++ [Write.record address (.transition event reason)])) ∧
      (((applyAll made origin.start).heap address).transitionTarget event = none →
        block origin made (.raises illegalTransition)) := by
  unfold transition
  rw [does_read]
  cases target : ((applyAll made origin.start).heap address).transitionTarget event with
  | none =>
      simp only [ne_eq, not_true_eq_false, false_implies, true_and, forall_const]
      exact Iff.rfl
  | some state =>
      simp only [ne_eq, reduceCtorEq, not_false_eq_true, forall_const, false_implies,
        and_true]
      exact Iff.rfl

theorem does_persist {address : Nat} {rest : Unit → Op β} :
    Does ok rely block (persist address >>= rest) origin made ↔
      block origin made (.awaits (.persist ((applyAll made origin.start).heap address))) ∧
        ∀ state, rely (applyAll made origin.start) state →
          ∀ answer : Except Exc Unit,
            ok (.persist ((applyAll made origin.start).heap address)) answer →
            (answer = .ok () → Does ok rely block (rest ())
              ⟨some (.persist ((applyAll made origin.start).heap address)), state⟩ []) ∧
            ∀ error, answer = .error error →
              block ⟨some (.persist ((applyAll made origin.start).heap address)), state⟩ []
                (.raises error) := by
  refine and_congr Iff.rfl (forall_congr' fun state => forall_congr' fun _ =>
    forall_congr' fun answer => forall_congr' fun _ => ?_)
  cases answer with
  | error error =>
      show block _ _ _ ↔ _
      simp
  | ok value =>
      show Does ok rely block (rest ()) _ _ ↔ _
      simp

end Op

/-! ### Descriptions of calls -/

/-- The writes an operation may make between its checks and its write block: the minor ones,
and light events and packages that it appends to the record. -/
def Write.isLight : Write → Bool
  | .record _ (.appendEvent event) => event.isLight
  | .record _ (.appendPackage _) => true
  | write => write.isMinor

theorem Write.isLight_of_isMinor {write : Write} (isMinor : write.isMinor) : write.isLight := by
  cases write with
  | record address update => cases isMinor
  | alloc record => cases isMinor
  | install runId address => cases isMinor
  | storeReceipt operationId receipt => cases isMinor
  | takeUuid => rfl
  | storeSlaves view => rfl
  | acquire runId => rfl
  | release runId => rfl
  | acquireCapability lock => rfl
  | releaseCapability lock => rfl

/-- The moves of the environment that an operation has to tolerate. -/
abbrev Tolerant (rely : Repo → Repo → Prop) : Prop :=
  Prog.Absorbs rely (fun write : Write => write.isLight = true)

theorem Tolerant.minor {rely : Repo → Repo → Prop} (tolerant : Tolerant rely) :
    Prog.Absorbs rely (fun write : Write => write.isMinor = true) :=
  tolerant.mono fun _ isMinor => Write.isLight_of_isMinor isMinor

/-- The description of an operation's segments, for the call it belongs to. -/
def blockOf (env : Env) (ok : (query : Query) → Answer query → Prop)
    (rely : Repo → Repo → Prop) (call : Call) {α : Type} (reply : α → Reply)
    (origin : Origin Repo Query) (made : List Write) (stop : Stop Exc Query α) : Prop :=
  Block env ok rely call origin made (stop.map reply)

/-- Leaving the lock changes no description. -/
theorem Block.release {env : Env} {ok : (query : Query) → Answer query → Prop}
    {rely : Repo → Repo → Prop} {call : Call} {origin : Origin Repo Query} {made : List Write}
    {stop : Stop Exc Query Reply} (block : Block env ok rely call origin made stop)
    (runId : String) : Block env ok rely call origin (made ++ [Write.release runId]) stop := by
  have same : effects (made ++ [Write.release runId]) = effects made := by
    rw [effects_append]
    exact List.append_nil _
  have uuids : (applyAll (made ++ [Write.release runId]) origin.start).uuids =
      (applyAll made origin.start).uuids := by
    rw [applyAll_append]
    rfl
  have placed : ∀ site : Site, site.Place rely call origin made →
      site.Place rely call origin (made ++ [Write.release runId]) :=
    fun site place => ⟨place.start, place.uuids.trans uuids.symm, place.loaded, place.since⟩
  cases block with
  | quiet untouched silent => exact .quiet (same.trans untouched) silent
  | change site updates fate place writes ends change =>
      exact .change site updates fate (placed site place) (same.trans writes) ends change
  | opened args record contract isOpen first writes named contracted isNew ends number drawn
      drafted body =>
      exact .opened args record contract isOpen first (same.trans writes) named contracted isNew
        ends number (by rwa [uuids]) drafted body
  | copied site args move isReassign place writes ends =>
      exact .copied site args move isReassign (placed site place) (same.trans writes) ends
  | copyFailed site args error isReassign place writes ends =>
      exact .copyFailed site args error isReassign (placed site place) (same.trans writes) ends
  | swapped args copied copy address isReassign query isCopy allocated moved writes ends =>
      exact .swapped args copied copy address isReassign query isCopy allocated moved
        (same.trans writes) ends
  | patched site patchId baseVersion baseDigest operationId operations packages draft receipt
      isPatch place admitted editable writes drafted concluded =>
      exact .patched site patchId baseVersion baseDigest operationId operations packages draft
        receipt isPatch (placed site place) admitted editable (same.trans writes) drafted concluded
  | concluded patchId baseVersion baseDigest operationId operations address before middle earlier
      receipt updates isPatch found moved wrote movedAgain late writes isReceipt =>
      exact .concluded patchId baseVersion baseDigest operationId operations address before middle
        earlier receipt updates isPatch found moved wrote movedAgain late (same.trans writes)
        isReceipt

/-- The segment has touched no record so far. -/
structure Calm (call : Call) (origin : Origin Repo Query) (made : List Write) : Prop where
  untouched : effects made = []
  unstored : call.isSingle → ∀ record, origin.query ≠ some (.persist record)

/-- The segments that a call reaches through checks and service awaits. -/
abbrev Reached (rely : Repo → Repo → Prop) :=
  Prog.Passes rely (fun write : Write => write.isMinor = true)
    (fun query : Query => query.isService = true)

namespace Calm

variable {env : Env} {ok : (query : Query) → Answer query → Prop} {rely : Repo → Repo → Prop}
variable {call : Call} {origin origin' : Origin Repo Query} {made made' : List Write}
variable {α : Type} {reply : α → Reply}

theorem first {state : Repo} : Calm call ⟨none, state⟩ [] :=
  ⟨rfl, fun _ _ same => by cases same⟩

theorem loaded {runId : String} {state : Repo} : Calm call ⟨some (.load runId), state⟩ [] :=
  ⟨rfl, fun _ _ same => by cases same⟩

theorem resumed (notSingle : call.isSingle = false) {query : Query} {state : Repo} :
    Calm call ⟨some query, state⟩ [] :=
  ⟨rfl, fun single => absurd single (by simp [notSingle])⟩

theorem silent (calm : Calm call origin made) {stop : Stop Exc Query α}
    (unasked : call.isPatch = false → stopsAtStorage stop = false) :
    Silent ok call origin stop := by
  refine ⟨unasked, fun single record query => absurd query (calm.unstored single record), ?_⟩
  intro last record error query
  refine absurd query (calm.unstored ?_ record)
  cases call <;> first | rfl | cases last

theorem block (calm : Calm call origin made) (stop : Stop Exc Query α)
    (unasked : stopsAtStorage stop = false) :
    blockOf env ok rely call reply origin made stop := by
  refine .quiet calm.untouched (calm.silent fun _ => ?_)
  cases stop with
  | awaits query => cases query <;> exact unasked
  | returns value => rfl
  | raises error => rfl

theorem block_service (calm : Calm call origin made) {query : Query} (isService : query.isService) :
    blockOf env ok rely call reply origin made (.awaits query) := by
  refine calm.block _ ?_
  cases query with
  | persist record => cases isService
  | _ => rfl

theorem minor (calm : Calm call origin made) {write : Write} (isMinor : write.isMinor) :
    Calm call origin (made ++ [write]) := by
  refine ⟨?_, calm.unstored⟩
  rw [effects_append, calm.untouched, effects_cons_minor isMinor]
  rfl

theorem reached (calm : Calm call origin made) (reached : Reached rely origin made origin' made') :
    Calm call origin' made' := by
  cases reached with
  | here more areMinor =>
      refine ⟨?_, calm.unstored⟩
      rw [effects_append, calm.untouched, effects_minor areMinor]
      rfl
  | later query state more isService moved areMinor =>
      refine ⟨effects_minor areMinor, ?_⟩
      rintro - record same
      cases same
      cases isService

theorem heap (calm : Calm call origin made) :
    (applyAll made origin.start).heap = origin.start.heap := by
  have alike := (alike_effects made origin.start).heap
  rwa [calm.untouched] at alike

theorem heap_at (calm : Calm call origin made) (more : List Write) (address : Nat)
    (updates : List RecordWrite) (writes : effects more = writesAt address updates) :
    (applyAll (made ++ more) origin.start).heap address =
      applyAll updates (origin.start.heap address) := by
  refine Loom.heap_at _ _ _ _ ?_
  rw [effects_append, calm.untouched, writes]
  rfl

end Calm

namespace Op

open Prog (Does)

variable {env : Env} {ok : (query : Query) → Answer query → Prop} {rely : Repo → Repo → Prop}
variable {call : Call} {origin : Origin Repo Query} {made : List Write}
variable {α β : Type} {reply : β → Reply}

/-- Minor writes and awaits between two parts of an operation. -/
theorem does_reads (tolerant : Tolerant rely) {program : Op α} {rest : α → Op β}
    (reads : Reads program) (calm : Calm call origin made)
    (goes : ∀ origin' made' value, Reached rely origin made origin' made' →
      Calm call origin' made' → program.Returns ok (.ok value) →
      Does ok rely (blockOf env ok rely call reply) (rest value) origin' made') :
    Does ok rely (blockOf env ok rely call reply) (program >>= rest) origin made := by
  rw [Prog.bind_eq, Does.bind_iff]
  refine Prog.Only.does tolerant.minor reads ?_ ?_ ?_
  · exact fun _ _ _ reached isService => (calm.reached reached).block_service isService
  · exact fun _ _ _ reached returns => goes _ _ _ reached (calm.reached reached) returns
  · exact fun _ _ _ reached _ => (calm.reached reached).block _ rfl

theorem does_loaded {runId : String} {rest : Nat → Op β} (calm : Calm call origin made)
    (goes : ∀ state address, rely (applyAll made origin.start) state →
      state.address? runId = some address →
      Does ok rely (blockOf env ok rely call reply) (rest address) ⟨some (.load runId), state⟩ []) :
    Does ok rely (blockOf env ok rely call reply) (load runId >>= rest) origin made := by
  rw [does_load]
  refine ⟨calm.block _ rfl, fun state moved _ _ => ⟨fun _ => (Calm.loaded).block _ rfl, ?_⟩⟩
  exact fun address found => goes state address moved found

theorem does_checked {condition : Prop} [Decidable condition] {text : String}
    {rest : Unit → Op β} (calm : Calm call origin made)
    (goes : condition → Does ok rely (blockOf env ok rely call reply) (rest ()) origin made) :
    Does ok rely (blockOf env ok rely call reply) (check condition text >>= rest) origin made :=
  does_check.2 ⟨goes, fun _ => calm.block _ rfl⟩

theorem does_excepted {outcome : Except Exc α} {rest : α → Op β} (calm : Calm call origin made)
    (goes : ∀ value, outcome = .ok value →
      Does ok rely (blockOf env ok rely call reply) (rest value) origin made) :
    Does ok rely (blockOf env ok rely call reply) ((Prog.ofExcept outcome : Op α) >>= rest)
      origin made :=
  does_ofExcept.2 ⟨goes, fun _ _ => calm.block _ rfl⟩

/-- A part that starts with a service await: what follows it runs in a later segment. -/
theorem does_awaits (tolerant : Tolerant rely) {program : Op α} {rest : α → Op β}
    {query : Query} {next : Answer query → Op α} (starts : program = .await query next)
    (reads : Reads program) (calm : Calm call origin made)
    (goes : ∀ query' state made' value, query'.isService →
      rely (applyAll made origin.start) state → Calm call ⟨some query', state⟩ made' →
      program.Returns ok (.ok value) →
      Does ok rely (blockOf env ok rely call reply) (rest value) ⟨some query', state⟩ made') :
    Does ok rely (blockOf env ok rely call reply) (program >>= rest) origin made := by
  subst starts
  refine ⟨calm.block_service reads.1, fun state moved answer allowed => ?_⟩
  have fresh : Calm call ⟨some query, state⟩ [] := by
    refine ⟨rfl, fun _ record same => ?_⟩
    cases same
    cases reads.1
  refine does_reads tolerant (reads.2 answer) fresh ?_
  intro origin' made' value reached calm' returns
  have result := Prog.Returns.await answer allowed returns
  cases reached with
  | here more areMinor => exact goes query state _ value reads.1 moved calm' result
  | later query' state' more isService movedOn areMinor =>
      exact goes query' state' _ value isService (tolerant.trans moved movedOn) calm' result

/-- The storage call at the end of an operation. -/
theorem does_stored {address : Nat} {value : β}
    (stored : Block env ok rely call origin made
      (.awaits (.persist ((applyAll made origin.start).heap address)))) :
    Does ok rely (blockOf env ok rely call reply) (persist address >>= fun _ => .ret value)
      origin made := by
  rw [does_persist]
  refine ⟨stored, fun state moved answer allowed => ⟨fun _ => ?_, fun error isError => ?_⟩⟩
  · exact .quiet rfl ⟨fun _ => rfl, fun _ _ _ => rfl, fun _ _ _ _ raises => by cases raises⟩
  · refine .quiet rfl ⟨fun _ => rfl, fun _ _ _ => rfl, fun _ record error' query raises => ?_⟩
    cases query
    cases raises
    rw [← isError]
    exact allowed

/-- The storage call after which an operation ends whatever storage answers. -/
theorem does_stored_end {address : Nat} {program : Op β} (notLast : call.storesLast = false)
    (ends : ∀ origin, Does ok rely (fun _ made stop => made = [] ∧ stop.isFinal) program origin [])
    (stored : Block env ok rely call origin made
      (.awaits (.persist ((applyAll made origin.start).heap address)))) :
    Does ok rely (blockOf env ok rely call reply) (persist address >>= fun _ => program)
      origin made := by
  have last : ∀ (origin : Origin Repo Query) (made : List Write) (stop : Stop Exc Query β),
      made = [] ∧ stop.isFinal → blockOf env ok rely call reply origin made stop := by
    rintro origin made stop ⟨rfl, final⟩
    refine .quiet rfl ⟨fun _ => ?_, fun _ _ _ => ?_, fun isLast => ?_⟩
    · cases stop <;> first | rfl | cases final
    · cases stop <;> first | rfl | cases final
    · exact absurd isLast (by simp [notLast])
  rw [does_persist]
  refine ⟨stored, fun state moved answer allowed => ⟨fun _ => ?_, fun error isError => ?_⟩⟩
  · exact (ends _).mono last
  · exact last _ _ _ ⟨rfl, rfl⟩

theorem does_withIntentLock {runId : String} {body : Op β} {state : Repo}
    (goes : ∀ locked : Repo, Does ok rely (blockOf env ok rely call reply) body
      ⟨some (.intentLock runId), locked⟩ [.acquire runId]) :
    Does ok rely (blockOf env ok rely call reply) (withIntentLock runId body)
      ⟨none, state⟩ [] := by
  refine ⟨(Calm.first).block (.awaits _) rfl, fun locked _ _ _ => ?_⟩
  show Does ok rely (blockOf env ok rely call reply) (body.finalize (.release runId)) _ _
  rw [Does.finalize_iff]
  refine (goes locked).mono fun origin made stop block => ?_
  split
  · exact Block.release block runId
  · exact block

/-- A storage call after which the operation goes on. -/
theorem does_stored_then {address : Nat} {rest : Unit → Op β} (notSingle : call.isSingle = false)
    (stored : Block env ok rely call origin made
      (.awaits (.persist ((applyAll made origin.start).heap address))))
    (goes : ∀ record state, rely (applyAll made origin.start) state →
      Does ok rely (blockOf env ok rely call reply) (rest ()) ⟨some (.persist record), state⟩ []) :
    Does ok rely (blockOf env ok rely call reply) (persist address >>= rest) origin made := by
  rw [does_persist]
  refine ⟨stored, fun state moved answer allowed => ⟨fun _ => ?_, fun error _ => ?_⟩⟩
  · exact goes _ state moved
  · exact (Calm.resumed notSingle).block _ rfl

end Op

namespace RunRecord

/-- Outside repair and attestation the transition table alone decides. -/
theorem transitionTarget_eq {record : RunRecord} {event : RunEvent}
    (notRepair : event ≠ .refinementStarted) (notAccepted : event ≠ .decisionAccepted) :
    record.transitionTarget event = runTransitions record.state event := by
  unfold transitionTarget
  cases runTransitions record.state event with
  | none => rfl
  | some target => simp [notRepair, notAccepted]

theorem transitionTarget_committed {record : RunRecord} :
    record.transitionTarget .committed ≠ none ↔ record.state = .thinking := by
  rw [transitionTarget_eq (by simp) (by simp)]
  simp

theorem transitionTarget_executionStarted {record : RunRecord} :
    record.transitionTarget .executionStarted ≠ none ↔ record.state = .committed := by
  rw [transitionTarget_eq (by simp) (by simp)]
  simp

theorem transitionTarget_runNeedsDecision {record : RunRecord} :
    record.transitionTarget .runNeedsDecision ≠ none ↔ record.state = .running := by
  rw [transitionTarget_eq (by simp) (by simp)]
  simp

theorem transitionTarget_runSucceeded {record : RunRecord} :
    record.transitionTarget .runSucceeded ≠ none ↔ record.state = .running := by
  rw [transitionTarget_eq (by simp) (by simp)]
  simp

end RunRecord

section Transition

variable (record : RunRecord) (event : RunEvent) (reason : Option Json)

/-- A transition changes the state and the events only. -/
theorem apply_transition : ∃ state events,
    apply (RecordWrite.transition event reason) record = { record with state, events } := by
  show ∃ state events, RecordWrite.apply (.transition event reason) record = _
  cases legal : record.transitionTarget event with
  | none => exact ⟨record.state, record.events, by simp only [RecordWrite.apply, legal]⟩
  | some target => exact ⟨target, _, by simp only [RecordWrite.apply, legal]; rfl⟩

@[simp]
theorem transition_executionId :
    (apply (RecordWrite.transition event reason) record).executionId = record.executionId := by
  obtain ⟨state, events, same⟩ := apply_transition record event reason
  rw [same]

@[simp]
theorem transition_executionEpoch :
    (apply (RecordWrite.transition event reason) record).executionEpoch =
      record.executionEpoch := by
  obtain ⟨state, events, same⟩ := apply_transition record event reason
  rw [same]

end Transition

/-- A segment that a call reaches from its load has its site. -/
theorem Site.place_of_reached {rely : Repo → Repo → Prop} {call : Call} {runId : String}
    {before : Repo} {address : Nat} {origin : Origin Repo Query} {made : List Write}
    {minor : Write → Prop}
    (names : call.runId? = some runId) (found : before.address? runId = some address)
    (reached : Prog.Passes rely minor (fun query : Query => query.isService = true)
      ⟨some (.load runId), before⟩ [] origin made) (final : List Write) :
    Site.Place ⟨address, before, origin.start, (applyAll final origin.start).uuids⟩ rely call
      origin final := by
  refine ⟨rfl, rfl, ?_, ?_⟩
  · intro other sameCall
    rw [names, Option.some.injEq] at sameCall
    rwa [← sameCall]
  · cases reached with
    | here more areMinor => exact .inl ⟨rfl, .inr ⟨runId, rfl⟩⟩
    | later query state more isService moved areMinor =>
        exact .inr ⟨moved, query, rfl, isService⟩

/-- A segment that a call resumes from a service await has its site. -/
theorem Site.place_late {rely : Repo → Repo → Prop} {call : Call} {runId : String}
    {before state : Repo} {address : Nat} {query : Query}
    (names : call.runId? = some runId) (found : before.address? runId = some address)
    (moved : rely before state) (isService : query.isService) (final : List Write) :
    Site.Place ⟨address, before, state, (applyAll final state).uuids⟩ rely call
      ⟨some query, state⟩ final := by
  refine ⟨rfl, rfl, ?_, .inr ⟨moved, query, rfl, isService⟩⟩
  intro other sameCall
  rw [names, Option.some.injEq] at sameCall
  rwa [← sameCall]

section WriteBlocks

variable {env : Env} {ok : (query : Query) → Answer query → Prop} {rely : Repo → Repo → Prop}
variable {call : Call} {runId : String} {before : Repo} {address : Nat}
variable {origin : Origin Repo Query} {made : List Write}

theorem calm_reached (reached : Reached rely ⟨some (.load runId), before⟩ [] origin made) :
    Calm call origin made :=
  (Calm.loaded).reached reached

/-- A write block that ends at the storage call. -/
theorem block_of_place {more : List Write} {updates : List RecordWrite}
    (calm : Calm call origin made)
    (place : Site.Place
      ⟨address, before, origin.start, (applyAll (made ++ more) origin.start).uuids⟩
      rely call origin (made ++ more))
    (change : Change env ok rely
      ⟨address, before, origin.start, (applyAll (made ++ more) origin.start).uuids⟩ call
      updates .stored) (writes : effects more = writesAt address updates) :
    Block env ok rely call origin (made ++ more)
      (.awaits (.persist ((applyAll (made ++ more) origin.start).heap address))) := by
  have all : effects (made ++ more) = writesAt address updates := by
    rw [effects_append, calm.untouched, writes]
    rfl
  refine .change _ updates .stored place all ?_ change
  rw [heap_at _ _ _ _ all]
  rfl

/-- A write block that ends with an exception. -/
theorem block_of_place_raised {more : List Write} {updates : List RecordWrite} {error : Exc}
    (calm : Calm call origin made)
    (place : Site.Place
      ⟨address, before, origin.start, (applyAll (made ++ more) origin.start).uuids⟩
      rely call origin (made ++ more))
    (change : Change env ok rely
      ⟨address, before, origin.start, (applyAll (made ++ more) origin.start).uuids⟩ call
      updates (.raised error)) (writes : effects more = writesAt address updates) :
    Block env ok rely call origin (made ++ more) (.raises error) := by
  refine .change _ updates (.raised error) place ?_ rfl change
  rw [effects_append, calm.untouched, writes]
  rfl

theorem block_of_stored (names : call.runId? = some runId)
    (found : before.address? runId = some address)
    (reached : Reached rely ⟨some (.load runId), before⟩ [] origin made) {more : List Write}
    {updates : List RecordWrite}
    (change : Change env ok rely
      ⟨address, before, origin.start, (applyAll (made ++ more) origin.start).uuids⟩ call
      updates .stored) (writes : effects more = writesAt address updates) :
    Block env ok rely call origin (made ++ more)
      (.awaits (.persist ((applyAll (made ++ more) origin.start).heap address))) :=
  block_of_place (calm_reached reached) (Site.place_of_reached names found reached _) change writes

theorem block_of_raised (names : call.runId? = some runId)
    (found : before.address? runId = some address)
    (reached : Reached rely ⟨some (.load runId), before⟩ [] origin made) {more : List Write}
    {updates : List RecordWrite} {error : Exc}
    (change : Change env ok rely
      ⟨address, before, origin.start, (applyAll (made ++ more) origin.start).uuids⟩ call
      updates (.raised error)) (writes : effects more = writesAt address updates) :
    Block env ok rely call origin (made ++ more) (.raises error) :=
  block_of_place_raised (calm_reached reached) (Site.place_of_reached names found reached _)
    change writes

end WriteBlocks

end Loom
