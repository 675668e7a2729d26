import Loom.Coroutine.Basic
import Loom.Observer.Record
import Mathlib.Logic.Function.Basic

/-!
# The Observer repository

The in-memory state of `ObserverRepository`, the services it awaits, and the primitives that
its operations are written in.

Records are objects: `runs` maps a run id to an address and `heap` holds the object at an
address.  An operation keeps the address it loaded, so it goes on writing to that object
even after `reassign_dynamic_node` has put another one in its place.

`Env` collects what is deterministic and not part of this repository: the JSON, digest,
schema and model validation libraries and the stream of `uuid4` values.  `Query` lists what
an operation awaits; its answers are given by the environment and may differ at every await.
-/

namespace Loom

open Coroutine

abbrev Bytes := List UInt8

/-- Deterministic functions of libraries that the repository uses. -/
structure Env where
  /-- `uuid4().hex[:12]` of the n-th call. -/
  hex : Nat → String
  /-- `datetime.now(timezone.utc).isoformat()` once so many ids have been drawn. -/
  now : Nat → String
  /-- `str(value)` of a value that is not a string. -/
  text : Json → String
  /-- `dict(value)` of a value that is not an object. -/
  dictOf : Json → Except Exc Dict
  /-- `rfc8785.dumps`. -/
  canonicalJsonBytes : Json → Except Exc Bytes
  sha256 : Bytes → String
  /-- `json.loads`. -/
  jsonLoads : Bytes → Except Exc Json
  /-- `TaskClosure.canonical_digest`. -/
  closureDigest : TaskClosure → Except Exc String
  /-- `digest_json(payload, domain="loom/operation-descriptor/v1")`. -/
  descriptorDigest : Json → Except Exc String
  /-- The validators and `model_post_init` of `CapabilityPackageVersion`: the digest it gets. -/
  packageDigest : CapabilityPackageVersion → Except Exc String
  resourceRef : Json → Except Exc ResourceRef
  ioContract : Json → Except Exc IoContract
  validationEvidence : Json → Except Exc ValidationEvidence
  executionContract : Json → Except Exc ExecutionContract
  capabilityExport : Json → Except Exc CapabilityExport
  computeSpec : Json → Except Exc ComputeSpec
  constraint : Json → Except Exc Json
  typedHole : Json → Except Exc TypedHole
  computeBinding : Json → Except Exc ComputeBinding
  /-- `io_schema.validate_schema`. -/
  validateSchema : Json → Except Exc Unit
  /-- `io_schema.validate`. -/
  validate : Json → Json → Except Exc (List SchemaError)
  /-- Decoding and parsing of an orchestration program. -/
  parseProgram : Bytes → Option String
  /-- `validate_entry_signature`. -/
  entryBlockers : String → List Json
  descriptorRegistry : List ((String × String) × Json)
  orchestratorRuntimeAvailable : Option Bool
  dockerOnPath : Bool

/-- `ContentStat`. -/
structure ContentStat where
  declaredDigest : Option String
  mediaType : String
  integrityVerified : Bool
  deriving Repr, DecidableEq, Inhabited

/-- The locks of the capability operations: `_promotion_lock` and `_activation_locks`. -/
inductive CapabilityLock where
  | promotion
  | activation (workspaceId packageVersionRef targetSlave : String)
  deriving Repr, DecidableEq, Inhabited

/-- The services an operation awaits. -/
inductive Query where
  | load (runId : String)
  | allRecords
  | intentLock (runId : String)
  | capabilityLock (lock : CapabilityLock)
  | persist (record : RunRecord)
  | storeReceipt (operationId : String)
  | contentGet (digest : String)
  | contentStat (digest : String)
  | contentPut (content : Bytes) (mediaType : String)
  | runValidator (program : Bytes) (input : Json)
  | listAgents (workspaceId : String)
  | checkProgram (source : String)
  deriving Repr, DecidableEq, Inhabited

/-- What each service answers.  Storage and network calls may raise. -/
def Answer : Query → Type
  | .load _ => Unit
  | .allRecords => Except Exc (Option (List String))
  | .intentLock _ => Unit
  | .capabilityLock _ => Unit
  | .persist _ => Except Exc Unit
  | .storeReceipt _ => Except Exc Unit
  | .contentGet _ => Except Exc (Option Bytes)
  | .contentStat _ => Except Exc (Option ContentStat)
  | .contentPut _ _ => Except Exc Unit
  | .runValidator _ _ => Except Exc Json
  | .listAgents _ => Except Exc (List Dict)
  | .checkProgram _ => Except (String × Dict) (List Dict)

/-- The Slaves as of the last refresh. -/
structure SlaveView where
  instances : List ((String × String) × Dict) := []
  agents : List (String × Dict) := []
  capabilities : List (String × Dict) := []
  operations : List (String × List String) := []
  deriving Repr, DecidableEq, Inhabited

structure PatchReceipt where
  receipt : String
  runId : String
  draftVersion : String
  draftDigest : String
  snapshot : TaskClosure
  patchCursor : Nat
  ready : Bool
  blockers : List Json
  deriving Repr, DecidableEq, Inhabited

/-- The in-memory state of the repository. -/
structure Repo where
  heap : Nat → RunRecord
  next : Nat
  runs : List (String × Nat)
  idempotency : List (String × PatchReceipt)
  slaves : SlaveView
  locked : List String
  capabilityLocks : List CapabilityLock
  uuids : Nat

namespace Repo

/-- The address of the record installed for a run. -/
def address? (repo : Repo) (runId : String) : Option Nat := repo.runs.lookup runId

/-- The record installed for a run. -/
def run? (repo : Repo) (runId : String) : Option RunRecord :=
  (repo.address? runId).map repo.heap

/-- `self.runs.values()`. -/
def records (repo : Repo) : List RunRecord := repo.runs.map fun entry => repo.heap entry.2

/-- The repository as constructed. -/
def empty : Repo where
  heap := fun _ => default
  next := 0
  runs := []
  idempotency := []
  slaves := {}
  locked := []
  capabilityLocks := []
  uuids := 0

end Repo

/-- `entries[key] = address` on an insertion-ordered dictionary. -/
def assign (entries : List (String × Nat)) (key : String) (address : Nat) : List (String × Nat) :=
  if (entries.lookup key).isSome then
    entries.map fun entry => if entry.1 = key then (key, address) else entry
  else
    entries ++ [(key, address)]

/-- The updates of the repository. -/
inductive Write where
  | record (address : Nat) (update : RecordWrite)
  | alloc (record : RunRecord)
  | install (runId : String) (address : Nat)
  | takeUuid
  | storeSlaves (view : SlaveView)
  | acquire (runId : String)
  | release (runId : String)
  | acquireCapability (lock : CapabilityLock)
  | releaseCapability (lock : CapabilityLock)
  | storeReceipt (operationId : String) (receipt : PatchReceipt)
  deriving Repr, DecidableEq, Inhabited

instance : Update Write Repo where
  apply update repo :=
    match update with
    | .record address change =>
        { repo with heap := Function.update repo.heap address (change.apply (repo.heap address)) }
    | .alloc record =>
        { repo with heap := Function.update repo.heap repo.next record, next := repo.next + 1 }
    | .install runId address => { repo with runs := assign repo.runs runId address }
    | .takeUuid => { repo with uuids := repo.uuids + 1 }
    | .storeSlaves view => { repo with slaves := view }
    | .acquire runId => { repo with locked := runId :: repo.locked }
    | .release runId => { repo with locked := repo.locked.erase runId }
    | .acquireCapability lock =>
        { repo with capabilityLocks := lock :: repo.capabilityLocks }
    | .releaseCapability lock =>
        { repo with capabilityLocks := repo.capabilityLocks.erase lock }
    | .storeReceipt operationId receipt =>
        { repo with idempotency := (operationId, receipt) :: repo.idempotency }

/-- An operation of the Observer. -/
abbrev Op (α : Type) := Prog Repo Exc Write Answer α

namespace Op

/-- `raise ValueError(text)`. -/
def fail {α : Type} (text : String) : Op α := .raise (.valueError text)

/-- Raise `ValueError(text)` unless a condition holds. -/
def check (condition : Prop) [Decidable condition] (text : String) : Op Unit :=
  Prog.guard condition (.valueError text)

/-- The record at an address, as it is now. -/
def recordAt (address : Nat) : Op RunRecord := .read fun repo => .ret (repo.heap address)

/-- Update the record at an address. -/
def modify (address : Nat) (update : RecordWrite) : Op Unit :=
  Prog.tell (.record address update)

def appendEvent (address : Nat) (event : Event) : Op Unit := modify address (.appendEvent event)

/-- `uuid4().hex[:12]`. -/
def uuid (env : Env) : Op String :=
  .read fun repo => .write .takeUuid (.ret (env.hex repo.uuids))

/-- The time of the clock. -/
def now (env : Env) : Op String := .read fun repo => .ret (env.now repo.uuids)

/-- A new record object. -/
def alloc (record : RunRecord) : Op Nat :=
  .read fun repo => .write (.alloc record) (.ret repo.next)

/-- `_load`: the address of the record installed for a run. -/
def load (runId : String) : Op Nat :=
  .await (.load runId) fun _ => .read fun repo =>
    match repo.address? runId with
    | some address => .ret address
    | none => .raise (.keyError runId)

/-- `_persist`: the record as it is when storage is called. -/
def persist (address : Nat) : Op Unit :=
  .read fun repo => .await (.persist (repo.heap address)) Prog.ofExcept

/-- `_all_records`: every record in memory, or those that storage has a row for. -/
def allRecords : Op (List Nat) :=
  .await .allRecords fun
    | .error error => .raise error
    | .ok none => .read fun repo => .ret (repo.runs.map fun entry => entry.2)
    | .ok (some runIds) => .read fun repo => .ret (runIds.filterMap repo.address?)

/-- `_transition`. -/
def transition (address : Nat) (event : RunEvent) (reason : Option Json := none) : Op Unit :=
  .read fun repo =>
    match (repo.heap address).transitionTarget event with
    | some _ => modify address (.transition event reason)
    | none => .raise (.valueError "illegal_state_transition")

/-- `async with self._dynamic_intent_locks[run_id]`. -/
def withIntentLock {α : Type} (runId : String) (body : Op α) : Op α :=
  .await (.intentLock runId) fun _ =>
    .write (.acquire runId) (body.finalize (.release runId))

/-- `async with` one of the locks of the capability operations. -/
def withCapabilityLock {α : Type} (lock : CapabilityLock) (body : Op α) : Op α :=
  .await (.capabilityLock lock) fun _ =>
    .write (.acquireCapability lock) (body.finalize (.releaseCapability lock))

/-! ### Content store -/

/-- `ContentStore._normalize_digest`. -/
def normalizeDigest (text : String) : Except Exc String :=
  let raw := strip text
  let digest :=
    if isContentId raw then contentSuffix raw
    else if "sha256:".toList.isPrefixOf raw.toList then String.ofList (raw.toList.drop 7)
    else raw
  if isHexDigest digest then .ok (lower digest) else .error (.valueError "invalid_content_digest")

/-- `ContentStore._digest_from_ref`. -/
def digestFromRef (ref : ResourceRef) : Except Exc String :=
  if ref.identityCriterion ≠ none ∧ ref.identityCriterion ≠ some "content_digest" then
    .error (.valueError "invalid_content_digest")
  else normalizeDigest ref.resourceId

/-- `ContentStore.get`. -/
def contentGet (env : Env) (ref : ResourceRef) : Op Bytes :=
  match digestFromRef ref with
  | .error error => .raise error
  | .ok digest => .await (.contentGet digest) fun
      | .error error => .raise error
      | .ok none => .raise ⟨.fileNotFound, "content_not_found"⟩
      | .ok (some content) =>
          if env.sha256 content = digest then .ret content
          else .raise (.valueError "content_digest_mismatch")

/-- `ContentStore.stat`. -/
def contentStat (ref : ResourceRef) : Op (Option ContentStat) :=
  match digestFromRef ref with
  | .error error => .raise error
  | .ok digest => .await (.contentStat digest) Prog.ofExcept

/-- `ContentStore.put`. -/
def contentPut (env : Env) (content : Bytes) (mediaType : String) : Op ResourceRef :=
  .await (.contentPut content mediaType) fun
    | .error error => .raise error
    | .ok () => .ret
        { resourceId := contentPrefix ++ env.sha256 content
          identityCriterion := some "content_digest"
          accessBinding := .obj [("media_type", .str mediaType)] }

/-- `_load_json_content`. -/
def loadJsonContent (env : Env) (ref : ResourceRef) : Op Json :=
  match requireContentRef ref with
  | .error error => .raise error
  | .ok () => do
      let raw ← contentGet env ref
      match env.jsonLoads raw with
      | .ok value => .ret value
      | .error _ => .raise (.valueError "invalid_json")

/-- Load and parse an `IoContract`. -/
def loadIoContract (env : Env) (ref : ResourceRef) : Op IoContract := do
  let payload ← loadJsonContent env ref
  Prog.ofExcept (env.ioContract payload)

/-- The `except (FileNotFoundError, TypeError, ValueError)` of content reads: a handled error
raises `ValueError(text)`, any other one passes through. -/
def orContentError {α : Type} (program : Op α) (text : String) : Op α := do
  match ← program.attempt with
  | .ok value => .ret value
  | .error error => if error.isContentError then fail text else .raise error

end Op

/-- `_result_digest`. -/
def Env.resultDigest (env : Env) (value : Json) : Except Exc String :=
  (env.canonicalJsonBytes value).map env.sha256

end Loom
