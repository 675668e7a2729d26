import Loom.Contracts.Types
import Loom.Coroutine.Basic
import Loom.Keyed
import Loom.Observer.Agents
import Mathlib.Algebra.Group.Int.Defs
import Mathlib.Data.List.Sort

/-!
# Message receipts

The operations of the repository on message receipts, in both storage profiles.  The dictionary
`self.message_receipts` is a write-through cache of the table `message_receipts` where there is
a database, and all there is where there is none.

A statement of a session is sent (`execute`), evaluated on the table, and its rows arrive later
(`rows`); a commit is sent (`commit`), performed, and returns later (`committed`).  A statement or
a commit that raises has no effect.  A commit updates the columns that differ from what the session
has loaded.  Row locks (`with_for_update`) are left out: they only rule out interleavings.
-/

namespace Loom

open Coroutine

namespace ReceiptState

/-- `state in {"completed", "failed", "interrupted"}`. -/
def isTerminal (state : ReceiptState) : Bool :=
  state = .completed || state = .failed || state = .interrupted

/-- `state in {"accepted", "queued", "retryable"}`. -/
def isWaiting (state : ReceiptState) : Bool :=
  state = .accepted || state = .queued || state = .retryable

end ReceiptState

/-- The key of a receipt: workspace and request. -/
abbrev ReceiptKey := String × String

namespace MessageReceipt

def key (receipt : MessageReceipt) : ReceiptKey := (receipt.workspaceId, receipt.requestId)

/-- The row after a session that has loaded it as `loaded` and changed it to `new` commits. -/
def merge (row loaded new : MessageReceipt) : MessageReceipt where
  workspaceId := row.workspaceId
  requestId := row.requestId
  conversationRef :=
    if new.conversationRef = loaded.conversationRef then row.conversationRef
    else new.conversationRef
  prompt := if new.prompt = loaded.prompt then row.prompt else new.prompt
  state := if new.state = loaded.state then row.state else new.state
  claimToken := if new.claimToken = loaded.claimToken then row.claimToken else new.claimToken
  attemptCount :=
    if new.attemptCount = loaded.attemptCount then row.attemptCount else new.attemptCount
  nextAttemptAt :=
    if new.nextAttemptAt = loaded.nextAttemptAt then row.nextAttemptAt else new.nextAttemptAt
  assistantText :=
    if new.assistantText = loaded.assistantText then row.assistantText else new.assistantText
  runId := if new.runId = loaded.runId then row.runId else new.runId
  outcome := if new.outcome = loaded.outcome then row.outcome else new.outcome
  createdAt := if new.createdAt = loaded.createdAt then row.createdAt else new.createdAt
  updatedAt := if new.updatedAt = loaded.updatedAt then row.updatedAt else new.updatedAt

end MessageReceipt

/-- An item of `self.message_receipt_events`. -/
structure ReceiptEvent where
  workspaceId : String
  conversationRef : String
  requestId : String
  state : ReceiptState
  createdAt : Timestamp
  deriving Repr, DecidableEq, Inhabited

/-- The receipts of the repository: the cache, the table, and whether
`self._message_receipt_lock` is held. -/
structure Mailbox where
  receipts : List MessageReceipt := []
  rows : List MessageReceipt := []
  events : List ReceiptEvent := []
  locked : Bool := false
  deriving Repr, DecidableEq, Inhabited

namespace Mailbox

/-- `self.message_receipts.get(key)`. -/
def cached? (mailbox : Mailbox) (key : ReceiptKey) : Option MessageReceipt :=
  Keyed.find? MessageReceipt.key mailbox.receipts key

/-- The stored row of a key. -/
def row? (mailbox : Mailbox) (key : ReceiptKey) : Option MessageReceipt :=
  Keyed.find? MessageReceipt.key mailbox.rows key

end Mailbox

/-- A changed object of a session: what was loaded, or nothing for an added one, and its values. -/
abbrev RowChange := Option MessageReceipt × MessageReceipt

/-- The effect of one changed object on the table. -/
def commitRow (rows : List MessageReceipt) (change : RowChange) : List MessageReceipt :=
  match change with
  | (none, new) => rows ++ [new]
  | (some loaded, new) =>
      rows.map fun row => if row.key = new.key then row.merge loaded new else row

inductive MailWrite where
  /-- `self.message_receipts[key] = receipt` for each of some receipts. -/
  | cache (receipts : List MessageReceipt)
  /-- The changes of a committed session. -/
  | commit (changes : List RowChange)
  | event (event : ReceiptEvent)
  | acquire
  | release
  deriving Repr, DecidableEq, Inhabited

instance : Update MailWrite Mailbox where
  apply update mailbox :=
    match update with
    | .cache receipts =>
        { mailbox with receipts := Keyed.putAll MessageReceipt.key mailbox.receipts receipts }
    | .commit changes => { mailbox with rows := changes.foldl commitRow mailbox.rows }
    | .event event => { mailbox with events := mailbox.events ++ [event] }
    | .acquire => { mailbox with locked := true }
    | .release => { mailbox with locked := false }

inductive MailQuery where
  /-- `datetime.now(timezone.utc)`. -/
  | now
  /-- `async with self._message_receipt_lock`. -/
  | lock
  /-- A statement is sent. -/
  | execute
  /-- The rows that a `select` has found, ordered by `created_at` or not at all. -/
  | rows (found : List MessageReceipt) (ordered : Bool)
  /-- `session.commit()`. -/
  | commit
  /-- The commit returns. -/
  | committed
  deriving Repr, DecidableEq, Inhabited

def MailAnswer : MailQuery → Type
  | .now => Timestamp
  | .lock => Unit
  | .execute => Except Exc Unit
  | .rows _ _ => List MessageReceipt
  | .commit => Except Exc Unit
  | .committed => Unit

/-- A selection returns what it has found, in its order. -/
def MailAnswer.Allowed : (query : MailQuery) → MailAnswer query → Prop
  | .rows found ordered, answer => List.Perm answer found ∧ (ordered = true →
      List.Pairwise (fun left right : MessageReceipt => left.createdAt ≤ right.createdAt) answer)
  | .now, _ | .lock, _ | .execute, _ | .commit, _ | .committed, _ => True

/-- An operation on message receipts. -/
abbrev MailOp (α : Type) := Prog Mailbox Exc MailWrite MailAnswer α

/-- The new values of `update_message_receipt`. -/
structure ReceiptUpdate where
  claimToken : String
  state : Option ReceiptState := none
  assistantText : Option String := none
  runId : Option String := none
  outcome : Option Json := none
  deriving Repr, DecidableEq, Inhabited

/-- `{"error": error}`. -/
def errorOutcome (error : Dict) : Json := .obj [("error", .obj error)]

namespace MessageReceipt

def queuedAt (receipt : MessageReceipt) (now : Timestamp) : MessageReceipt :=
  { receipt with state := .queued, updatedAt := now }

/-- The backoff before the next attempt: a quarter of a second, doubled with every attempt, at
most a minute. -/
def retryDelay (receipt : MessageReceipt) : Timestamp :=
  min 60000000 (max 250000 (250000 * 2 ^ min receipt.attemptCount 8))

def retriedAt (receipt : MessageReceipt) (now : Timestamp) (reason : Option Dict) :
    MessageReceipt :=
  { receipt with
    state := .retryable, nextAttemptAt := some (now + receipt.retryDelay), updatedAt := now
    outcome := some (errorOutcome
      (match reason with
      | some (first :: rest) => first :: rest
      | _ => [("code", .str "driver_unavailable")])) }

def interruptedAt (receipt : MessageReceipt) (now : Timestamp) : MessageReceipt :=
  { receipt with
    state := .interrupted, claimToken := none, nextAttemptAt := none, updatedAt := now
    outcome := some (errorOutcome [("code", .str "user_interrupt")]) }

def claimedAt (receipt : MessageReceipt) (now : Timestamp) (claimToken : String) :
    MessageReceipt :=
  { receipt with
    state := .inFlight, claimToken := some claimToken, attemptCount := receipt.attemptCount + 1
    nextAttemptAt := none, updatedAt := now }

/-- The receipt after an update that moves it to `state`. -/
def updatedAs (receipt : MessageReceipt) (now : Timestamp) (update : ReceiptUpdate)
    (state : ReceiptState) : MessageReceipt :=
  { receipt with
    state := state, updatedAt := now
    assistantText := update.assistantText.or receipt.assistantText
    runId := update.runId.or receipt.runId
    outcome := update.outcome.or receipt.outcome
    claimToken := if state.isTerminal || state = .retryable then none else receipt.claimToken
    nextAttemptAt := if state = .retryable then some now else receipt.nextAttemptAt }

/-- The event that is recorded when a receipt has changed its state. -/
def event (receipt : MessageReceipt) : ReceiptEvent where
  workspaceId := receipt.workspaceId
  conversationRef := receipt.conversationRef
  requestId := receipt.requestId
  state := receipt.state
  createdAt := receipt.updatedAt

end MessageReceipt

namespace MailOp

/-- `datetime.now(timezone.utc)`. -/
def clock : MailOp Timestamp := .await .now .ret

/-- `async with self._message_receipt_lock`. -/
def locked {α : Type} (body : MailOp α) : MailOp α :=
  .await .lock fun _ => .write .acquire (body.finalize .release)

/-- A statement on another table. -/
def statement : MailOp Unit := .await .execute Prog.ofExcept

/-- A `select` on the table of receipts. -/
def select (wanted : MessageReceipt → Bool) (ordered : Bool) : MailOp (List MessageReceipt) := do
  statement
  let mailbox ← Prog.get
  .await (.rows (mailbox.rows.filter wanted) ordered) .ret

/-- `session.get(MessageReceiptRow, key)`. -/
def getRow (key : ReceiptKey) : MailOp (Option MessageReceipt) := do
  let rows ← select (fun row => row.key = key) false
  .ret rows.head?

/-- `session.commit()`.  The primary key admits one row for each key. -/
def commit (changes : List RowChange) : MailOp Unit := do
  .await .commit Prog.ofExcept
  let mailbox ← Prog.get
  if changes.any fun change => change.1.isNone && (mailbox.row? change.2.key).isSome then
    .await .committed fun _ => .raise ⟨.integrityError, "message_receipts"⟩
  else
    .write (.commit changes) (.await .committed fun _ => .ret ())

/-- `_load_message_receipt`. -/
def loadMessageReceipt (storage : Storage) (key : ReceiptKey) :
    MailOp (Option MessageReceipt) := do
  let mailbox ← Prog.get
  match mailbox.cached? key, storage with
  | some cached, _ => .ret (some cached)
  | none, .memory => .ret none
  | none, .database => do
      match ← getRow key with
      | none => .ret none
      | some receipt => do
          Prog.tell (.cache [receipt])
          .ret (some receipt)

/-- The cache takes over a receipt; a change of state is recorded. -/
def settle (receipt : MessageReceipt) (previousState : Option ReceiptState) : MailOp Unit := do
  Prog.tell (.cache [receipt])
  if previousState ≠ some receipt.state then
    Prog.tell (.event receipt.event)
  else
    .ret ()

/-- `_persist_message_receipt`. -/
def persistMessageReceipt (storage : Storage) (receipt : MessageReceipt) : MailOp Unit := do
  let mailbox ← Prog.get
  let previousState := (mailbox.cached? receipt.key).map MessageReceipt.state
  match storage with
  | .memory => settle receipt previousState
  | .database => do
      let row ← getRow receipt.key
      commit [(row, receipt)]
      settle receipt (previousState.or (row.map MessageReceipt.state))

/-- `_load_message_receipt`, where a missing receipt is a `KeyError`. -/
def requireMessageReceipt (storage : Storage) (key : ReceiptKey) : MailOp MessageReceipt := do
  match ← loadMessageReceipt storage key with
  | none => .raise (.keyError key.2)
  | some receipt => .ret receipt

/-- Persist a receipt and return it. -/
def persisted (storage : Storage) (receipt : MessageReceipt) : MailOp MessageReceipt := do
  persistMessageReceipt storage receipt
  .ret receipt

/-- A receipt that exists already is returned to the request that created it. -/
def reuseReceipt (existing : MessageReceipt) (conversationRef prompt : String) :
    MailOp MessageReceipt :=
  if existing.conversationRef ≠ conversationRef ∨ existing.prompt ≠ prompt then
    .raise (.valueError "request_id_reused")
  else
    .ret existing

/-- The receipt that the winner of a race for the primary key has committed. -/
def resolveRace (storage : Storage) (receipt : MessageReceipt) :
    Except Exc Unit → MailOp MessageReceipt
  | .ok () => .ret receipt
  | .error error =>
      if error.kind = .integrityError then do
        match ← loadMessageReceipt storage receipt.key with
        | none => .raise error
        | some existing => reuseReceipt existing receipt.conversationRef receipt.prompt
      else
        .raise error

/-- Persist a new receipt. -/
def insertReceipt (storage : Storage) (receipt : MessageReceipt) : MailOp MessageReceipt :=
  match storage with
  | .memory => persisted storage receipt
  | .database => do
      let inserted ← (persistMessageReceipt storage receipt).attempt
      resolveRace storage receipt inserted

/-- `create_or_get_message_receipt`.  A receipt with an empty name does not validate. -/
def createOrGetMessageReceipt (storage : Storage) (key : ReceiptKey)
    (conversationRef prompt : String) : MailOp MessageReceipt :=
  locked do
    match ← loadMessageReceipt storage key with
    | some existing => reuseReceipt existing conversationRef prompt
    | none => do
        let now ← clock
        Prog.guard (key.1 ≠ "" ∧ key.2 ≠ "" ∧ conversationRef ≠ "")
          (Exc.valueError "validation_error")
        insertReceipt storage
          { workspaceId := key.1, requestId := key.2, conversationRef := conversationRef
            prompt := prompt, state := .accepted, attemptCount := 0, nextAttemptAt := some now
            createdAt := now, updatedAt := now }

/-- `queue_message_receipt`. -/
def queueMessageReceipt (storage : Storage) (key : ReceiptKey) : MailOp MessageReceipt :=
  locked do
    let receipt ← requireMessageReceipt storage key
    if receipt.state = .accepted ∨ receipt.state = .retryable then
      let now ← clock
      persisted storage (receipt.queuedAt now)
    else
      .ret receipt

/-- `retry_message_receipt`.  An empty claim token is no claim. -/
def retryMessageReceipt (storage : Storage) (key : ReceiptKey) (reason : Option Dict) :
    MailOp MessageReceipt :=
  locked do
    let receipt ← requireMessageReceipt storage key
    if receipt.state.isTerminal then
      .ret receipt
    else if receipt.state = .inFlight ∧ receipt.claimToken.any (· ≠ "") then
      .ret receipt
    else
      let now ← clock
      persisted storage (receipt.retriedAt now reason)

/-- `interrupt_message_receipt`. -/
def interruptMessageReceipt (storage : Storage) (key : ReceiptKey) : MailOp MessageReceipt :=
  locked do
    let receipt ← requireMessageReceipt storage key
    if receipt.state.isTerminal then
      .ret receipt
    else if receipt.state = .inFlight then
      .ret receipt
    else
      let now ← clock
      persisted storage (receipt.interruptedAt now)

/-- `claim_message_receipt`. -/
def claimMessageReceipt (storage : Storage) (key : ReceiptKey) (claimToken : String)
    (conversationRef : Option String) : MailOp MessageReceipt :=
  locked do
    let receipt ← requireMessageReceipt storage key
    Prog.guard (conversationRef.all fun wanted => receipt.conversationRef = wanted)
      (Exc.valueError "request_id_reused")
    if receipt.state.isTerminal then
      .ret receipt
    else if receipt.state = .inFlight then
      .ret receipt
    else
      let now ← clock
      persisted storage (receipt.claimedAt now claimToken)

/-- `update_message_receipt`. -/
def updateMessageReceipt (storage : Storage) (key : ReceiptKey) (update : ReceiptUpdate) :
    MailOp MessageReceipt :=
  locked do
    let receipt ← requireMessageReceipt storage key
    if receipt.state.isTerminal then
      if update.state.all fun state => state = receipt.state then
        .ret receipt
      else
        .raise (.valueError "receipt_terminal")
    else do
      Prog.guard (receipt.claimToken = some update.claimToken)
        (Exc.valueError "stale_claim_token")
      let newState := update.state.getD receipt.state
      Prog.guard (newState = .inFlight ∨ newState.isTerminal ∨ newState = .retryable)
        (Exc.valueError "invalid_receipt_transition")
      let now ← clock
      persisted storage (receipt.updatedAs now update newState)

/-- The update of `release_message_receipt`. -/
def releaseUpdate (claimToken : String) : ReceiptUpdate where
  claimToken := claimToken
  state := some .retryable
  outcome := some (errorOutcome [("code", .str "delivery_released")])

/-- `release_message_receipt`. -/
def releaseMessageReceipt (storage : Storage) (key : ReceiptKey) (claimToken : String) :
    MailOp MessageReceipt :=
  updateMessageReceipt storage key (releaseUpdate claimToken)

/-! ### Operations on all receipts of a workspace -/

/-- Whether a receipt is a claim of a driver of the workspace. -/
def isInFlight (workspaceId : String) (receipt : MessageReceipt) : Bool :=
  receipt.workspaceId = workspaceId && receipt.state = .inFlight

/-- The claims of a workspace are given back in the cache. -/
def recoverCached (workspaceId : String) (now : Timestamp) : MailOp Nat := do
  let mailbox ← Prog.get
  let found := mailbox.receipts.filter (isInFlight workspaceId)
  Prog.tell (.cache (found.map (AgentOp.recoverReceipt workspaceId now)))
  .ret found.length

/-- The claims of a workspace are given back in the table, and in the cache once this is
committed. -/
def recoverStored (workspaceId : String) (now : Timestamp) : MailOp Nat := do
  let rows ← select (isInFlight workspaceId) false
  commit (rows.map fun row => (some row, AgentOp.recoverReceipt workspaceId now row))
  Prog.tell (.cache (rows.map (AgentOp.recoverReceipt workspaceId now)))
  .ret rows.length

/-- `recover_message_receipts_for_driver`. -/
def recoverMessageReceiptsForDriver (storage : Storage) (workspaceId : String) : MailOp Nat :=
  locked do
    let now ← clock
    match storage with
    | .memory => recoverCached workspaceId now
    | .database => recoverStored workspaceId now

/-- `register_agent`, as far as it reaches the receipts.  It does not take the lock, and its
session reads the agents and threads of the workspace first. -/
def registerAgent (storage : Storage) (registration : AgentRegistration) : MailOp Unit := do
  let now ← clock
  match storage, registration.role with
  | .memory, .slave => .ret ()
  | .memory, .driver => do
      let _ ← recoverCached registration.workspaceId now
      .ret ()
  | .database, .slave => do
      statement
      commit []
  | .database, .driver => do
      statement
      statement
      let _ ← recoverStored registration.workspaceId now
      statement

/-- The receipts of a selection, which the cache takes over where they come from the table. -/
def listed (storage : Storage) (wanted : MessageReceipt → Bool) :
    MailOp (List MessageReceipt) :=
  match storage with
  | .memory => do
      let mailbox ← Prog.get
      .ret mailbox.receipts
  | .database => do
      let rows ← select wanted true
      Prog.tell (.cache rows)
      .ret rows

/-- Whether a receipt is listed for a workspace and an optional conversation. -/
def isListed (workspaceId : String) (conversationRef : Option String) (receipt : MessageReceipt) :
    Bool :=
  receipt.workspaceId = workspaceId &&
    conversationRef.all fun wanted => receipt.conversationRef = wanted

/-- `list_message_receipts`. -/
def listMessageReceipts (storage : Storage) (workspaceId : String)
    (conversationRef : Option String) : MailOp (List MessageReceipt) := do
  let receipts ← listed storage (isListed workspaceId conversationRef)
  .ret ((receipts.filter (isListed workspaceId conversationRef)).insertionSort
    fun left right => left.createdAt ≤ right.createdAt)

/-- Whether a receipt waits in a workspace. -/
def isWaiting (workspaceId : String) (receipt : MessageReceipt) : Bool :=
  receipt.workspaceId = workspaceId && receipt.state.isWaiting

/-- `list_dispatchable_message_receipts`. -/
def listDispatchableMessageReceipts (storage : Storage) (workspaceId : String) :
    MailOp (List MessageReceipt) := do
  let now ← clock
  let receipts ← listed storage (isWaiting workspaceId)
  .ret (receipts.filter fun receipt =>
    isWaiting workspaceId receipt && receipt.nextAttemptAt.all fun next => next ≤ now)

end MailOp

/-! ### Calls -/

/-- A call on message receipts with its arguments. -/
inductive MailCall where
  | createOrGet (key : ReceiptKey) (conversationRef prompt : String)
  | get (key : ReceiptKey)
  | list (workspaceId : String) (conversationRef : Option String)
  | listDispatchable (workspaceId : String)
  | queue (key : ReceiptKey)
  | retry (key : ReceiptKey) (reason : Option Dict)
  | interrupt (key : ReceiptKey)
  | claim (key : ReceiptKey) (claimToken : String) (conversationRef : Option String)
  | update (key : ReceiptKey) (change : ReceiptUpdate)
  | release (key : ReceiptKey) (claimToken : String)
  | recover (workspaceId : String)
  | register (registration : AgentRegistration)
  deriving Repr, DecidableEq, Inhabited

inductive MailReply where
  | receipt (receipt : MessageReceipt)
  | found (receipt : Option MessageReceipt)
  | receipts (receipts : List MessageReceipt)
  | recovered (count : Nat)
  | registered
  deriving Repr, DecidableEq, Inhabited

/-- The program of a call. -/
def MailCall.prog (storage : Storage) : MailCall → MailOp MailReply
  | .createOrGet key conversationRef prompt =>
      (MailOp.createOrGetMessageReceipt storage key conversationRef prompt).map .receipt
  | .get key => (MailOp.loadMessageReceipt storage key).map .found
  | .list workspaceId conversationRef =>
      (MailOp.listMessageReceipts storage workspaceId conversationRef).map .receipts
  | .listDispatchable workspaceId =>
      (MailOp.listDispatchableMessageReceipts storage workspaceId).map .receipts
  | .queue key => (MailOp.queueMessageReceipt storage key).map .receipt
  | .retry key reason => (MailOp.retryMessageReceipt storage key reason).map .receipt
  | .interrupt key => (MailOp.interruptMessageReceipt storage key).map .receipt
  | .claim key claimToken conversationRef =>
      (MailOp.claimMessageReceipt storage key claimToken conversationRef).map .receipt
  | .update key change => (MailOp.updateMessageReceipt storage key change).map .receipt
  | .release key claimToken => (MailOp.releaseMessageReceipt storage key claimToken).map .receipt
  | .recover workspaceId =>
      (MailOp.recoverMessageReceiptsForDriver storage workspaceId).map .recovered
  | .register registration => (MailOp.registerAgent storage registration).map fun _ => .registered

end Loom
