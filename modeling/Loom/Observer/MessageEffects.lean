import Loom.Coroutine.Ensures
import Loom.Observer.Messages

/-!
# What the operations on message receipts do

Without interference the cache agrees with the table (`Mailbox.Sound`), and an operation on one
receipt either moves it, or leaves all receipts as they are (`Mailbox.Settles`).  Each operation is
described once in these terms.
-/

namespace Loom

open Coroutine

theorem MessageReceipt.merge_self {row new : MessageReceipt} (sameKey : new.key = row.key) :
    row.merge row new = new := by
  have pick : ∀ {α : Type} [DecidableEq α] (left right : α),
      (if left = right then right else left) = left := by
    intro α _ left right
    split
    · rename_i same
      exact same.symm
    · rfl
  simp only [MessageReceipt.key, Prod.mk.injEq] at sameKey
  unfold MessageReceipt.merge
  simp only [pick]
  rw [← sameKey.1, ← sameKey.2]

namespace Mailbox

/-- The receipt that the repository works with: the cached one, or else the stored one. -/
def load? (storage : Storage) (mailbox : Mailbox) (key : ReceiptKey) : Option MessageReceipt :=
  (mailbox.cached? key).or
    (match storage with
    | .memory => none
    | .database => mailbox.row? key)

/-- Keys are unique, and what is cached is what is stored. -/
structure Sound (storage : Storage) (mailbox : Mailbox) : Prop where
  receipts : Keyed.Distinct MessageReceipt.key mailbox.receipts
  rows : Keyed.Distinct MessageReceipt.key mailbox.rows
  coherent : storage = .database → ∀ key receipt, mailbox.cached? key = some receipt →
    mailbox.row? key = some receipt

variable {storage : Storage} {before middle after : Mailbox}

theorem Sound.setLock (sound : before.Sound storage) (flag : Bool) :
    Mailbox.Sound storage { before with locked := flag } :=
  ⟨sound.receipts, sound.rows, sound.coherent⟩

theorem Sound.load?_database (sound : before.Sound .database) (key : ReceiptKey) :
    before.load? .database key = before.row? key := by
  unfold load?
  cases cached : before.cached? key with
  | none => rfl
  | some receipt => exact (sound.coherent rfl key receipt cached).symm

theorem key_of_load? {key : ReceiptKey} {receipt : MessageReceipt}
    (found : before.load? storage key = some receipt) : receipt.key = key := by
  rcases Option.or_eq_some_iff.1 found with cached | ⟨_, stored⟩
  · exact Keyed.key_of_find? cached
  · cases storage with
    | memory => cases stored
    | database => exact Keyed.key_of_find? stored

/-- All receipts are as before. -/
def Keeps (storage : Storage) (before after : Mailbox) : Prop :=
  after.Sound storage ∧ ∀ key, after.load? storage key = before.load? storage key

/-- One receipt is new, the others are as before. -/
def Becomes (storage : Storage) (before : Mailbox) (receipt : MessageReceipt) (after : Mailbox) :
    Prop :=
  after.Sound storage ∧ ∀ key, after.load? storage key =
    if key = receipt.key then some receipt else before.load? storage key

theorem Keeps.refl (sound : before.Sound storage) : before.Keeps storage before :=
  ⟨sound, fun _ => rfl⟩

theorem Keeps.trans (earlier : before.Keeps storage middle) (later : middle.Keeps storage after) :
    before.Keeps storage after :=
  ⟨later.1, fun key => (later.2 key).trans (earlier.2 key)⟩

theorem Becomes.of_keeps {receipt : MessageReceipt} (earlier : before.Keeps storage middle)
    (later : middle.Becomes storage receipt after) : before.Becomes storage receipt after := by
  refine ⟨later.1, fun key => ?_⟩
  rw [later.2 key, earlier.2 key]

theorem cached?_cache {receipts : List MessageReceipt}
    (distinct : Keyed.Distinct MessageReceipt.key receipts) (key : ReceiptKey) :
    (apply (MailWrite.cache receipts) before).cached? key =
      (Keyed.find? MessageReceipt.key receipts key).or (before.cached? key) :=
  Keyed.find?_putAll distinct before.receipts key

/-- The cache takes over stored rows. -/
theorem Sound.cache (sound : before.Sound .database) {receipts : List MessageReceipt}
    (distinct : Keyed.Distinct MessageReceipt.key receipts)
    (stored : ∀ receipt ∈ receipts, before.row? receipt.key = some receipt) :
    before.Keeps .database (apply (MailWrite.cache receipts) before) := by
  have sound' : (apply (MailWrite.cache receipts) before).Sound .database := by
    refine ⟨sound.receipts.putAll receipts, sound.rows, fun _ key receipt found => ?_⟩
    rw [cached?_cache distinct] at found
    rcases Option.or_eq_some_iff.1 found with isNew | ⟨_, isOld⟩
    · have sameKey := Keyed.key_of_find? isNew
      rw [← sameKey]
      exact stored receipt (Keyed.mem_of_find? isNew)
    · exact sound.coherent rfl key receipt isOld
  refine ⟨sound', fun key => ?_⟩
  rw [sound'.load?_database, sound.load?_database]
  rfl

/-- The table and the cache take over the same receipts. -/
theorem Sound.putAll (sound : before.Sound .database) {receipts : List MessageReceipt}
    (distinct : Keyed.Distinct MessageReceipt.key receipts) :
    Mailbox.Sound .database
      { before with
        receipts := Keyed.putAll MessageReceipt.key before.receipts receipts
        rows := Keyed.putAll MessageReceipt.key before.rows receipts } := by
  refine ⟨sound.receipts.putAll _, sound.rows.putAll _, fun _ key receipt found => ?_⟩
  change Keyed.find? _ _ _ = _ at found
  change Keyed.find? _ _ _ = _
  dsimp only at found ⊢
  rw [Keyed.find?_putAll distinct] at found ⊢
  rcases Option.or_eq_some_iff.1 found with isNew | ⟨absent, isOld⟩
  · rw [isNew, Option.some_or]
  · rw [absent, Option.none_or]
    exact sound.coherent rfl key receipt isOld

/-- What an operation on one receipt ends with: it has moved the receipt, or it has changed
nothing and returns the receipt as it is, or raises. -/
def Settles (storage : Storage) (before : Mailbox) (key : ReceiptKey)
    (moved : MessageReceipt → MessageReceipt → Prop) (answered : MessageReceipt → Prop)
    (after : Mailbox) (result : Except Exc MessageReceipt) : Prop :=
  (∃ old new, before.load? storage key = some old ∧ moved old new ∧ new.key = key ∧
      before.Becomes storage new after ∧ result = .ok new) ∨
    (before.Keeps storage after ∧ ∀ receipt, result = .ok receipt →
      before.load? storage key = some receipt ∧ answered receipt)

namespace Settles

variable {key : ReceiptKey} {moved : MessageReceipt → MessageReceipt → Prop}
variable {answered : MessageReceipt → Prop}

theorem raises (keeps : before.Keeps storage after) (error : Exc) :
    before.Settles storage key moved answered after (.error error) :=
  Or.inr ⟨keeps, fun _ impossible => by cases impossible⟩

theorem mono {weaker : MessageReceipt → MessageReceipt → Prop} {result : Except Exc MessageReceipt}
    (settles : before.Settles storage key moved answered after result)
    (weakens : ∀ old new, old.key = key → moved old new → weaker old new) :
    before.Settles storage key weaker answered after result := by
  rcases settles with ⟨old, new, found, moves, rest⟩ | kept
  · exact Or.inl ⟨old, new, found, weakens old new (key_of_load? found) moves, rest⟩
  · exact Or.inr kept

theorem answers {receipt : MessageReceipt} (keeps : before.Keeps storage after)
    (found : before.load? storage key = some receipt) (holds : answered receipt) :
    before.Settles storage key moved answered after (.ok receipt) := by
  refine Or.inr ⟨keeps, ?_⟩
  rintro _ ⟨⟩
  exact ⟨found, holds⟩

end Settles

end Mailbox

namespace MailOp

open Mailbox

variable {storage : Storage} {mailbox : Mailbox}

theorem clock_ensures {post : Mailbox → Except Exc Timestamp → Prop}
    (read : ∀ now, post mailbox (.ok now)) : clock.Ensures MailAnswer.Allowed mailbox post :=
  fun now _ => read now

theorem statement_ensures {post : Mailbox → Except Exc Unit → Prop} (done : post mailbox (.ok ()))
    (failed : ∀ error, post mailbox (.error error)) :
    statement.Ensures MailAnswer.Allowed mailbox post := by
  intro answer _
  refine Prog.Ensures.ofExcept ?_
  cases answer with
  | ok value => exact done
  | error error => exact failed error

theorem select_ensures {wanted : MessageReceipt → Bool} {ordered : Bool}
    {post : Mailbox → Except Exc (List MessageReceipt) → Prop}
    (found : ∀ rows : List MessageReceipt, rows.Perm (mailbox.rows.filter wanted) →
      post mailbox (.ok rows))
    (failed : ∀ error, post mailbox (.error error)) :
    (select wanted ordered).Ensures MailAnswer.Allowed mailbox post := by
  refine .bind (statement_ensures ?_ failed)
  intro answer allowed
  exact found answer allowed.1

/-- The rows of a selection are rows of the table. -/
theorem stored_of_selected {wanted : MessageReceipt → Bool} (sound : mailbox.Sound storage)
    {rows : List MessageReceipt} (isFound : rows.Perm (mailbox.rows.filter wanted)) :
    ∀ row ∈ rows, mailbox.row? row.key = some row := by
  intro row member
  have isRow := (List.mem_filter.1 (isFound.mem_iff.1 member)).1
  exact Keyed.find?_of_mem sound.rows isRow

theorem getRow_ensures (sound : mailbox.Sound storage) {key : ReceiptKey}
    {post : Mailbox → Except Exc (Option MessageReceipt) → Prop}
    (found : post mailbox (.ok (mailbox.row? key)))
    (failed : ∀ error, post mailbox (.error error)) :
    (getRow key).Ensures MailAnswer.Allowed mailbox post := by
  refine .bind (select_ensures (fun rows isFound => ?_) failed)
  have same : rows.head? = mailbox.row? key := by
    cases rows with
    | nil =>
        refine (Keyed.find?_eq_none.2 fun item member sameKey => ?_).symm
        have isIn : item ∈ mailbox.rows.filter fun row => row.key = key :=
          List.mem_filter.2 ⟨member, decide_eq_true sameKey⟩
        exact List.not_mem_nil (isFound.mem_iff.2 isIn)
    | cons row rest =>
        have isWanted := (List.mem_filter.1 (isFound.mem_iff.1 List.mem_cons_self)).2
        have sameKey : row.key = key := of_decide_eq_true isWanted
        have isRow := stored_of_selected sound isFound row List.mem_cons_self
        rw [← sameKey, isRow]
        rfl
  dsimp only
  rw [same]
  exact found

theorem load_ensures (sound : mailbox.Sound storage) {key : ReceiptKey}
    {post : Mailbox → Except Exc (Option MessageReceipt) → Prop}
    (found : ∀ after, mailbox.Keeps storage after →
      post after (.ok (mailbox.load? storage key)))
    (failed : ∀ error, post mailbox (.error error)) :
    (loadMessageReceipt storage key).Ensures MailAnswer.Allowed mailbox post := by
  refine .get ?_
  have here := found mailbox (.refl sound)
  unfold load? at found here
  cases cached : mailbox.cached? key with
  | some receipt =>
      rw [cached] at here
      exact here
  | none =>
      rw [cached, Option.none_or] at here found
      cases storage with
      | memory => exact here
      | database =>
          refine .bind (getRow_ensures sound ?_ failed)
          dsimp only at found ⊢
          cases stored : mailbox.row? key with
          | none =>
              rw [stored] at here
              exact here
          | some receipt =>
              rw [stored] at found
              refine found _ (sound.cache (List.nodup_singleton _) fun row member => ?_)
              rw [List.mem_singleton.1 member, Keyed.key_of_find? stored, stored]

theorem require_ensures (sound : mailbox.Sound storage) {key : ReceiptKey}
    {post : Mailbox → Except Exc MessageReceipt → Prop}
    (found : ∀ after receipt, mailbox.Keeps storage after →
      mailbox.load? storage key = some receipt → post after (.ok receipt))
    (failed : ∀ after error, mailbox.Keeps storage after → post after (.error error)) :
    (requireMessageReceipt storage key).Ensures MailAnswer.Allowed mailbox post := by
  refine .bind (load_ensures sound (fun after keeps => ?_) fun error => ?_)
  · dsimp only
    cases loaded : mailbox.load? storage key with
    | none => exact failed after _ keeps
    | some receipt => exact found after receipt keeps loaded
  · exact failed mailbox error (.refl sound)

theorem settle_ensures {receipt : MessageReceipt} {previousState : Option ReceiptState}
    {post : Mailbox → Except Exc Unit → Prop}
    (done : ∀ events, post
      { apply (MailWrite.cache [receipt]) mailbox with events := events } (.ok ())) :
    (settle receipt previousState).Ensures MailAnswer.Allowed mailbox post := by
  change Prog.Ensures _ (if previousState ≠ some receipt.state then _ else _) _ _
  split
  · exact done _
  · exact done _

/-- Where there is no database the cache is all there is. -/
theorem becomes_memory (sound : mailbox.Sound .memory) (receipt : MessageReceipt)
    (events : List ReceiptEvent) :
    mailbox.Becomes .memory receipt
      { apply (MailWrite.cache [receipt]) mailbox with events := events } := by
  refine ⟨⟨sound.receipts.putAll [receipt], sound.rows, fun impossible => by cases impossible⟩, ?_⟩
  intro key
  unfold load?
  simp only [Option.or_none]
  exact Keyed.find?_put _ _ _

/-- Without interference the session writes what it has. -/
theorem commitRow_eq_put {rows : List MessageReceipt}
    (distinct : Keyed.Distinct MessageReceipt.key rows) (receipt : MessageReceipt) :
    commitRow rows (Keyed.find? MessageReceipt.key rows receipt.key, receipt) =
      Keyed.put MessageReceipt.key rows receipt := by
  unfold Keyed.put
  cases stored : Keyed.find? MessageReceipt.key rows receipt.key with
  | none => rfl
  | some loaded =>
      refine List.map_congr_left fun row member => ?_
      by_cases sameKey : row.key = receipt.key
      · have isRow := Keyed.find?_of_mem distinct member
        rw [sameKey] at isRow
        cases stored.symm.trans isRow
        rw [if_pos sameKey, if_pos sameKey, MessageReceipt.merge_self sameKey.symm]
      · rw [if_neg sameKey, if_neg sameKey]

theorem commitRows_eq_putAll {rows found : List MessageReceipt}
    {change : MessageReceipt → MessageReceipt} (keeps : ∀ row, (change row).key = row.key)
    (distinct : Keyed.Distinct MessageReceipt.key rows)
    (distinctFound : Keyed.Distinct MessageReceipt.key found)
    (stored : ∀ row ∈ found, Keyed.find? MessageReceipt.key rows row.key = some row) :
    (found.map fun row => (some row, change row)).foldl commitRow rows =
      Keyed.putAll MessageReceipt.key rows (found.map change) := by
  induction found generalizing rows with
  | nil => rfl
  | cons row rest ih =>
      obtain ⟨isNew, distinctRest⟩ := List.nodup_cons.1 distinctFound
      have one : commitRow rows (some row, change row) =
          Keyed.put MessageReceipt.key rows (change row) := by
        have isRow := stored row List.mem_cons_self
        rw [← commitRow_eq_put distinct, keeps row, isRow]
      rw [List.map_cons, List.foldl_cons, one]
      refine ih (Keyed.Distinct.put distinct) distinctRest fun other member => ?_
      rw [Keyed.find?_put_other, stored other (List.mem_cons_of_mem _ member)]
      rw [keeps row]
      intro same
      exact isNew (same ▸ List.mem_map_of_mem member)

/-- A receipt is written to the table and to the cache. -/
theorem becomes_database (sound : mailbox.Sound .database) (receipt : MessageReceipt)
    (events : List ReceiptEvent) :
    mailbox.Becomes .database receipt
      { apply (MailWrite.cache [receipt])
          (apply (MailWrite.commit [(mailbox.row? receipt.key, receipt)]) mailbox) with
        events := events } := by
  change mailbox.Becomes .database receipt
    { mailbox with
      receipts := Keyed.putAll MessageReceipt.key mailbox.receipts [receipt]
      rows := commitRow mailbox.rows
        (Keyed.find? MessageReceipt.key mailbox.rows receipt.key, receipt)
      events := events }
  rw [commitRow_eq_put sound.rows]
  have single : Keyed.Distinct MessageReceipt.key [receipt] := List.nodup_singleton _
  have both := sound.putAll single
  have sound' : Mailbox.Sound .database
      { mailbox with
        receipts := Keyed.putAll MessageReceipt.key mailbox.receipts [receipt]
        rows := Keyed.put MessageReceipt.key mailbox.rows receipt
        events := events } := ⟨both.receipts, both.rows, both.coherent⟩
  refine ⟨sound', fun key => ?_⟩
  rw [sound'.load?_database, sound.load?_database]
  exact Keyed.find?_put _ _ _

theorem commit_ensures {changes : List RowChange} {post : Mailbox → Except Exc Unit → Prop}
    (fresh : ∀ change ∈ changes, change.1 = none → mailbox.row? change.2.key = none)
    (done : post (apply (MailWrite.commit changes) mailbox) (.ok ()))
    (failed : ∀ error, post mailbox (.error error)) :
    (commit changes).Ensures MailAnswer.Allowed mailbox post := by
  intro sent _
  refine .bind (Prog.Ensures.ofExcept ?_)
  cases sent with
  | error error => exact failed error
  | ok value =>
      change Prog.Ensures _ (if _ then _ else _) _ _
      split
      · rename_i present
        obtain ⟨change, member, isPresent⟩ := List.any_eq_true.1 present
        rw [Bool.and_eq_true, Option.isNone_iff_eq_none] at isPresent
        rw [fresh change member isPresent.1] at isPresent
        cases isPresent.2
      · exact fun _ _ => done

theorem persist_ensures (sound : mailbox.Sound storage) {receipt : MessageReceipt}
    {post : Mailbox → Except Exc Unit → Prop}
    (done : ∀ after, mailbox.Becomes storage receipt after → post after (.ok ()))
    (failed : ∀ error, post mailbox (.error error)) :
    (persistMessageReceipt storage receipt).Ensures MailAnswer.Allowed mailbox post := by
  refine .get ?_
  dsimp only
  cases storage with
  | memory => exact settle_ensures fun events => done _ (becomes_memory sound receipt events)
  | database =>
      refine .bind (getRow_ensures sound ?_ failed)
      refine .bind (commit_ensures ?_ ?_ failed)
      · intro change member isNew
        rw [List.mem_singleton.1 member] at isNew ⊢
        exact isNew
      · exact settle_ensures fun events => done _ (becomes_database sound receipt events)

/-- Persist a receipt that was loaded and moved. -/
theorem persisted_ensures {middle : Mailbox} {key : ReceiptKey} {old new : MessageReceipt}
    {moved : MessageReceipt → MessageReceipt → Prop} {answered : MessageReceipt → Prop}
    (keeps : mailbox.Keeps storage middle) (found : mailbox.load? storage key = some old)
    (holds : moved old new) (sameKey : new.key = old.key) :
    (persisted storage new).Ensures MailAnswer.Allowed middle
      (mailbox.Settles storage key moved answered) := by
  refine .bind (persist_ensures keeps.1 (fun after becomes => ?_) fun error => ?_)
  · exact Or.inl ⟨old, new, found, holds, sameKey.trans (key_of_load? found),
      .of_keeps keeps becomes, rfl⟩
  · exact .raises keeps error

/-- The lock does not matter to an operation that runs alone. -/
theorem locked_ensures {α : Type} {body : MailOp α} {post : Mailbox → Except Exc α → Prop}
    (unlocked : ∀ after result flag, post after result → post { after with locked := flag } result)
    (holds : body.Ensures MailAnswer.Allowed { mailbox with locked := true } post) :
    (locked body).Ensures MailAnswer.Allowed mailbox post := by
  intro _ _
  refine Prog.Ensures.finalize (holds.mono ?_)
  intro after result ends
  exact unlocked after result false ends

end MailOp

/-! ### Moves of a receipt -/

/-- The receipt that a request creates. -/
def MessageReceipt.accepted (key : ReceiptKey) (conversationRef prompt : String)
    (now : Timestamp) : MessageReceipt where
  workspaceId := key.1
  requestId := key.2
  conversationRef := conversationRef
  prompt := prompt
  nextAttemptAt := some now
  createdAt := now
  updatedAt := now

/-- How a call moves a receipt. -/
inductive MailCall.Moves : MailCall → MessageReceipt → MessageReceipt → Prop where
  | queued {old : MessageReceipt} (now : Timestamp)
      (waits : old.state = .accepted ∨ old.state = .retryable) :
      Moves (.queue old.key) old (old.queuedAt now)
  | retried {old : MessageReceipt} (now : Timestamp) (reason : Option Dict)
      (isOpen : old.state.isTerminal = false)
      (unclaimed : ¬(old.state = .inFlight ∧ old.claimToken.any (· ≠ ""))) :
      Moves (.retry old.key reason) old (old.retriedAt now reason)
  | interrupted {old : MessageReceipt} (now : Timestamp) (isOpen : old.state.isTerminal = false)
      (unclaimed : old.state ≠ .inFlight) :
      Moves (.interrupt old.key) old (old.interruptedAt now)
  | claimed {old : MessageReceipt} (now : Timestamp) (claimToken : String)
      (conversationRef : Option String) (isOpen : old.state.isTerminal = false)
      (unclaimed : old.state ≠ .inFlight) :
      Moves (.claim old.key claimToken conversationRef) old (old.claimedAt now claimToken)
  | updated {old : MessageReceipt} (now : Timestamp) (change : ReceiptUpdate)
      (state : ReceiptState) (isOpen : old.state.isTerminal = false)
      (current : old.claimToken = some change.claimToken)
      (reachable : state = .inFlight ∨ state.isTerminal = true ∨ state = .retryable) :
      Moves (.update old.key change) old (old.updatedAs now change state)
  | released {old : MessageReceipt} (now : Timestamp) (claimToken : String)
      (isOpen : old.state.isTerminal = false) (current : old.claimToken = some claimToken) :
      Moves (.release old.key claimToken) old
        (old.updatedAs now (MailOp.releaseUpdate claimToken) .retryable)
  | recovered {old : MessageReceipt} (now : Timestamp)
      (claimed : old.state = .inFlight) :
      Moves (.recover old.workspaceId) old (AgentOp.recoverReceipt old.workspaceId now old)
  | fenced {old : MessageReceipt} (now : Timestamp) (registration : AgentRegistration)
      (driver : registration.role = .driver) (same : registration.workspaceId = old.workspaceId)
      (claimed : old.state = .inFlight) :
      Moves (.register registration) old (AgentOp.recoverReceipt old.workspaceId now old)

/-- What a call makes of one receipt, or of its absence. -/
inductive MailCall.Changes (call : MailCall) :
    Option MessageReceipt → Option MessageReceipt → Prop where
  | kept (receipt : Option MessageReceipt) : Changes call receipt receipt
  | created {key : ReceiptKey} {conversationRef prompt : String} (now : Timestamp)
      (same : call = .createOrGet key conversationRef prompt) :
      Changes call none (some (.accepted key conversationRef prompt now))
  | moved {old new : MessageReceipt} (moves : call.Moves old new) :
      Changes call (some old) (some new)

/-- A call leaves a sound mailbox, and changes each receipt as it may. -/
def MailCall.Effect (storage : Storage) (call : MailCall) (before after : Mailbox) : Prop :=
  after.Sound storage ∧
    ∀ key, call.Changes (before.load? storage key) (after.load? storage key)

theorem Mailbox.Keeps.effect {storage : Storage} {call : MailCall} {before after : Mailbox}
    (keeps : before.Keeps storage after) : call.Effect storage before after := by
  refine ⟨keeps.1, fun key => ?_⟩
  rw [keeps.2 key]
  exact .kept _

theorem Mailbox.Settles.effect {storage : Storage} {call : MailCall} {before after : Mailbox}
    {key : ReceiptKey} {answered : MessageReceipt → Prop} {result : Except Exc MessageReceipt}
    (settles : before.Settles storage key call.Moves answered after result) :
    call.Effect storage before after := by
  rcases settles with ⟨old, new, found, moves, sameKey, becomes, _⟩ | ⟨keeps, _⟩
  · refine ⟨becomes.1, fun other => ?_⟩
    rw [becomes.2 other]
    split
    · rename_i same
      rw [same, sameKey, found]
      exact .moved moves
    · exact .kept _
  · exact keeps.effect

namespace MailOp

open Mailbox

variable {storage : Storage} {mailbox : Mailbox} {key : ReceiptKey}

/-- An operation on one receipt takes the lock and loads the receipt. -/
theorem locked_require_ensures {moved : MessageReceipt → MessageReceipt → Prop}
    {answered : MessageReceipt → Prop} {rest : MessageReceipt → MailOp MessageReceipt}
    (sound : mailbox.Sound storage)
    (goes : ∀ middle receipt, mailbox.Keeps storage middle →
      mailbox.load? storage key = some receipt →
        (rest receipt).Ensures MailAnswer.Allowed middle
          (mailbox.Settles storage key moved answered)) :
    (locked ((requireMessageReceipt storage key).bind rest)).Ensures MailAnswer.Allowed mailbox
      (mailbox.Settles storage key moved answered) := by
  refine locked_ensures ?_ (.bind (require_ensures (sound.setLock true)
    (fun after receipt keeps found => ?_) fun after error keeps => ?_))
  · rintro after result flag (⟨old, new, found, moves, sameKey, becomes, same⟩ | ⟨keeps, answers⟩)
    · refine Or.inl ⟨old, new, found, moves, sameKey, ?_, same⟩
      exact ⟨becomes.1.setLock flag, becomes.2⟩
    · exact Or.inr ⟨⟨keeps.1.setLock flag, keeps.2⟩, answers⟩
  · exact goes after receipt keeps found
  · exact .raises keeps error

theorem queueMessageReceipt_ensures (sound : mailbox.Sound storage) :
    (queueMessageReceipt storage key).Ensures MailAnswer.Allowed mailbox
      (mailbox.Settles storage key (MailCall.queue key).Moves fun _ => True) := by
  refine locked_require_ensures sound fun middle receipt keeps found => ?_
  have sameKey := key_of_load? found
  split
  · rename_i waits
    refine .bind (clock_ensures fun now => persisted_ensures keeps found ?_ rfl)
    rw [← sameKey]
    exact .queued now waits
  · exact .answers keeps found trivial

theorem retryMessageReceipt_ensures (sound : mailbox.Sound storage) {reason : Option Dict} :
    (retryMessageReceipt storage key reason).Ensures MailAnswer.Allowed mailbox
      (mailbox.Settles storage key (MailCall.retry key reason).Moves fun _ => True) := by
  refine locked_require_ensures sound fun middle receipt keeps found => ?_
  have sameKey := key_of_load? found
  split
  · exact .answers keeps found trivial
  · rename_i isOpen
    split
    · exact .answers keeps found trivial
    · rename_i unclaimed
      refine .bind (clock_ensures fun now => persisted_ensures keeps found ?_ rfl)
      rw [← sameKey]
      exact .retried now reason (by simpa using isOpen) unclaimed

theorem interruptMessageReceipt_ensures (sound : mailbox.Sound storage) :
    (interruptMessageReceipt storage key).Ensures MailAnswer.Allowed mailbox
      (mailbox.Settles storage key (MailCall.interrupt key).Moves fun _ => True) := by
  refine locked_require_ensures sound fun middle receipt keeps found => ?_
  have sameKey := key_of_load? found
  split
  · exact .answers keeps found trivial
  · rename_i isOpen
    split
    · exact .answers keeps found trivial
    · rename_i unclaimed
      refine .bind (clock_ensures fun now => persisted_ensures keeps found ?_ rfl)
      rw [← sameKey]
      exact .interrupted now (by simpa using isOpen) unclaimed

/-- A claim is granted for a receipt that waits; any other receipt is returned as it is. -/
theorem claimMessageReceipt_ensures (sound : mailbox.Sound storage) {claimToken : String}
    {conversationRef : Option String} :
    (claimMessageReceipt storage key claimToken conversationRef).Ensures MailAnswer.Allowed mailbox
      (mailbox.Settles storage key (MailCall.claim key claimToken conversationRef).Moves
        fun receipt => receipt.state.isTerminal = true ∨ receipt.state = .inFlight) := by
  refine locked_require_ensures sound fun middle receipt keeps found => ?_
  have sameKey := key_of_load? found
  refine .bind (.guard (fun _ => ?_) fun _ => .raises keeps _)
  dsimp only
  split
  · rename_i isTerminal
    exact .answers keeps found (Or.inl isTerminal)
  · rename_i isOpen
    split
    · rename_i isClaimed
      exact .answers keeps found (Or.inr isClaimed)
    · rename_i unclaimed
      refine .bind (clock_ensures fun now => persisted_ensures keeps found ?_ rfl)
      rw [← sameKey]
      exact .claimed now claimToken conversationRef (by simpa using isOpen) unclaimed

/-- An update with the token of the current claim moves the receipt.  Otherwise it is refused, or
confirms the state that a finished receipt has already. -/
theorem updateMessageReceipt_ensures (sound : mailbox.Sound storage) {change : ReceiptUpdate} :
    (updateMessageReceipt storage key change).Ensures MailAnswer.Allowed mailbox
      (mailbox.Settles storage key
        (fun old new => old.state.isTerminal = false ∧
          old.claimToken = some change.claimToken ∧ ∃ now state,
            (state = .inFlight ∨ state.isTerminal = true ∨ state = .retryable) ∧
              state = change.state.getD old.state ∧ new = old.updatedAs now change state)
        fun receipt => receipt.state.isTerminal = true ∧
          change.state.all (fun state => state = receipt.state) = true) := by
  refine locked_require_ensures sound fun middle receipt keeps found => ?_
  split
  · rename_i isTerminal
    split
    · rename_i confirms
      exact .answers keeps found ⟨isTerminal, confirms⟩
    · exact .raises keeps _
  · rename_i isOpen
    refine .bind (.guard (fun current => ?_) fun _ => .raises keeps _)
    refine .bind (.guard (fun reachable => ?_) fun _ => .raises keeps _)
    refine .bind (clock_ensures fun now => persisted_ensures keeps found ?_ rfl)
    exact ⟨by simpa using isOpen, current, now, _, by simpa using reachable, rfl, rfl⟩

theorem reuse_ensures {middle : Mailbox} {existing : MessageReceipt}
    {conversationRef prompt : String} {post : Mailbox → Except Exc MessageReceipt → Prop}
    (holds : ∀ result, post middle result) :
    (reuseReceipt existing conversationRef prompt).Ensures MailAnswer.Allowed middle post := by
  unfold reuseReceipt
  split
  · exact holds _
  · exact holds _

theorem insertReceipt_ensures (sound : mailbox.Sound storage) {receipt : MessageReceipt} :
    (insertReceipt storage receipt).Ensures MailAnswer.Allowed mailbox fun after _ =>
      mailbox.Keeps storage after ∨ mailbox.Becomes storage receipt after := by
  have kept : mailbox.Keeps storage mailbox := .refl sound
  cases storage with
  | memory =>
      refine .bind (persist_ensures sound (fun after becomes => ?_) fun error => ?_)
      · exact Or.inr becomes
      · exact Or.inl kept
  | database =>
      refine .bind (.attempt (persist_ensures sound (fun after becomes => ?_) fun error => ?_))
      · exact Or.inr becomes
      · change Prog.Ensures _ (if _ then _ else _) _ _
        split
        · refine .bind (load_ensures sound (fun after keeps => ?_) fun _ => Or.inl kept)
          dsimp only
          split
          · exact Or.inl keeps
          · exact reuse_ensures fun _ => Or.inl keeps
        · exact Or.inl kept

theorem createOrGetMessageReceipt_ensures (sound : mailbox.Sound storage)
    {conversationRef prompt : String} :
    (createOrGetMessageReceipt storage key conversationRef prompt).Ensures MailAnswer.Allowed
      mailbox fun after _ =>
        (MailCall.createOrGet key conversationRef prompt).Effect storage mailbox after := by
  refine locked_ensures (fun after result flag effect => ⟨effect.1.setLock flag, effect.2⟩) ?_
  refine .bind (load_ensures (sound.setLock true) (fun middle keeps => ?_) fun error => ?_)
  · dsimp only
    split
    · exact reuse_ensures fun _ => keeps.effect
    · rename_i absent
      refine .bind (clock_ensures fun now => .bind (.guard (fun _ => ?_) fun _ => keeps.effect))
      refine (insertReceipt_ensures keeps.1).mono ?_
      rintro after result (kept | becomes)
      · exact (keeps.trans kept).effect
      · refine ⟨becomes.1, fun other => ?_⟩
        rw [becomes.2 other, keeps.2 other]
        split
        · rename_i same
          have isAbsent : mailbox.load? storage other = none := by
            rw [same]
            exact absent
          change MailCall.Changes _ (mailbox.load? storage other) _
          rw [isAbsent]
          exact .created now rfl
        · exact .kept _
  · exact ⟨sound.setLock true, fun key => .kept _⟩

/-! ### Operations on all receipts of a workspace -/

theorem recoverReceipt_key (workspaceId : String) (now : Timestamp) (receipt : MessageReceipt) :
    (AgentOp.recoverReceipt workspaceId now receipt).key = receipt.key := by
  unfold AgentOp.recoverReceipt
  split
  · rfl
  · rfl

/-- The claims of a workspace are given back. -/
def Recovers (storage : Storage) (workspaceId : String) (before after : Mailbox) : Prop :=
  after.Sound storage ∧ ∃ now, ∀ key, after.load? storage key =
    (before.load? storage key).map (AgentOp.recoverReceipt workspaceId now)

theorem Recovers.effect {workspaceId : String} {before after : Mailbox} {call : MailCall}
    (recovers : Recovers storage workspaceId before after)
    (moves : ∀ now old, old.workspaceId = workspaceId → old.state = .inFlight →
      call.Moves old (AgentOp.recoverReceipt old.workspaceId now old)) :
    call.Effect storage before after := by
  obtain ⟨sound, now, recovered⟩ := recovers
  refine ⟨sound, fun key => ?_⟩
  rw [recovered key]
  cases found : before.load? storage key with
  | none => exact .kept none
  | some old =>
      by_cases claimed : old.workspaceId = workspaceId ∧ old.state = .inFlight
      · obtain ⟨rfl, isClaimed⟩ := claimed
        exact .moved (moves now old rfl isClaimed)
      · rw [Option.map_some, AgentOp.recoverReceipt, if_neg claimed]
        exact .kept _

/-- The claims among the items of a table are given back. -/
theorem find?_recovered {table found : List MessageReceipt} {workspaceId : String}
    (now : Timestamp) (distinct : Keyed.Distinct MessageReceipt.key table)
    (isFound : found.Perm (table.filter (isInFlight workspaceId))) :
    Keyed.Distinct MessageReceipt.key (found.map (AgentOp.recoverReceipt workspaceId now)) ∧
      ∀ key, Keyed.find? MessageReceipt.key (Keyed.putAll MessageReceipt.key table
          (found.map (AgentOp.recoverReceipt workspaceId now))) key =
        (Keyed.find? MessageReceipt.key table key).map
          (AgentOp.recoverReceipt workspaceId now) := by
  obtain ⟨distinctFound, lookup⟩ := Keyed.find?_of_perm_filter distinct isFound
  have keeps := recoverReceipt_key workspaceId now
  have distinctNew := Keyed.Distinct.map keeps distinctFound
  refine ⟨distinctNew, fun key => ?_⟩
  rw [Keyed.find?_putAll distinctNew, Keyed.find?_map keeps, lookup key]
  cases Keyed.find? MessageReceipt.key table key with
  | none => rfl
  | some old =>
      rw [Option.filter_some, Option.map_some]
      split
      · rfl
      · rename_i unclaimed
        rw [Option.map_none, Option.none_or, AgentOp.recoverReceipt, if_neg]
        simpa [isInFlight] using unclaimed

theorem recoverCached_ensures (sound : mailbox.Sound .memory) {workspaceId : String}
    {now : Timestamp} :
    (recoverCached workspaceId now).Ensures MailAnswer.Allowed mailbox fun after _ =>
      Recovers .memory workspaceId mailbox after := by
  have recovered := find?_recovered now sound.receipts
    (List.Perm.refl (mailbox.receipts.filter (isInFlight workspaceId)))
  refine ⟨⟨sound.receipts.putAll _, sound.rows, fun impossible => by cases impossible⟩, now, ?_⟩
  intro key
  unfold load?
  simp only [Option.or_none]
  exact recovered.2 key

theorem recoverStored_ensures (sound : mailbox.Sound .database) {workspaceId : String}
    {now : Timestamp} :
    (recoverStored workspaceId now).Ensures MailAnswer.Allowed mailbox fun after _ =>
      mailbox.Keeps .database after ∨ Recovers .database workspaceId mailbox after := by
  have kept : mailbox.Keeps .database mailbox := .refl sound
  refine .bind (select_ensures (fun rows isFound => ?_) fun _ => Or.inl kept)
  have stored := stored_of_selected sound isFound
  have lookup := Keyed.find?_of_perm_filter sound.rows isFound
  have recovered := find?_recovered now sound.rows isFound
  have committed := commitRows_eq_putAll (recoverReceipt_key workspaceId now) sound.rows lookup.1
    stored
  refine .bind (commit_ensures ?_ ?_ fun _ => Or.inl kept)
  · intro change member isNew
    obtain ⟨row, _, rfl⟩ := List.mem_map.1 member
    cases isNew
  · right
    change Recovers .database workspaceId mailbox
      { mailbox with
        receipts := Keyed.putAll MessageReceipt.key mailbox.receipts
          (rows.map (AgentOp.recoverReceipt workspaceId now))
        rows := (rows.map fun row => (some row, AgentOp.recoverReceipt workspaceId now row)).foldl
          commitRow mailbox.rows }
    rw [committed]
    have sound' := sound.putAll recovered.1
    refine ⟨sound', now, fun key => ?_⟩
    rw [sound'.load?_database, sound.load?_database]
    exact recovered.2 key

theorem recoverMessageReceiptsForDriver_ensures (sound : mailbox.Sound storage)
    {workspaceId : String} :
    (recoverMessageReceiptsForDriver storage workspaceId).Ensures MailAnswer.Allowed mailbox
      fun after _ => (MailCall.recover workspaceId).Effect storage mailbox after := by
  have moves : ∀ now (old : MessageReceipt), old.workspaceId = workspaceId →
      old.state = .inFlight → (MailCall.recover workspaceId).Moves old
        (AgentOp.recoverReceipt old.workspaceId now old) := by
    rintro now old rfl claimed
    exact .recovered now claimed
  refine locked_ensures (fun after result flag effect => ⟨effect.1.setLock flag, effect.2⟩) ?_
  refine .bind (clock_ensures fun now => ?_)
  cases storage with
  | memory =>
      refine (recoverCached_ensures (sound.setLock true)).mono fun after _ recovers => ?_
      exact recovers.effect moves
  | database =>
      refine (recoverStored_ensures (sound.setLock true)).mono ?_
      rintro after result (keeps | recovers)
      · exact keeps.effect
      · exact recovers.effect moves

theorem registerAgent_ensures (sound : mailbox.Sound storage) {registration : AgentRegistration} :
    (registerAgent storage registration).Ensures MailAnswer.Allowed mailbox
      fun after _ => (MailCall.register registration).Effect storage mailbox after := by
  have kept : (MailCall.register registration).Effect storage mailbox mailbox :=
    (Keeps.refl sound).effect
  refine .bind (clock_ensures fun now => ?_)
  dsimp only
  cases role : registration.role with
  | slave =>
      cases storage with
      | memory => exact kept
      | database =>
          refine .bind (statement_ensures (commit_ensures ?_ kept fun _ => kept) fun _ => kept)
          intro change member
          cases member
  | driver =>
      have moves : ∀ now (old : MessageReceipt), old.workspaceId = registration.workspaceId →
          old.state = .inFlight → (MailCall.register registration).Moves old
            (AgentOp.recoverReceipt old.workspaceId now old) :=
        fun now old same claimed => .fenced now registration role same.symm claimed
      cases storage with
      | memory =>
          refine .bind ((recoverCached_ensures sound).mono fun after result recovers => ?_)
          cases result with
          | ok count => exact recovers.effect moves
          | error error => exact recovers.effect moves
      | database =>
          refine .bind (statement_ensures ?_ fun _ => kept)
          refine .bind (statement_ensures ?_ fun _ => kept)
          refine .bind ((recoverStored_ensures sound).mono fun after result ends => ?_)
          have effect : (MailCall.register registration).Effect .database mailbox after := by
            rcases ends with keeps | recovers
            · exact keeps.effect
            · exact recovers.effect moves
          cases result with
          | ok count => exact statement_ensures effect fun _ => effect
          | error error => exact effect

theorem listed_ensures (sound : mailbox.Sound storage) {wanted : MessageReceipt → Bool} :
    (listed storage wanted).Ensures MailAnswer.Allowed mailbox fun after _ =>
      mailbox.Keeps storage after := by
  cases storage with
  | memory => exact .refl sound
  | database =>
      refine .bind (select_ensures (fun rows isFound => ?_) fun _ => .refl sound)
      have distinct := (Keyed.find?_of_perm_filter sound.rows isFound).1
      exact sound.cache distinct (stored_of_selected sound isFound)

end MailOp

/-- Every call leaves a sound mailbox and changes receipts as `MailCall.Moves` says. -/
theorem MailCall.effect {storage : Storage} {mailbox : Mailbox} (call : MailCall)
    (sound : mailbox.Sound storage) :
    (call.prog storage).Ensures MailAnswer.Allowed mailbox fun after _ =>
      call.Effect storage mailbox after := by
  cases call with
  | createOrGet key conversationRef prompt =>
      exact .map (MailOp.createOrGetMessageReceipt_ensures sound)
  | get key =>
      refine .map (MailOp.load_ensures sound (fun after keeps => keeps.effect) fun error => ?_)
      exact (Mailbox.Keeps.refl sound).effect
  | list workspaceId conversationRef =>
      refine .map (.bind ((MailOp.listed_ensures sound).mono fun after result keeps => ?_))
      cases result <;> exact keeps.effect
  | listDispatchable workspaceId =>
      refine .map
        (.bind (MailOp.clock_ensures fun now => .bind ((MailOp.listed_ensures sound).mono ?_)))
      intro after result keeps
      cases result <;> exact keeps.effect
  | queue key =>
      exact .map ((MailOp.queueMessageReceipt_ensures sound).mono fun _ _ ends => ends.effect)
  | retry key reason =>
      exact .map ((MailOp.retryMessageReceipt_ensures sound).mono fun _ _ ends => ends.effect)
  | interrupt key =>
      exact .map ((MailOp.interruptMessageReceipt_ensures sound).mono fun _ _ ends => ends.effect)
  | claim key claimToken conversationRef =>
      exact .map ((MailOp.claimMessageReceipt_ensures sound).mono fun _ _ ends => ends.effect)
  | update key change =>
      refine .map ((MailOp.updateMessageReceipt_ensures sound).mono fun after result ends => ?_)
      refine Mailbox.Settles.effect (ends.mono fun old new sameKey moved => ?_)
      obtain ⟨isOpen, current, now, state, reachable, _, rfl⟩ := moved
      rw [← sameKey]
      exact .updated now change state isOpen current reachable
  | release key claimToken =>
      refine .map ((MailOp.updateMessageReceipt_ensures sound).mono fun after result ends => ?_)
      refine Mailbox.Settles.effect (ends.mono fun old new sameKey moved => ?_)
      obtain ⟨isOpen, current, now, state, reachable, rfl, rfl⟩ := moved
      rw [← sameKey]
      exact .released now claimToken isOpen current
  | recover workspaceId => exact .map (MailOp.recoverMessageReceiptsForDriver_ensures sound)
  | register registration => exact .map (MailOp.registerAgent_ensures sound)

end Loom
