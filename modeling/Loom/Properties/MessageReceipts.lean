import Loom.Coroutine.History
import Loom.Observer.MessageEffects

/-!
# The life of a message receipt

A receipt is accepted, waits, is claimed, and is given back or finished.  Over every sequence of
calls a finished receipt stays as it is, a receipt holds a claim token exactly while it is in
flight, its request is fixed, its attempts count the claims that were granted, and an update needs
the token of the current claim.
-/

namespace Loom

open Coroutine

/-- A completed call on message receipts. -/
abbrev MailEntry := Entry Mailbox Exc MailAnswer MailReply MailCall

/-- Claim tokens are not empty. -/
def MailCall.Named : MailCall → Prop
  | .claim _ claimToken _ => claimToken ≠ ""
  | _ => True

/-- Whether a call was granted a claim on the receipt of a key: it returned the receipt in flight,
and it was not in flight before. -/
def Granted (storage : Storage) (key : ReceiptKey) (entry : MailEntry) : Bool :=
  match entry.label, entry.result with
  | .claim claimed _ _, .ok (.receipt receipt) =>
      claimed = key && receipt.state = .inFlight &&
        !(entry.before.load? storage key).any fun old => old.state = .inFlight
  | _, _ => false

namespace MessageReceipt

/-- A receipt holds a claim token exactly while it is in flight, and the token is not empty. -/
structure Disciplined (receipt : MessageReceipt) : Prop where
  claimed : receipt.claimToken.isSome ↔ receipt.state = .inFlight
  named : receipt.claimToken ≠ some ""

/-- What a request fixes. -/
structure SameRequest (old new : MessageReceipt) : Prop where
  prompt : new.prompt = old.prompt
  conversationRef : new.conversationRef = old.conversationRef
  createdAt : new.createdAt = old.createdAt

theorem SameRequest.refl (receipt : MessageReceipt) : receipt.SameRequest receipt :=
  ⟨rfl, rfl, rfl⟩

theorem SameRequest.trans {first second third : MessageReceipt} (earlier : first.SameRequest second)
    (later : second.SameRequest third) : first.SameRequest third :=
  ⟨later.prompt.trans earlier.prompt, later.conversationRef.trans earlier.conversationRef,
    later.createdAt.trans earlier.createdAt⟩

end MessageReceipt

namespace MailCall.Moves

variable {call : MailCall} {old new : MessageReceipt}

theorem recoverReceipt_eq (receipt : MessageReceipt) (now : Timestamp)
    (claimed : receipt.state = .inFlight) :
    AgentOp.recoverReceipt receipt.workspaceId now receipt =
      { receipt with
        state := .retryable, claimToken := none, nextAttemptAt := some now, updatedAt := now } :=
  if_pos ⟨rfl, claimed⟩

/-- No call moves a finished receipt. -/
theorem isOpen (moves : call.Moves old new) : old.state.isTerminal = false := by
  cases moves with
  | queued now waits =>
      rcases waits with state | state
      · rw [state]; rfl
      · rw [state]; rfl
  | retried now reason isOpen unclaimed => exact isOpen
  | interrupted now isOpen unclaimed => exact isOpen
  | claimed now claimToken conversationRef isOpen unclaimed => exact isOpen
  | updated now change state isOpen current reachable => exact isOpen
  | released now claimToken isOpen current => exact isOpen
  | recovered now claimed => rw [claimed]; rfl
  | fenced now registration driver same claimed => rw [claimed]; rfl

theorem sameRequest (moves : call.Moves old new) : old.SameRequest new := by
  cases moves with
  | recovered now claimed =>
      rw [recoverReceipt_eq old now claimed]
      exact ⟨rfl, rfl, rfl⟩
  | fenced now registration driver same claimed =>
      rw [recoverReceipt_eq old now claimed]
      exact ⟨rfl, rfl, rfl⟩
  | _ => exact ⟨rfl, rfl, rfl⟩

theorem disciplined (moves : call.Moves old new) (named : call.Named)
    (before : old.Disciplined) : new.Disciplined := by
  have unclaimed : old.state ≠ .inFlight → old.claimToken = none := by
    intro notInFlight
    have absent := fun isSome => notInFlight (before.claimed.1 isSome)
    simpa using absent
  cases moves with
  | queued now waits =>
      have notInFlight : old.state ≠ .inFlight := by
        rcases waits with state | state
        · rw [state]; decide
        · rw [state]; decide
      have absent := unclaimed notInFlight
      exact ⟨by simp [MessageReceipt.queuedAt, absent], before.named⟩
  | retried now reason isOpen unheld =>
      have notInFlight : old.state ≠ .inFlight := by
        intro inFlight
        obtain ⟨token, isToken⟩ := Option.isSome_iff_exists.1 (before.claimed.2 inFlight)
        refine unheld ⟨inFlight, ?_⟩
        have named := before.named
        rw [isToken] at named ⊢
        simpa using named
      have absent := unclaimed notInFlight
      exact ⟨by simp [MessageReceipt.retriedAt, absent], before.named⟩
  | interrupted now isOpen notInFlight =>
      exact ⟨by simp [MessageReceipt.interruptedAt], by simp [MessageReceipt.interruptedAt]⟩
  | claimed now claimToken conversationRef isOpen notInFlight =>
      have named : claimToken ≠ "" := named
      exact ⟨by simp [MessageReceipt.claimedAt], by simpa [MessageReceipt.claimedAt] using named⟩
  | updated now change state isOpen current reachable =>
      rcases reachable with rfl | isTerminal | rfl
      · refine ⟨?_, before.named⟩
        simp [MessageReceipt.updatedAs, ReceiptState.isTerminal, current]
      · have notInFlight : state ≠ .inFlight := by
          rintro rfl
          cases isTerminal
        refine ⟨?_, ?_⟩
        · simp [MessageReceipt.updatedAs, isTerminal, notInFlight]
        · simp [MessageReceipt.updatedAs, isTerminal]
      · exact ⟨by simp [MessageReceipt.updatedAs], by simp [MessageReceipt.updatedAs]⟩
  | released now claimToken isOpen current =>
      exact ⟨by simp [MessageReceipt.updatedAs], by simp [MessageReceipt.updatedAs]⟩
  | recovered now claimed =>
      rw [recoverReceipt_eq old now claimed]
      exact ⟨by simp, by simp⟩
  | fenced now registration driver same claimed =>
      rw [recoverReceipt_eq old now claimed]
      exact ⟨by simp, by simp⟩

/-- Only a claim counts as an attempt. -/
theorem attemptCount (moves : call.Moves old new) :
    (∃ claimToken conversationRef now, call = .claim old.key claimToken conversationRef ∧
        new = old.claimedAt now claimToken ∧ old.state ≠ .inFlight) ∨
      ((∀ key claimToken conversationRef, call ≠ .claim key claimToken conversationRef) ∧
        new.attemptCount = old.attemptCount) := by
  cases moves with
  | claimed now claimToken conversationRef isOpen unclaimed =>
      exact Or.inl ⟨claimToken, conversationRef, now, rfl, rfl, unclaimed⟩
  | recovered now claimed =>
      rw [recoverReceipt_eq old now claimed]
      exact Or.inr ⟨nofun, rfl⟩
  | fenced now registration driver same claimed =>
      rw [recoverReceipt_eq old now claimed]
      exact Or.inr ⟨nofun, rfl⟩
  | _ => exact Or.inr ⟨nofun, rfl⟩

end MailCall.Moves

/-! ### One call -/

section Call

variable {storage : Storage} {entry : MailEntry}

/-- How often a receipt has been claimed; no receipt, no claim. -/
def attempts (receipt : Option MessageReceipt) : Nat :=
  receipt.elim 0 MessageReceipt.attemptCount

theorem not_granted_of_not_claim {key : ReceiptKey}
    (other : ∀ claimed claimToken conversationRef,
      entry.label ≠ .claim claimed claimToken conversationRef) :
    Granted storage key entry = false := by
  unfold Granted
  split
  · rename_i same _
    exact absurd same (other _ _ _)
  · rfl

variable (runs : (entry.label.prog storage).Runs MailAnswer.Allowed entry.before entry.after
  entry.result)
variable (sound : entry.before.Sound storage)

include runs sound

theorem entry_effect : entry.label.Effect storage entry.before entry.after :=
  (entry.label.effect sound).runs runs

/-- A claim adds one to the attempts of the receipt for which it is granted. -/
theorem claim_attempts {claimed : ReceiptKey} {claimToken : String}
    {conversationRef : Option String}
    (label : entry.label = .claim claimed claimToken conversationRef) (key : ReceiptKey) :
    attempts (entry.after.load? storage key) =
      attempts (entry.before.load? storage key) + (Granted storage key entry).toNat := by
  rw [label] at runs
  have spec : ((MailCall.claim claimed claimToken conversationRef).prog storage).Ensures
      MailAnswer.Allowed entry.before fun after result => ∃ inner,
        result = inner.map MailReply.receipt ∧ entry.before.Settles storage claimed
          (MailCall.claim claimed claimToken conversationRef).Moves
          (fun receipt => receipt.state.isTerminal = true ∨ receipt.state = .inFlight)
          after inner := by
    refine .map ((MailOp.claimMessageReceipt_ensures sound).mono fun after inner settles => ?_)
    exact ⟨inner, rfl, settles⟩
  obtain ⟨inner, isResult, settles⟩ := spec.runs runs
  rcases settles with ⟨old, new, found, moves, sameKey, becomes, rfl⟩ | ⟨keeps, answered⟩
  · cases moves with
    | claimed now _ _ isOpen unclaimed =>
        rw [becomes.2 key]
        split
        · rename_i same
          have same : key = old.key := same
          have granted : Granted storage key entry = true := by
            unfold Granted
            rw [label, isResult, same, found]
            simp [Except.map, unclaimed, MessageReceipt.claimedAt]
          rw [granted, same, found]
          rfl
        · rename_i other
          have notGranted : Granted storage key entry = false := by
            unfold Granted
            rw [label, isResult]
            simp only [Except.map, Bool.and_eq_false_iff, decide_eq_false_iff_not]
            exact Or.inl (Or.inl fun same => other same.symm)
          rw [notGranted]
          rfl
  · rw [keeps.2 key]
    have notGranted : Granted storage key entry = false := by
      unfold Granted
      rw [label, isResult]
      cases inner with
      | error error => rfl
      | ok receipt =>
          obtain ⟨found, isAnswered⟩ := answered receipt rfl
          by_cases same : claimed = key
          · subst same
            rcases isAnswered with isTerminal | inFlight
            · have notInFlight : receipt.state ≠ .inFlight := by
                intro inFlight
                rw [inFlight] at isTerminal
                cases isTerminal
              simp [Except.map, notInFlight]
            · simp [Except.map, found, inFlight]
          · simp [Except.map, same]
    rw [notGranted]
    rfl

theorem entry_attempts (key : ReceiptKey) :
    attempts (entry.after.load? storage key) =
      attempts (entry.before.load? storage key) + (Granted storage key entry).toNat := by
  by_cases isClaim : ∃ claimed claimToken conversationRef,
      entry.label = .claim claimed claimToken conversationRef
  · obtain ⟨claimed, claimToken, conversationRef, label⟩ := isClaim
    exact claim_attempts runs sound label key
  · have other : ∀ claimed claimToken conversationRef,
        entry.label ≠ .claim claimed claimToken conversationRef :=
      fun claimed claimToken conversationRef label =>
        isClaim ⟨claimed, claimToken, conversationRef, label⟩
    rw [not_granted_of_not_claim other]
    have changes := (entry_effect runs sound).2 key
    generalize entry.before.load? storage key = before at changes
    generalize entry.after.load? storage key = after at changes
    cases changes with
    | kept => rfl
    | created now same => rfl
    | moved moves =>
        rcases moves.attemptCount with ⟨claimToken, conversationRef, now, label, _⟩ | ⟨_, same⟩
        · exact absurd label (other _ _ _)
        · exact same

/-- An update with another token than that of the current claim changes nothing.  It is refused,
unless it confirms the state of a finished receipt. -/
theorem update_refused {key : ReceiptKey} {change : ReceiptUpdate} {old : MessageReceipt}
    (label : entry.label = .update key change ∨
      ∃ claimToken, entry.label = .release key claimToken ∧
        change = MailOp.releaseUpdate claimToken)
    (found : entry.before.load? storage key = some old)
    (stale : old.claimToken ≠ some change.claimToken) :
    entry.after.load? storage key = some old ∧
      ((∃ error, entry.result = .error error) ∨
        (old.state.isTerminal = true ∧ change.state.all (fun state => state = old.state) = true ∧
          entry.result = .ok (.receipt old))) := by
  have spec : ((MailOp.updateMessageReceipt storage key change).map MailReply.receipt).Ensures
      MailAnswer.Allowed entry.before fun after result => ∃ inner,
        result = inner.map MailReply.receipt ∧ entry.before.Settles storage key
          (fun old _ => old.claimToken = some change.claimToken)
          (fun receipt => receipt.state.isTerminal = true ∧
            change.state.all (fun state => state = receipt.state) = true) after inner := by
    refine .map ((MailOp.updateMessageReceipt_ensures sound).mono fun after inner settles => ?_)
    exact ⟨inner, rfl, Mailbox.Settles.mono settles fun old new sameKey moved => moved.2.1⟩
  have ran : ((MailOp.updateMessageReceipt storage key change).map MailReply.receipt).Runs
      MailAnswer.Allowed entry.before entry.after entry.result := by
    rcases label with label | ⟨claimToken, label, rfl⟩
    · rw [label] at runs
      exact runs
    · rw [label] at runs
      exact runs
  obtain ⟨inner, isResult, settles⟩ := spec.runs ran
  rcases settles with ⟨other, new, isFound, current, _⟩ | ⟨keeps, answered⟩
  · rw [found] at isFound
    cases isFound
    exact absurd current stale
  · refine ⟨(keeps.2 key).trans found, ?_⟩
    cases inner with
    | error error => exact Or.inl ⟨error, isResult⟩
    | ok receipt =>
        obtain ⟨isFound, isTerminal, confirms⟩ := answered receipt rfl
        rw [found] at isFound
        cases isFound
        exact Or.inr ⟨isTerminal, confirms, isResult⟩

end Call

/-! ### Sequences of calls -/

section Histories

variable {storage : Storage} {entries : List MailEntry} {start state : Mailbox}

/-- What holds of the receipts of a mailbox between calls. -/
structure Mailbox.Lawful (storage : Storage) (mailbox : Mailbox) : Prop where
  sound : mailbox.Sound storage
  disciplined : ∀ key receipt, mailbox.load? storage key = some receipt → receipt.Disciplined

theorem Mailbox.Lawful.step {entry : MailEntry}
    (runs : (entry.label.prog storage).Runs MailAnswer.Allowed entry.before entry.after
      entry.result) (named : entry.label.Named) (lawful : entry.before.Lawful storage) :
    entry.after.Lawful storage := by
  obtain ⟨sound, changes⟩ := entry_effect runs lawful.sound
  refine ⟨sound, fun key receipt found => ?_⟩
  have changed := changes key
  have before := lawful.disciplined key
  rw [found] at changed
  generalize entry.before.load? storage key = loaded at changed before
  cases changed with
  | kept => exact before receipt rfl
  | created now same => exact ⟨by simp [MessageReceipt.accepted], nofun⟩
  | moved moves => exact moves.disciplined named (before _ rfl)

theorem Mailbox.lawful_empty : Mailbox.Lawful storage {} := by
  refine ⟨⟨List.nodup_nil, List.nodup_nil, fun _ key receipt found => by cases found⟩, ?_⟩
  intro key receipt found
  cases storage <;> cases found

theorem Mailbox.Lawful.history
    (history : History (MailCall.prog storage) MailAnswer.Allowed start entries state)
    (named : ∀ entry ∈ entries, entry.label.Named) (lawful : start.Lawful storage) :
    state.Lawful storage ∧ ∀ entry ∈ entries, entry.before.Lawful storage := by
  have step : ∀ entry ∈ entries, entry.before.Lawful storage → entry.after.Lawful storage :=
    fun entry member => Mailbox.Lawful.step (history.runs entry member) (named entry member)
  exact ⟨history.preserves step lawful, history.preserves_at step lawful⟩

section Steps

variable (history : History (MailCall.prog storage) MailAnswer.Allowed start entries state)
variable (named : ∀ entry ∈ entries, entry.label.Named) (lawful : start.Lawful storage)

include history named lawful

/-- The attempts of a receipt grow with the claims that are granted. -/
theorem history_attempts (key : ReceiptKey) :
    attempts (state.load? storage key) =
      attempts (start.load? storage key) + entries.countP (Granted storage key) := by
  induction history with
  | nil => rfl
  | @call entries before after result history label answers allowed runs ih =>
      have namedEarlier := fun entry member => named entry (List.mem_append_left _ member)
      have atStart := (Mailbox.Lawful.history history namedEarlier lawful).1
      have grown := @entry_attempts storage ⟨label, answers, before, after, result⟩
        (runs.mono allowed) atStart.sound key
      rw [List.countP_append, ← Nat.add_assoc, ← ih namedEarlier, List.countP_singleton]
      refine grown.trans (congrArg _ ?_)
      cases Granted storage key ⟨label, answers, before, after, result⟩ <;> rfl

/-- What one call does to the receipt of a key. -/
theorem entry_changes {entry : MailEntry} (member : entry ∈ entries) (key : ReceiptKey) :
    entry.label.Changes (entry.before.load? storage key) (entry.after.load? storage key) := by
  have atStart := (Mailbox.Lawful.history history named lawful).2 entry member
  exact (entry_effect (history.runs entry member) atStart.sound).2 key

theorem history_sameRequest {key : ReceiptKey} {receipt : MessageReceipt}
    (found : start.load? storage key = some receipt) :
    ∃ new, state.load? storage key = some new ∧ receipt.SameRequest new := by
  refine @History.preserves _ _ _ _ _ _ _ _ _ _ _ _ _
    (fun mailbox => ∃ new, mailbox.load? storage key = some new ∧ receipt.SameRequest new)
    history (fun entry member => ?_) ⟨receipt, found, .refl receipt⟩
  rintro ⟨old, isOld, same⟩
  have changes := entry_changes history named lawful member key
  rw [isOld] at changes
  generalize entry.after.load? storage key = after at changes
  cases changes with
  | kept => exact ⟨old, rfl, same⟩
  | moved moves => exact ⟨_, rfl, same.trans moves.sameRequest⟩

/-- A finished receipt stays as it is. -/
theorem history_finished {key : ReceiptKey} {receipt : MessageReceipt}
    (found : start.load? storage key = some receipt) (finished : receipt.state.isTerminal = true) :
    state.load? storage key = some receipt := by
  refine @History.preserves _ _ _ _ _ _ _ _ _ _ _ _ _
    (fun mailbox => mailbox.load? storage key = some receipt) history (fun entry member => ?_) found
  intro isOld
  have changes := entry_changes history named lawful member key
  rw [isOld] at changes
  generalize entry.after.load? storage key = after at changes
  cases changes with
  | kept => rfl
  | moved moves =>
      rw [moves.isOpen] at finished
      cases finished

/-- A finished receipt is not claimed again. -/
theorem history_not_claimed {key : ReceiptKey} {receipt : MessageReceipt}
    (found : start.load? storage key = some receipt) (finished : receipt.state.isTerminal = true) :
    ∀ entry ∈ entries, Granted storage key entry = false := by
  have grown := history_attempts history named lawful key
  rw [history_finished history named lawful found finished, found] at grown
  have none : entries.countP (Granted storage key) = 0 := by omega
  intro entry member
  simpa using List.countP_eq_zero.1 none entry member

end Steps

end Histories

/-- Over all sequences of completed calls with claim tokens that are not empty: a receipt holds a
claim token exactly while it is in flight, its attempts are the claims that were granted, its
request stays, a finished receipt stays as it is and is not claimed, one that was interrupted
before it was claimed never is, and an update with another token than that of the current claim
leaves the receipt as it is and is refused, unless it confirms the state of a finished receipt. -/
theorem message_receipts_lawful {storage : Storage} {entries more : List MailEntry}
    {middle state : Mailbox}
    (history : History (MailCall.prog storage) MailAnswer.Allowed {} entries middle)
    (later : History (MailCall.prog storage) MailAnswer.Allowed middle more state)
    (named : ∀ entry ∈ entries ++ more, entry.label.Named) :
    (∀ key receipt, middle.load? storage key = some receipt →
      (receipt.claimToken.isSome ↔ receipt.state = .inFlight) ∧
      receipt.attemptCount = entries.countP (Granted storage key) ∧
      (∃ new, state.load? storage key = some new ∧ new.prompt = receipt.prompt ∧
        new.conversationRef = receipt.conversationRef ∧ new.createdAt = receipt.createdAt) ∧
      (receipt.state.isTerminal = true → state.load? storage key = some receipt ∧
        ∀ entry ∈ more, Granted storage key entry = false) ∧
      (receipt.state = .interrupted → receipt.attemptCount = 0 →
        ∀ entry ∈ entries ++ more, Granted storage key entry = false)) ∧
    ∀ entry ∈ entries, ∀ key change old,
      (entry.label = .update key change ∨ ∃ claimToken, entry.label = .release key claimToken ∧
        change = MailOp.releaseUpdate claimToken) →
      entry.before.load? storage key = some old → old.claimToken ≠ some change.claimToken →
      entry.after.load? storage key = some old ∧
        ((∃ error, entry.result = .error error) ∨
          (old.state.isTerminal = true ∧
            change.state.all (fun state => state = old.state) = true ∧
            entry.result = .ok (.receipt old))) := by
  have namedEarlier := fun entry member => named entry (List.mem_append_left more member)
  have namedLater := fun entry member => named entry (List.mem_append_right entries member)
  obtain ⟨lawful, atEntries⟩ := Mailbox.Lawful.history history namedEarlier Mailbox.lawful_empty
  constructor
  · intro key receipt found
    have counted : receipt.attemptCount = entries.countP (Granted storage key) := by
      have grown := history_attempts history namedEarlier Mailbox.lawful_empty key
      have absent : Mailbox.load? storage {} key = none := by cases storage <;> rfl
      rw [found, absent] at grown
      exact grown.trans (Nat.zero_add _)
    refine ⟨(lawful.disciplined key receipt found).claimed, counted, ?_, ?_, ?_⟩
    · obtain ⟨new, isNew, same⟩ := history_sameRequest later namedLater lawful found
      exact ⟨new, isNew, same.prompt, same.conversationRef, same.createdAt⟩
    · intro finished
      exact ⟨history_finished later namedLater lawful found finished,
        history_not_claimed later namedLater lawful found finished⟩
    · intro interrupted unclaimed entry member
      have finished : receipt.state.isTerminal = true := by
        rw [interrupted]
        rfl
      rcases List.mem_append.1 member with member | member
      · have none : entries.countP (Granted storage key) = 0 := counted.symm.trans unclaimed
        simpa using List.countP_eq_zero.1 none entry member
      · exact history_not_claimed later namedLater lawful found finished entry member
  · intro entry member key change old label found stale
    exact update_refused (history.runs entry member) (atEntries entry member).sound label found
      stale

/-! ### A concrete sequence -/

namespace ReceiptDemo

/-- A database that always answers, and a clock that stands still. -/
def world : (query : MailQuery) → MailAnswer query
  | .now => (0 : Int)
  | .lock => ()
  | .execute => .ok ()
  | .rows found _ => found.insertionSort fun left right => left.createdAt ≤ right.createdAt
  | .commit => .ok ()
  | .committed => ()

theorem world_allowed (query : MailQuery) : MailAnswer.Allowed query (world query) := by
  cases query with
  | rows found ordered =>
      refine ⟨List.perm_insertionSort _ _, fun _ => ?_⟩
      exact List.pairwise_insertionSort _ _
  | _ => trivial

def key : ReceiptKey := ("workspace", "request")

/-- A message is claimed, given back and claimed again. -/
def first : List MailCall :=
  [.createOrGet key "conversation" "hello", .claim key "one" none, .recover "workspace",
    .claim key "two" none]

/-- The second claim completes the message, and the first one reports the same. -/
def second : List MailCall :=
  [.update key ⟨"two", some .completed, some "done", none, none⟩,
    .update key ⟨"one", some .completed, some "late", none, none⟩,
    .update key ⟨"one", some .failed, some "late", none, none⟩]

def played (calls : List MailCall) (start : Mailbox) : List MailEntry × Mailbox :=
  play (MailCall.prog .database) (calls.map fun call => (call, world)) start

theorem played_history (calls : List MailCall) (start : Mailbox) :
    History (MailCall.prog .database) MailAnswer.Allowed start (played calls start).1
      (played calls start).2 := by
  refine History.of_play _ ?_ start
  intro call member query
  obtain ⟨label, _, rfl⟩ := List.mem_map.1 member
  exact world_allowed query

theorem played_named {calls : List MailCall} (named : ∀ call ∈ calls, call.Named)
    (start : Mailbox) : ∀ entry ∈ (played calls start).1, entry.label.Named := by
  intro entry member
  obtain ⟨call, isCall, same, _⟩ := mem_play _ _ entry member
  obtain ⟨label, isLabel, rfl⟩ := List.mem_map.1 isCall
  rw [same]
  exact named label isLabel

theorem first_named : ∀ call ∈ first, call.Named := by
  simp [first, MailCall.Named]

theorem second_named : ∀ call ∈ second, call.Named := by
  simp [second, MailCall.Named]

end ReceiptDemo

/-- Of two updates with the token of an earlier claim, the one that names the state which the
receipt has by then is answered, not refused. -/
theorem older_token_answered :
    ∃ entries state receipt,
      History (MailCall.prog .database) MailAnswer.Allowed {} entries state ∧
      (∀ entry ∈ entries, entry.label.Named) ∧
      entries.map Entry.label = ReceiptDemo.first ++ ReceiptDemo.second ∧
      entries.map (Granted .database ReceiptDemo.key) =
        [false, true, false, true, false, false, false] ∧
      entries[5]?.map Entry.label =
        some (.update ReceiptDemo.key ⟨"one", some .completed, some "late", none, none⟩) ∧
      entries[5]?.map Entry.result = some (.ok (.receipt receipt)) := by
  refine ⟨_, _,
    { workspaceId := "workspace", requestId := "request", conversationRef := "conversation"
      prompt := "hello", state := .completed, attemptCount := 2, assistantText := some "done"
      createdAt := 0, updatedAt := 0 },
    ReceiptDemo.played_history (ReceiptDemo.first ++ ReceiptDemo.second) {},
    ReceiptDemo.played_named (fun call member => ?_) {}, by decide +kernel, by decide +kernel,
    by decide +kernel, by decide +kernel⟩
  rcases List.mem_append.1 member with member | member
  · exact ReceiptDemo.first_named call member
  · exact ReceiptDemo.second_named call member

/-- A message that is claimed twice, completed, and reported on once more by its first claim. -/
theorem message_receipts_lawful_reclaimed :
    ∃ receipt, (ReceiptDemo.played ReceiptDemo.first {}).2.load? .database ReceiptDemo.key =
        some receipt ∧ receipt.state = .inFlight ∧ receipt.attemptCount = 2 ∧
      receipt.attemptCount =
        (ReceiptDemo.played ReceiptDemo.first {}).1.countP (Granted .database ReceiptDemo.key) := by
  have lawful := message_receipts_lawful (ReceiptDemo.played_history ReceiptDemo.first {})
    (ReceiptDemo.played_history ReceiptDemo.second (ReceiptDemo.played ReceiptDemo.first {}).2)
    fun entry member => by
      rcases List.mem_append.1 member with member | member
      · exact ReceiptDemo.played_named ReceiptDemo.first_named _ entry member
      · exact ReceiptDemo.played_named ReceiptDemo.second_named _ entry member
  refine ⟨_, rfl, by decide +kernel, by decide +kernel, ?_⟩
  exact (lawful.1 ReceiptDemo.key _ rfl).2.1

end Loom
