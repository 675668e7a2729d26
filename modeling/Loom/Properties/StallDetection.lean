import Loom.Driver.Reactions
import Loom.Properties.Framing
import Loom.Properties.TurnStream

/-!
# Stall detection

When `send_turn` reports a stall, the protocol has been silent for `protocol_failure_seconds`, and
no message that has reached the reader is left aside; it reports one stall at most, and asks for a
poll again only when the last one has been answered.
-/

namespace Loom

namespace CodexTurn

/-! ### The lines of the buffer -/

section Buffer

open Framing JsonText

variable (python : Python) (limit : Nat)

/-- The result of a line, where it has one. -/
def resultOf (line : List UInt8) : Option (Except Exc Dict) :=
  if limit < line.length then some (.error tooLarge)
  else if isBlankLine (stripReturns line) then none
  else some (parse python line)

/-- The results of the complete lines of a buffer. -/
def held (buffer : List UInt8) : List (Except Exc Dict) :=
  (splitLines buffer).1.filterMap (resultOf python limit)

variable {python limit}

theorem held_line {line : List UInt8} (single : newline ∉ line) (rest : List UInt8) :
    held python limit (line ++ newline :: rest) =
      (resultOf python limit line).toList ++ held python limit rest := by
  unfold held
  rw [splitLines_line single, List.filterMap_cons]
  cases resultOf python limit line <;> rfl

/-- A read takes the first of the lines that are held, or leaves it where it is too long. -/
theorem held_scan {line : List UInt8} (single : newline ∉ line) (rest : List UInt8) :
    match scan python limit line rest with
    | .stops result left =>
        held python limit (line ++ rest) = result :: held python limit left ∨
          result = .error tooLarge ∧ held python limit (line ++ rest) = held python limit left ∧
            (held python limit left).head? = some result
    | .more _ => held python limit (line ++ rest) = [] := by
  induction rest generalizing line with
  | nil =>
      rw [List.append_nil]
      unfold held
      rw [splitLines_single single]
      rfl
  | cons byte rest ih =>
      by_cases isNewline : byte = newline
      · subst isNewline
        rw [scan, if_pos rfl]
        by_cases isLong : limit < line.length
        · have isResult : resultOf python limit line = some (.error tooLarge) := if_pos isLong
          rw [if_pos isLong]
          refine Or.inr ⟨rfl, rfl, ?_⟩
          rw [held_line single, isResult]
          rfl
        · rw [if_neg isLong]
          by_cases isBlank : isBlankLine (stripReturns line) = true
          · have isResult : resultOf python limit line = none :=
              (if_neg isLong).trans (if_pos isBlank)
            rw [if_pos isBlank, held_line single, isResult]
            exact ih List.not_mem_nil
          · have isResult : resultOf python limit line = some (parse python line) :=
              (if_neg isLong).trans (if_neg isBlank)
            rw [if_neg isBlank, held_line single, isResult]
            exact Or.inl rfl
      · rw [scan, if_neg isNewline]
        have joined : line ++ byte :: rest = line ++ [byte] ++ rest := by
          rw [List.append_assoc]
          rfl
        rw [joined]
        refine ih fun isMem => ?_
        rcases List.mem_append.1 isMem with isMem | isMem
        · exact single isMem
        · exact isNewline (List.mem_singleton.1 isMem).symm

/-- `_read_message` does what a read of the turn may do. -/
theorem reads_readMessage {turn : Turn} {buffer : List UInt8}
    (holds : turn.readBuffer = held python limit buffer) (chunks : List Chunk) :
    turn.reads (readMessage python limit buffer chunks).1
      (held python limit (readMessage python limit buffer chunks).2.1) = true := by
  have lines := @held_scan python limit [] List.not_mem_nil buffer
  rw [List.nil_append, ← holds] at lines
  have idle : turn.readBuffer = [] → ∀ result behind, turn.reads result behind = true := by
    intro noLine result behind
    unfold Turn.reads
    rw [noLine]
  have first : ∀ {result : Except Exc Dict} {left : List UInt8},
      turn.readBuffer = result :: held python limit left ∨
        result = .error tooLarge ∧ turn.readBuffer = held python limit left ∧
          (held python limit left).head? = some result →
      turn.reads result (held python limit left) = true := by
    intro result left found
    unfold Turn.reads
    rcases found with isFirst | ⟨isLong, stays, isFirst⟩
    · rw [isFirst]
      simp
    · rw [stays]
      cases isHeld : held python limit left with
      | nil => rfl
      | cons line rest =>
          rw [isHeld] at isFirst
          cases isFirst
          simp [isLong]
  cases scanned : scan python limit [] buffer with
  | stops result left =>
      rw [scanned] at lines
      have ends : ∃ unread, readMessage python limit buffer chunks = (result, left, unread) := by
        cases chunks <;> exact ⟨_, by rw [readMessage, scanned]⟩
      obtain ⟨unread, isRead⟩ := ends
      rw [isRead]
      exact first lines
  | more rest =>
      rw [scanned] at lines
      exact idle lines _ _

end Buffer

namespace Turn

variable {setup : Setup} {startedAt now : ℚ} {turn after : Turn}

/-! ### Sound stalls -/

/-- When the last heartbeat of the turn was processed. -/
def lastHeartbeat (startedAt : ℚ) (turn : Turn) : ℚ :=
  ((turn.handled.filter (Handled.isHeartbeat turn.turnRequestId)).getLast?.map Handled.now).getD
    startedAt

/-- The stalls that have been yielded. -/
def stalls (turn : Turn) : Nat := turn.yielded.countP fun event => event.kind = "agent_stalled"

/-- The polls of a method that are outstanding. -/
def outstanding (turn : Turn) (method : PollMethod) : Nat :=
  turn.protocol.pollRequests.countP fun request => request.method = method

/-- The messages that have been delivered and not processed: the one that the reader holds, and
those of the lines that are still in the buffer. -/
def unread (turn : Turn) : List Dict :=
  readAhead turn.reader ++ turn.readBuffer.filterMap Except.toOption

/-- A stall is found soundly. -/
structure StallsSoundly (setup : Setup) (startedAt : ℚ) (turn : Turn) : Prop where
  /-- A stall is yielded only after a silence that is long enough. -/
  timely : ∀ move after event, Move.step setup move turn = some after →
    after.yielded = turn.yielded ++ [event] → event.kind = "agent_stalled" →
    setup.protocolFailureSeconds ≤ move.now - turn.lastHeartbeat startedAt
  /-- No message is left then. -/
  processed : ∀ move after event, Move.step setup move turn = some after →
    after.yielded = turn.yielded ++ [event] → event.kind = "agent_stalled" → turn.unread = []
  /-- A turn yields one stall at most. -/
  once : turn.stalls ≤ 1
  /-- One request of each poll is outstanding at most. -/
  single : ∀ method, turn.outstanding method ≤ 1

/-! ### The invariant -/

/-- The health of the protocol is that of the messages that have been taken. -/
structure Tracks (setup : Setup) (startedAt now : ℚ) (turn : Turn) : Prop where
  sound : turn.protocol.Sound setup now
  beat : turn.protocol.lastProtocolHeartbeatAt = turn.lastHeartbeat startedAt
  single : ∀ method, turn.outstanding method ≤ 1

/-- What has been yielded, and what is still to be before the loop goes on or is left. -/
structure Counts (setup : Setup) (now : ℚ) (turn : Turn) (rest : List Emit) (leaves : Bool) :
    Prop where
  once : turn.stalls + rest.count .stalled ≤ 1
  silent : .stalled ∈ rest → turn.protocol.Silent setup now
  plain : ∀ event, .event event ∈ rest → event.kind ≠ "agent_stalled"
  going : leaves = false → turn.stalls = 0 ∧ .stalled ∉ rest ∧
    turn.protocol.protocolFailureReported = false

/-- What holds in every state of every run. -/
structure Watches (setup : Setup) (startedAt now : ℚ) (turn : Turn) : Prop where
  tracks : turn.Tracks setup startedAt now
  counts : turn.Counts setup now turn.pending turn.isDecided

theorem Watches.later {later : ℚ} (watches : turn.Watches setup startedAt now)
    (le : now ≤ later) : turn.Watches setup startedAt later := by
  obtain ⟨⟨sound, beat, single⟩, once, silent, plain, going⟩ := watches
  exact ⟨⟨sound.later le, beat, single⟩, once, fun isMem => (silent isMem).later le, plain, going⟩

/-- Nothing more is yielded once the loop is left. -/
theorem Counts.left {rest : List Emit} {leaves : Bool}
    (counts : turn.Counts setup now rest leaves) : turn.Counts setup now [] true := by
  refine ⟨?_, ?_, ?_, ?_⟩
  · have once := counts.once
    rw [List.count_nil]
    omega
  · intro isMem
    cases isMem
  · intro event isMem
    cases isMem
  · intro impossible
    cases impossible

theorem leave_watches {rest : List Emit} {leaves : Bool} (why : Leave)
    (tracks : turn.Tracks setup startedAt now) (counts : turn.Counts setup now rest leaves) :
    (turn.leave why).Watches setup startedAt now := by
  obtain ⟨sound, beat, single⟩ := tracks
  obtain ⟨once, silent, plain, going⟩ := counts.left
  exact ⟨⟨sound, beat, single⟩, once, silent, plain, going⟩

theorem yields_watches {next : Emit} {rest : List Emit} {course : Course}
    (tracks : turn.Tracks setup startedAt now)
    (counts : turn.Counts setup now (next :: rest) (course == .leaves)) :
    (turn.yields now next rest course).Watches setup startedAt now := by
  obtain ⟨sound, beat, single⟩ := tracks
  obtain ⟨once, silent, plain, going⟩ := counts
  cases next with
  | event event =>
      have isPlain := plain event List.mem_cons_self
      have same : (turn.yields now (.event event) rest course).stalls = turn.stalls := by
        change (turn.yielded ++ [event]).countP _ = turn.yielded.countP _
        rw [List.countP_append, List.countP_singleton, if_neg (by simpa using isPlain)]
        rfl
      have uncounted : (Emit.event event :: rest).count .stalled = rest.count .stalled :=
        List.count_cons_of_ne (by intro impossible; cases impossible)
      have counted : (turn.yields now (.event event) rest course).Counts setup now rest
          (course == .leaves) := by
        refine ⟨?_, fun isMem => silent (List.mem_cons_of_mem _ isMem),
          fun other isMem => plain other (List.mem_cons_of_mem _ isMem), fun goes => ?_⟩
        · rw [same, ← uncounted]
          exact once
        · obtain ⟨none, notMem, unreported⟩ := going goes
          exact ⟨same.trans none, fun isMem => notMem (List.mem_cons_of_mem _ isMem), unreported⟩
      refine ⟨⟨sound, beat, single⟩, ?_⟩
      cases course with
      | goesOn => exact counted
      | leaves => exact counted
  | stalled =>
      have leaves : course = .leaves := by
        cases course with
        | goesOn => exact ((going rfl).2.1 List.mem_cons_self).elim
        | leaves => rfl
      subst leaves
      have more : (turn.yields now .stalled rest .leaves).stalls = turn.stalls + 1 := by
        change (turn.yielded ++ [_]).countP _ = turn.yielded.countP _ + 1
        rw [List.countP_append, List.countP_singleton, if_pos (by simp)]
      rw [List.count_cons_self] at once
      refine ⟨⟨⟨sound.past, sound.started, sound.event⟩, beat, single⟩, ?_, ?_, ?_, ?_⟩
      · rw [more]
        change turn.stalls + 1 + rest.count .stalled ≤ 1
        omega
      · intro isMem
        exact silent (List.mem_cons_of_mem _ isMem)
      · intro other isMem
        exact plain other (List.mem_cons_of_mem _ isMem)
      · intro impossible
        cases impossible

theorem proceed_watches {rest : List Emit} {course : Course}
    (tracks : turn.Tracks setup startedAt now)
    (counts : turn.Counts setup now rest (course == .leaves)) :
    (turn.proceed now rest course).Watches setup startedAt now := by
  cases rest with
  | cons next rest => exact yields_watches tracks counts
  | nil =>
      cases course with
      | leaves => exact leave_watches .finished tracks counts
      | goesOn =>
          obtain ⟨sound, beat, single⟩ := tracks
          obtain ⟨once, silent, plain, going⟩ := counts
          exact ⟨⟨sound, beat, single⟩, once, silent, plain, going⟩

/-! ### Messages -/

theorem lastHeartbeat_take (taken : Handled) (later : Turn)
    (handled : later.handled = turn.handled ++ [taken])
    (sameId : later.turnRequestId = turn.turnRequestId) :
    later.lastHeartbeat startedAt =
      if taken.isHeartbeat turn.turnRequestId then taken.now else turn.lastHeartbeat startedAt := by
  unfold lastHeartbeat
  rw [handled, sameId, List.filter_append]
  cases isHeartbeat : taken.isHeartbeat turn.turnRequestId with
  | true =>
      rw [List.filter_cons_of_pos isHeartbeat, List.filter_nil, List.getLast?_concat]
      rfl
  | false =>
      rw [List.filter_cons_of_neg (by rw [isHeartbeat]; exact Bool.false_ne_true), List.filter_nil,
        List.append_nil]
      rfl

theorem take_watches {message : Dict} (watches : turn.Watches setup startedAt now)
    (waits : turn.stage = .waiting) :
    (turn.take setup now message).Watches setup startedAt now := by
  obtain ⟨⟨sound, beat, single⟩, counts⟩ := watches
  have undecided : turn.isDecided = false := by
    unfold Turn.isDecided
    rw [waits]
  obtain ⟨none, _, unreported⟩ := counts.going undecided
  have health := @react_health setup now turn.protocol turn.turnRequestId message
  let taken : Turn :=
    { turn with
      protocol := (react setup now turn.protocol turn.turnRequestId message).1
      reader := .reading
      handled := turn.handled ++ [{ protocol := turn.protocol, now, message }] }
  have tracks : taken.Tracks setup startedAt now := by
    refine ⟨health.sound (fun _ => unreported) sound, ?_, fun method => ?_⟩
    · rw [@lastHeartbeat_take startedAt turn { protocol := turn.protocol, now, message } taken rfl
        rfl, ← beat]
      exact health.beat
    · exact health.requests.countP_le.trans (single method)
  have stays : taken.protocol.protocolFailureReported = false := health.reported.trans unreported
  have empty : taken.Counts setup now [] false := by
    refine ⟨?_, ?_, ?_, fun _ => ⟨none, List.not_mem_nil, stays⟩⟩
    · change turn.stalls + 0 ≤ 1
      omega
    · intro isMem
      cases isMem
    · intro event isMem
      cases isMem
  unfold take
  dsimp only
  split
  · exact leave_watches _ tracks empty
  · rename_i reaction reacted
    rcases react_warns reacted with plain | ⟨notCalls, leaves, ⟨warning, ⟨event, isEvent, isPlain⟩,
      emits⟩, silent⟩
    · have notMem : .stalled ∉ reaction.emits := by
        intro isMem
        obtain ⟨event, isEvent, _⟩ := plain _ isMem
        cases isEvent
      have counted : ∀ leaves, taken.Counts setup now reaction.emits leaves := by
        intro leaves
        refine ⟨?_, fun isMem => (notMem isMem).elim, ?_, fun _ => ⟨none, notMem, stays⟩⟩
        · change turn.stalls + _ ≤ 1
          rw [List.count_eq_zero_of_not_mem notMem, none]
          omega
        · intro event isMem
          obtain ⟨other, isEvent, differs⟩ := plain _ isMem
          cases isEvent
          exact differs
      split
      · obtain ⟨sound, beat, single⟩ := tracks
        obtain ⟨once, silent, plain, going⟩ := counted false
        exact ⟨⟨sound, beat, single⟩, once, silent, plain, going⟩
      · exact proceed_watches tracks (counted _)
    · rw [notCalls, if_neg Bool.false_ne_true, leaves, emits]
      refine proceed_watches tracks ⟨?_, fun _ => silent sound, ?_, ?_⟩
      · change turn.stalls + _ ≤ 1
        rw [none, isEvent, List.count_cons_of_ne (by intro impossible; cases impossible)]
        exact le_refl 1
      · intro other isMem
        rcases List.mem_cons.1 isMem with same | isMem
        · rw [isEvent] at same
          cases same
          exact isPlain
        · cases List.mem_singleton.1 isMem
      · intro impossible
        cases impossible

/-! ### Polls -/

/-- A change of the health that is not a heartbeat. -/
theorem Watches.unheard {protocol : Protocol} (watches : turn.Watches setup startedAt now)
    (health : Health setup now false turn.protocol protocol) :
    ({ turn with protocol } : Turn).Watches setup startedAt now := by
  obtain ⟨⟨sound, beat, single⟩, once, silent, plain, going⟩ := watches
  have sameBeat : protocol.lastProtocolHeartbeatAt = turn.protocol.lastProtocolHeartbeatAt :=
    health.beat
  refine ⟨⟨health.sound ?_ sound, health.beat.trans beat, fun method => ?_⟩, once, ?_, plain, ?_⟩
  · intro impossible
    cases impossible
  · exact health.requests.countP_le.trans (single method)
  · intro isMem
    have before := silent isMem
    unfold Protocol.Silent at before ⊢
    dsimp only
    rw [sameBeat]
    exact before
  · intro undecided
    obtain ⟨none, notMem, unreported⟩ := going undecided
    exact ⟨none, notMem, health.reported.trans unreported⟩

/-- A poll is asked for again only when no request of its method is outstanding. -/
theorem ask_watches {sentAt : ℚ} {methods : List PollMethod}
    (watches : turn.Watches setup startedAt now) :
    (turn.ask sentAt methods).Watches setup startedAt now := by
  induction methods with
  | nil =>
      obtain ⟨⟨sound, beat, single⟩, once, silent, plain, going⟩ := watches
      exact ⟨⟨sound, beat, single⟩, once, silent, plain, going⟩
  | cons method rest ih =>
      unfold ask
      split
      · exact ih
      · rename_i notPolling
        obtain ⟨⟨sound, beat, single⟩, once, silent, plain, going⟩ := watches
        refine ⟨⟨⟨sound.past, sound.started, sound.event⟩, beat, fun other => ?_⟩, once, silent,
          plain, going⟩
        change (turn.protocol.pollRequests ++ [_]).countP _ ≤ 1
        rw [List.countP_append, List.countP_singleton]
        have others := single other
        unfold outstanding at others
        by_cases same : method = other
        · subst same
          have idle : turn.protocol.pollRequests.countP
              (fun request => decide (request.method = method)) = 0 := by
            rw [List.countP_eq_zero]
            intro request isMem isMethod
            exact notPolling (List.any_eq_true.2 ⟨request, isMem, isMethod⟩)
          rw [idle, if_pos (by simp)]
        · rw [if_neg (by simpa using same)]
          exact others

theorem expire_health (turn : Turn) : Health setup now false turn.protocol
    (turn.expire setup now) := by
  have folded : ∀ (requests : List PollRequest) (protocol : Protocol),
      Health setup now false protocol (requests.foldl (fun protocol request =>
        if max 0 setup.protocolFailureSeconds ≤ now - request.sentAt then
          protocol.failure setup now request.method.name "app-server poll response timed out"
        else protocol) protocol) := by
    intro requests
    induction requests with
    | nil => exact fun protocol => .unheard protocol
    | cons request rest ih =>
        intro protocol
        rw [List.foldl_cons]
        refine Health.trans ?_ (ih _)
        split
        · exact .failure _ _
        · exact .unheard protocol
  exact folded turn.protocol.pollRequests turn.protocol

/-! ### Every step -/

theorem Watches.step {action : Action} (watches : turn.Watches setup startedAt now)
    (does : turn.Does setup now action after) : after.Watches setup startedAt now := by
  have watched := watches
  obtain ⟨tracks, counts⟩ := watches
  obtain ⟨sound, beat, single⟩ := tracks
  obtain ⟨once, silent, plain, going⟩ := counts
  cases does with
  | reads message behind isReading inFront =>
      exact ⟨⟨sound, beat, single⟩, once, silent, plain, going⟩
  | fails error behind isReading inFront =>
      exact ⟨⟨sound, beat, single⟩, once, silent, plain, going⟩
  | takes message waits isRead => exact take_watches watched waits
  | breaks error waits isFailed =>
      refine @yields_watches setup startedAt now
        { turn with ending := some (.failure error) } _ _ _ ⟨sound, beat, single⟩ ⟨?_, ?_, ?_, ?_⟩
      · change turn.stalls + _ ≤ 1
        have few : turn.stalls + 0 ≤ 1 := le_trans (Nat.add_le_add_left (Nat.zero_le _) _) once
        exact few
      · intro isMem
        cases List.mem_singleton.1 isMem
      · intro event isMem
        cases List.mem_singleton.1 isMem
        exact fun same => absurd same (show "agent_error" ≠ "agent_stalled" by decide)
      · intro impossible
        cases impossible
  | stalls waits isReading noLine isFailed =>
      have undecided : turn.isDecided = false := by
        unfold Turn.isDecided
        rw [waits]
      refine ⟨⟨sound, beat, single⟩, ?_, fun _ => sound.event isFailed, ?_, ?_⟩
      · change turn.stalls + 1 ≤ 1
        rw [(going undecided).1]
      · intro event isMem
        cases List.mem_singleton.1 isMem
      · intro impossible
        cases impossible
  | answers message rest calls =>
      have isPending : turn.pending = rest := by
        unfold Turn.pending
        rw [calls]
      have undecided : turn.isDecided = false := by
        unfold Turn.isDecided
        rw [calls]
      rw [isPending] at once silent plain going
      rw [undecided] at going
      exact @proceed_watches setup startedAt now
        { turn with answers := turn.answers ++ [Dict.get message "id"] } rest .goesOn
        ⟨sound, beat, single⟩ ⟨once, silent, plain, going⟩
  | refuses message rest fault calls => exact leave_watches _ ⟨sound, beat, single⟩ watched.counts
  | next rest course yields =>
      refine proceed_watches ⟨sound, beat, single⟩ ?_
      have isPending : turn.pending = rest := by
        unfold Turn.pending
        rw [yields]
      have decided : turn.isDecided = (course == .leaves) := by
        unfold Turn.isDecided
        rw [yields]
        cases course with
        | goesOn => rfl
        | leaves => rfl
      rw [isPending] at once silent plain going
      rw [decided] at going
      exact ⟨once, silent, plain, going⟩
  | closes rest course yields => exact leave_watches _ ⟨sound, beat, single⟩ watched.counts
  | cancels waits => exact leave_watches _ ⟨sound, beat, single⟩ watched.counts
  | readerStops isCancelling => exact ⟨⟨sound, beat, single⟩, once, silent, plain, going⟩
  | stallResumes stalls isCancelled =>
      refine yields_watches ⟨sound, beat, single⟩ ?_
      have isPending : turn.pending = [.stalled] := by
        unfold Turn.pending
        rw [stalls]
      have decided : turn.isDecided = true := by
        unfold Turn.isDecided
        rw [stalls]
      rw [isPending] at once silent plain going
      rw [decided] at going
      exact ⟨once, silent, plain, going⟩
  | raises why error closes isFailed =>
      obtain ⟨once, silent, plain, going⟩ := watched.counts.left
      exact ⟨⟨sound, beat, single⟩, once, silent, plain, going⟩
  | settles why closes isDone notFailed =>
      obtain ⟨once, silent, plain, going⟩ := watched.counts.left
      exact ⟨⟨sound, beat, single⟩, once, silent, plain, going⟩
  | ends why cancelling stops =>
      obtain ⟨once, silent, plain, going⟩ := watched.counts.left
      refine ⟨⟨⟨sound.past, sound.started, sound.event⟩, beat, fun method => ?_⟩, once, silent,
        plain, going⟩
      exact Nat.zero_le 1
  | rests hasProcess sleeping => exact watched
  | polls hasProcess sleeping => exact ask_watches (watched.unheard (expire_health turn))
  | sent request rest sending => exact ask_watches watched
  | unsent request rest error sending =>
      exact ask_watches (watched.unheard (Health.failure _ _).popped)

/-! ### The stall that the health task finds -/

/-- Nothing is left in the buffer, and nothing more is read. -/
def Settled (turn : Turn) : Prop :=
  turn.stage = .stalling → turn.readBuffer = [] ∧ turn.reader.isLive = false

theorem proceed_goes (rest : List Emit) (course : Course) :
    (turn.proceed now rest course).stage ≠ .stalling := by
  intro stalls
  cases rest with
  | cons next rest =>
      cases next with
      | event event => cases stalls
      | stalled => cases stalls
  | nil =>
      cases course with
      | goesOn => cases stalls
      | leaves => cases stalls

theorem take_goes (message : Dict) : (turn.take setup now message).stage ≠ .stalling := by
  intro stalls
  unfold take at stalls
  dsimp only at stalls
  split at stalls
  · cases stalls
  · split at stalls
    · cases stalls
    · exact proceed_goes _ _ stalls

theorem ask_settled {asking : Turn} (settled : asking.Settled) (sentAt : ℚ)
    (methods : List PollMethod) : (asking.ask sentAt methods).Settled := by
  obtain ⟨protocol, poll, asked⟩ := ask_eq asking sentAt methods
  rw [asked]
  exact settled

theorem Settled.step {action : Action} (settled : turn.Settled)
    (does : turn.Does setup now action after) : after.Settled := by
  have notRead : turn.stage = .stalling → turn.reader ≠ .reading := by
    intro stalls isReading
    have stopped := (settled stalls).2
    rw [isReading] at stopped
    cases stopped
  cases does with
  | reads message behind isReading inFront => exact fun stalls => (notRead stalls isReading).elim
  | fails error behind isReading inFront => exact fun stalls => (notRead stalls isReading).elim
  | takes message waits isRead => exact fun stalls => (take_goes message stalls).elim
  | breaks error waits isFailed => exact fun stalls => by cases stalls
  | stalls waits isReading noLine isFailed => exact fun _ => ⟨noLine, rfl⟩
  | answers message rest calls => exact fun stalls => (proceed_goes _ _ stalls).elim
  | refuses message rest fault calls => exact fun stalls => by cases stalls
  | next rest course yields => exact fun stalls => (proceed_goes _ _ stalls).elim
  | closes rest course yields => exact fun stalls => by cases stalls
  | cancels waits => exact fun stalls => by cases stalls
  | readerStops isCancelling => exact fun stalls => ⟨(settled stalls).1, rfl⟩
  | stallResumes stalls isCancelled => exact fun stalls => by cases stalls
  | raises why error closes isFailed => exact fun stalls => by cases stalls
  | settles why closes isDone notFailed => exact fun stalls => by cases stalls
  | ends why cancelling stops => exact fun stalls => by cases stalls
  | rests hasProcess sleeping => exact settled
  | polls hasProcess sleeping =>
      refine ask_settled ?_ now _
      exact settled
  | sent request rest sending => exact ask_settled settled _ _
  | unsent request rest error sending =>
      refine ask_settled ?_ _ _
      exact settled

/-! ### The step that yields a stall -/

theorem not_yielded {yielded : List AgentEvent} {event : AgentEvent} :
    yielded ≠ yielded ++ [event] := by
  intro same
  have lengths := congrArg List.length same
  rw [List.length_append, List.length_singleton] at lengths
  omega

theorem yields_stall {next : Emit} {rest : List Emit} {course : Course} {event : AgentEvent}
    (plain : ∀ event, next = .event event → event.kind ≠ "agent_stalled")
    (yielded : (turn.yields now next rest course).yielded = turn.yielded ++ [event])
    (isStall : event.kind = "agent_stalled") : next = .stalled := by
  cases next with
  | stalled => rfl
  | event other =>
      have same : turn.yielded ++ [other] = turn.yielded ++ [event] := yielded
      obtain rfl := List.singleton_inj.1 (List.append_cancel_left same)
      exact (plain other rfl isStall).elim

theorem proceed_stall {rest : List Emit} {course : Course} {event : AgentEvent}
    (plain : ∀ event more, rest = .event event :: more → event.kind ≠ "agent_stalled")
    (yielded : (turn.proceed now rest course).yielded = turn.yielded ++ [event])
    (isStall : event.kind = "agent_stalled") : ∃ more, rest = .stalled :: more := by
  cases rest with
  | cons next more =>
      refine ⟨more, ?_⟩
      rw [yields_stall (fun event isEvent => plain event more (by rw [isEvent])) yielded isStall]
  | nil =>
      cases course with
      | goesOn => exact (not_yielded yielded).elim
      | leaves => exact (not_yielded yielded).elim

/-- A message is never answered by a stall at once. -/
theorem take_stall {message : Dict} {event : AgentEvent}
    (yielded : (turn.take setup now message).yielded = turn.yielded ++ [event]) :
    event.kind ≠ "agent_stalled" := by
  intro isStall
  unfold take at yielded
  dsimp only at yielded
  split at yielded
  · exact not_yielded yielded
  · rename_i reaction reacted
    have first : ∀ next more, reaction.emits = next :: more → Plain next := by
      intro next more emits
      rcases react_warns reacted with plain | ⟨_, _, ⟨warning, isPlain, others⟩, _⟩
      · exact plain next (by rw [emits]; exact List.mem_cons_self)
      · rw [emits] at others
        cases others
        exact isPlain
    split at yielded
    · exact not_yielded yielded
    · obtain ⟨more, isStalled⟩ := proceed_stall (fun event more isEvent => by
        obtain ⟨other, same, differs⟩ := first _ _ isEvent
        cases same
        exact differs) yielded isStall
      obtain ⟨other, same, _⟩ := first _ _ isStalled
      cases same

/-- A step that yields a stall yields the one that is pending. -/
theorem stall_of_step {action : Action} {event : AgentEvent}
    (watches : turn.Watches setup startedAt now) (does : turn.Does setup now action after)
    (yielded : after.yielded = turn.yielded ++ [event]) (isStall : event.kind = "agent_stalled") :
    .stalled ∈ turn.pending ∧
      ((∃ rest course, turn.stage = .yielding (.stalled :: rest) course) ∨
        turn.stage = .stalling ∧ turn.reader = .cancelled) := by
  have plain := watches.counts.plain
  cases does with
  | reads message behind isReading inFront => exact (not_yielded yielded).elim
  | fails error behind isReading inFront => exact (not_yielded yielded).elim
  | takes message waits isRead => exact (take_stall yielded isStall).elim
  | breaks error waits isFailed =>
      have isStalled := @yields_stall now { turn with ending := some (.failure error) }
        (readFailure error) [] .leaves event (fun event isEvent => by
          cases isEvent
          exact fun same => absurd same (show "agent_error" ≠ "agent_stalled" by decide))
        yielded isStall
      cases isStalled
  | stalls waits isReading noLine isFailed => exact (not_yielded yielded).elim
  | answers message rest calls =>
      have isPending : turn.pending = rest := by
        unfold Turn.pending
        rw [calls]
      have undecided : turn.isDecided = false := by
        unfold Turn.isDecided
        rw [calls]
      rw [isPending] at plain
      obtain ⟨more, isStalled⟩ := @proceed_stall now
        { turn with answers := turn.answers ++ [Dict.get message "id"] } rest .goesOn event
        (fun event more isEvent => plain event (by rw [isEvent]; exact List.mem_cons_self)) yielded
        isStall
      have notMem := (watches.counts.going undecided).2.1
      rw [isPending, isStalled] at notMem
      exact (notMem List.mem_cons_self).elim
  | refuses message rest fault calls => exact (not_yielded yielded).elim
  | next rest course yields =>
      have isPending : turn.pending = rest := by
        unfold Turn.pending
        rw [yields]
      rw [isPending] at plain
      obtain ⟨more, isStalled⟩ := proceed_stall
        (fun event more isEvent => plain event (by rw [isEvent]; exact List.mem_cons_self)) yielded
        isStall
      subst isStalled
      exact ⟨by rw [isPending]; exact List.mem_cons_self, Or.inl ⟨more, course, yields⟩⟩
  | closes rest course yields => exact (not_yielded yielded).elim
  | cancels waits => exact (not_yielded yielded).elim
  | readerStops isCancelling => exact (not_yielded yielded).elim
  | stallResumes stalls isCancelled =>
      have isPending : turn.pending = [.stalled] := by
        unfold Turn.pending
        rw [stalls]
      exact ⟨by rw [isPending]; exact List.mem_singleton_self _, Or.inr ⟨stalls, isCancelled⟩⟩
  | raises why error closes isFailed => exact (not_yielded yielded).elim
  | settles why closes isDone notFailed => exact (not_yielded yielded).elim
  | ends why cancelling stops => exact (not_yielded yielded).elim
  | rests hasProcess sleeping => exact (not_yielded yielded).elim
  | polls hasProcess sleeping =>
      obtain ⟨protocol, poll, asked⟩ := ask_eq { turn with protocol := turn.expire setup now } now
        [.threadRead, .threadGoalGet]
      rw [asked] at yielded
      exact (not_yielded yielded).elim
  | sent request rest sending =>
      obtain ⟨protocol, poll, asked⟩ := ask_eq turn request.sentAt rest
      rw [asked] at yielded
      exact (not_yielded yielded).elim
  | unsent request rest error sending =>
      obtain ⟨protocol, poll, asked⟩ := ask_eq { turn with
        protocol := (turn.protocol.pop request.id).failure setup now request.method.name
          error.text }
        request.sentAt rest
      rw [asked] at yielded
      exact (not_yielded yielded).elim

end Turn

/-! ### Every run -/

section Runs

variable {setup : Setup} {turn : Turn} {moves : List Move} {startedAt : ℚ}

theorem Turn.settled_run {permits : Turn → Move → Prop} {threadId : Option String}
    {turnRequestId : Nat} {readBuffer : List (Except Exc Dict)}
    (run : Machine.Run (Move.step setup) permits
      (start startedAt threadId turnRequestId readBuffer) moves turn) : turn.Settled := by
  refine run.invariant (fun stalls => by cases stalls) ?_
  intro before after move _ goes settled
  obtain ⟨_, done, does, rfl⟩ := Move.does goes
  have stays := settled.step does
  exact stays

theorem Turn.watches_run {permits : Turn → Move → Prop} {threadId : Option String}
    {turnRequestId : Nat} {readBuffer : List (Except Exc Dict)}
    (run : Machine.Run (Move.step setup) permits
      (start startedAt threadId turnRequestId readBuffer) moves turn) :
        turn.Watches setup startedAt turn.clock := by
  refine @Machine.Run.invariant _ _ _ _ _ _ _
    (fun turn => turn.Watches setup startedAt turn.clock) run ?_ ?_
  · refine ⟨⟨⟨le_refl _, ?_, ?_⟩, rfl, fun _ => Nat.zero_le 1⟩, Nat.zero_le 1, ?_, ?_, ?_⟩
    · intro failedAt impossible
      cases impossible
    · intro impossible
      cases impossible
    · intro isMem
      cases isMem
    · intro event isMem
      cases isMem
    · intro _
      refine ⟨rfl, ?_, rfl⟩
      intro isMem
      cases isMem
  · intro before after move _ goes holds
    obtain ⟨later, done, does, rfl⟩ := Move.does goes
    obtain ⟨⟨sound, beat, single⟩, once, silent, plain, going⟩ := (holds.later later).step does
    exact ⟨⟨sound, beat, single⟩, once, silent, plain, going⟩

/-- A stall is found soundly exactly if no message is left when the stall that follows the error of
a poll is pending: that one is yielded without a look at the reader and its buffer. -/
theorem stalls_soundly_iff {threadId : Option String} {turnRequestId : Nat}
    {readBuffer : List (Except Exc Dict)}
    (run : Machine.Run (Move.step setup) (fun _ _ => True)
      (start startedAt threadId turnRequestId readBuffer) moves turn) :
    turn.StallsSoundly setup startedAt ↔
      ∀ rest course, turn.stage = .yielding (.stalled :: rest) course → turn.unread = [] := by
  have watches := Turn.watches_run run
  constructor
  · intro sound rest course yields
    refine sound.processed ⟨turn.clock, .next⟩
      { turn.yields turn.clock .stalled rest course with clock := turn.clock }
      ⟨"agent_stalled", .obj (turn.protocol.failurePayload turn.clock)⟩ ?_ rfl rfl
    unfold Move.step
    rw [if_pos (le_refl _)]
    unfold Action.step
    dsimp only
    rw [yields]
    rfl
  · intro idle
    have found : ∀ move after event, Move.step setup move turn = some after →
        after.yielded = turn.yielded ++ [event] → event.kind = "agent_stalled" →
        turn.protocol.Silent setup move.now ∧ ((∃ rest course,
          turn.stage = .yielding (.stalled :: rest) course) ∨
            turn.stage = .stalling ∧ turn.reader = .cancelled) := by
      intro move after event goes yielded isStall
      obtain ⟨later, done, does, rfl⟩ := Move.does goes
      obtain ⟨isMem, how⟩ := Turn.stall_of_step (watches.later later) does yielded isStall
      exact ⟨(watches.later later).counts.silent isMem, how⟩
    refine ⟨?_, ?_, ?_, watches.tracks.single⟩
    · intro move after event goes yielded isStall
      have silent := (found move after event goes yielded isStall).1
      unfold Protocol.Silent at silent
      rw [watches.tracks.beat] at silent
      exact le_trans (le_max_right 0 _) silent
    · intro move after event goes yielded isStall
      rcases (found move after event goes yielded isStall).2 with
        ⟨rest, course, yields⟩ | ⟨stalls, isCancelled⟩
      · exact idle rest course yields
      · unfold Turn.unread
        rw [isCancelled, ((Turn.settled_run run) stalls).1]
        rfl
    · have once := watches.counts.once
      omega

end Runs

/-- The polls are not answered until the protocol has failed, and the consumer takes the stall. -/
def silentRun : List Move :=
  [⟨30, .pollWakes true⟩, ⟨30, .pollSent (.ok ())⟩, ⟨30, .pollSent (.ok ())⟩,
    ⟨60, .pollWakes true⟩, ⟨90, .pollWakes true⟩, ⟨90, .wakes⟩, ⟨90, .readerStops⟩,
    ⟨90, .stallResumes⟩]

theorem silentRun_sound :
    ∃ turn, Machine.Run (Move.step plainSetup) (fun _ _ => True) (start 0 (some "t") 7 []) silentRun
        turn ∧
      turn.yielded.map AgentEvent.kind = ["agent_stalled"] ∧ turn.StallsSoundly plainSetup 0 := by
  have plays : ((Machine.playWhere (Move.step plainSetup) (fun _ _ => true) silentRun
      (start 0 (some "t") 7 [])).map fun turn => (turn.stage, turn.yielded.map AgentEvent.kind)) =
      some (.yielding [] .leaves, ["agent_stalled"]) := by decide +kernel
  obtain ⟨turn, played, ends⟩ := Option.map_eq_some_iff.1 plays
  have run : Machine.Run (Move.step plainSetup) (fun _ _ => true = true) (start 0 (some "t") 7 [])
      silentRun turn := Machine.Run.of_playWhere .nil played
  have anyRun : Machine.Run (Move.step plainSetup) (fun _ _ => True) (start 0 (some "t") 7 [])
      silentRun turn := run.mono fun _ _ _ => trivial
  refine ⟨turn, anyRun, (Prod.mk.inj ends).2, ?_⟩
  refine (stalls_soundly_iff anyRun).2 fun rest course yields => ?_
  rw [(Prod.mk.inj ends).1] at yields
  cases yields

/-- Polls are refused for too long, and the end of the turn comes in one chunk with the last
refusal: the consumer takes the warning, and the next event at once. -/
def refusedRun : List Move :=
  [⟨30, .pollWakes true⟩, ⟨30, .pollSent (.ok ())⟩, ⟨30, .pollSent (.ok ())⟩,
    ⟨31, .read (.ok [("id", .int 8), ("error", .obj [])])
      [.ok [("id", .int 9), ("error", .obj [])]]⟩,
    ⟨31, .wakes⟩, ⟨31, .next⟩,
    ⟨31, .read (.ok [("id", .int 9), ("error", .obj [])]) []⟩, ⟨31, .wakes⟩, ⟨31, .next⟩,
    ⟨60, .pollWakes true⟩, ⟨60, .pollSent (.ok ())⟩, ⟨60, .pollSent (.ok ())⟩,
    ⟨62, .read (.ok [("id", .int 10), ("error", .obj [])])
      [.ok [("method", .str "turn/completed")]]⟩,
    ⟨62, .wakes⟩]

theorem refusedRun_stalls :
    ¬∀ (setup : Setup) (startedAt : ℚ) (threadId : Option String) (turnRequestId : Nat)
      (readBuffer : List (Except Exc Dict)) (moves : List Move) (turn : Turn),
      Machine.Run (Move.step setup) (fun _ _ => True)
        (start startedAt threadId turnRequestId readBuffer) moves turn →
      turn.StallsSoundly setup startedAt := by
  intro sound
  have plays : ((Machine.playWhere (Move.step plainSetup) (fun _ _ => true) refusedRun
      (start 0 (some "t") 7 [])).map fun turn => (turn.stage, turn.unread)) =
      some (.yielding [.stalled] .leaves, [[("method", .str "turn/completed")]]) := by
    decide +kernel
  obtain ⟨turn, played, ends⟩ := Option.map_eq_some_iff.1 plays
  obtain ⟨yields, isLeft⟩ := Prod.mk.inj ends
  have run : Machine.Run (Move.step plainSetup) (fun _ _ => true = true)
      (start 0 (some "t") 7 []) refusedRun turn := Machine.Run.of_playWhere .nil played
  have isSound := sound plainSetup 0 (some "t") 7 [] refusedRun turn
    (run.mono fun _ _ _ => trivial)
  have isEmpty := isSound.processed ⟨turn.clock, .next⟩
    { turn.yields turn.clock .stalled [] .leaves with clock := turn.clock }
    ⟨"agent_stalled", .obj (turn.protocol.failurePayload turn.clock)⟩ ?_ rfl rfl
  · rw [isLeft] at isEmpty
    cases isEmpty
  · unfold Move.step
    rw [if_pos (le_refl _)]
    unfold Action.step
    dsimp only
    rw [yields]
    rfl

end CodexTurn

end Loom
