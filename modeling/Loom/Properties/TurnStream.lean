import Loom.Driver.TurnSteps
import Mathlib.Data.List.Forall2

/-!
# The end of a turn's stream

The events that `send_turn` yields are those of the messages in the order in which they were read,
and nothing changes them once the turn has ended.  What the cleanup does depends on the reader:
where a read has failed, it raises the failure again and leaves the poll task running.
-/

namespace Loom

namespace CodexTurn

/-! ### What is decided, and what is shown -/

/-- The events of a message that the loop has taken. -/
def Handled.emits (setup : Setup) (turnRequestId : Nat) (taken : Handled) : List Emit :=
  match (react setup taken.now taken.protocol turnRequestId taken.message).2 with
  | .ok reaction => reaction.emits
  | .error _ => []

/-- The event of a turn that ends without a message. -/
def Ending.emit : Ending → Emit
  | .failure error => readFailure error
  | .stall => .stalled

/-- An event is what has been decided to be yielded. -/
def Shows : Emit → AgentEvent → Prop
  | .event event, shown => event = shown
  | .stalled, shown => shown.kind = "agent_stalled"

namespace Turn

/-- The events of the messages that the loop has taken, in order, and the one that ends the turn
without a message. -/
def decided (setup : Setup) (turn : Turn) : List Emit :=
  turn.handled.flatMap (Handled.emits setup turn.turnRequestId) ++
    (turn.ending.map Ending.emit).toList

/-- What is still to be yielded. -/
def pending (turn : Turn) : List Emit :=
  match turn.stage with
  | .calling _ rest | .yielding rest _ => rest
  | .stalling => [.stalled]
  | .waiting | .closing _ | .stopping _ | .ended _ => []

/-- The loop has been left, or will be once the consumer comes back. -/
def isDecided (turn : Turn) : Bool :=
  match turn.stage with
  | .yielding _ .leaves | .stalling | .closing _ | .stopping _ | .ended _ => true
  | .waiting | .calling _ _ | .yielding _ .goesOn => false

/-- The stream ends cleanly. -/
structure Clean (setup : Setup) (turn : Turn) : Prop where
  /-- The loop takes the messages in the order in which they have been read. -/
  ordered : turn.handled.map Handled.message <+: turn.delivered
  /-- The generator yields what the messages decide, in order. -/
  shown : ∃ shown, shown <+: turn.decided setup ∧ List.Forall₂ Shows shown turn.yielded
  /-- It yields all of it unless the consumer closes or cancels it or a message makes it raise. -/
  complete : turn.left = some .finished → List.Forall₂ Shows (turn.decided setup) turn.yielded
  /-- A read that fails before the turn has ended ends it by one `agent_error`. -/
  failure : ∀ error, turn.stage = .waiting → turn.reader = .failed error → ∀ now after,
    Action.wakes.step setup now turn = some after →
    after.decided setup = turn.decided setup ++ [readFailure error] ∧ after.isDecided = true
  /-- Nothing that happens later changes what has been decided. -/
  final : turn.isDecided = true → ∀ moves later,
    Machine.Run (Move.step setup) (fun _ _ => True) turn moves later →
    later.isDecided = true ∧ later.decided setup = turn.decided setup
  /-- The generator ends as its body was left, and its tasks have finished. -/
  quiet : ∀ result, turn.stage = .ended result →
    turn.left = some result ∧ turn.reader.done = true ∧ turn.poll = .finished

end Turn

/-! ### The invariant -/

/-- The message that has been read ahead. -/
def readAhead : Reader → List Dict
  | .message message => [message]
  | .reading | .failed _ | .cancelling | .cancelled => []

/-- The reader has not been cancelled. -/
def Reader.isLive : Reader → Bool
  | .reading | .message _ | .failed _ => true
  | .cancelling | .cancelled => false

/-- The poll task has not been cancelled. -/
def Poll.runs : Poll → Bool
  | .sleeping | .sending _ _ => true
  | .cancelling | .finished => false

namespace Turn

variable {setup : Setup} {now : ℚ} {turn after : Turn}

/-- What holds of the tasks in each stage. -/
def Fits (turn : Turn) : Prop :=
  match turn.stage with
  | .waiting | .calling _ _ | .yielding _ .goesOn =>
      turn.left = none ∧ turn.ending = none ∧ turn.reader.isLive = true ∧ turn.poll.runs = true
  | .yielding _ .leaves | .stalling => turn.left = none ∧ turn.poll.runs = true
  | .closing why => turn.left = some why ∧ turn.poll.runs = true
  | .stopping why =>
      turn.left = some why ∧ turn.reader.done = true ∧ (∀ error, turn.reader ≠ .failed error)
  | .ended result =>
      (∃ error, turn.reader = .failed error) ∧ turn.poll.runs = true ∨
        turn.left = some result ∧ turn.reader.done = true ∧
          (∀ error, turn.reader ≠ .failed error) ∧ turn.poll = .finished

/-- What holds in every state of every run. -/
structure Flows (setup : Setup) (turn : Turn) : Prop where
  read : turn.delivered = turn.handled.map Handled.message ++ readAhead turn.reader
  shown : ∃ shown rest, List.Forall₂ Shows shown turn.yielded ∧
    turn.decided setup = shown ++ rest ∧ (turn.left = none → rest = turn.pending) ∧
    (turn.left = some .finished → rest = [])
  fits : turn.Fits

theorem leave_flows {why : Leave}
    (read : turn.delivered = turn.handled.map Handled.message ++ readAhead turn.reader)
    (shown : ∃ shown rest, List.Forall₂ Shows shown turn.yielded ∧
      turn.decided setup = shown ++ rest ∧ (why = .finished → rest = []))
    (runs : turn.poll.runs = true) : (turn.leave why).Flows setup := by
  refine ⟨?_, ?_, rfl, runs⟩
  · have same : readAhead (turn.leave why).reader = readAhead turn.reader := by
      unfold leave
      dsimp only
      split
      · rename_i isReading
        rw [isReading]
        rfl
      · rfl
    rw [same]
    exact read
  · obtain ⟨shown, rest, shows, decided, finished⟩ := shown
    refine ⟨shown, rest, shows, decided, ?_, ?_⟩
    · intro isNone
      cases isNone
    · intro isFinished
      exact finished (Option.some.inj isFinished)

theorem yields_flows {next : Emit} {rest : List Emit} {course : Course}
    (read : turn.delivered = turn.handled.map Handled.message ++ readAhead turn.reader)
    (shown : ∃ shown, List.Forall₂ Shows shown turn.yielded ∧
      turn.decided setup = shown ++ next :: rest)
    (left : turn.left = none) (runs : turn.poll.runs = true)
    (goesOn : course = .goesOn → turn.ending = none ∧ turn.reader.isLive = true) :
    (turn.yields now next rest course).Flows setup := by
  obtain ⟨shown, shows, decided⟩ := shown
  have fits : ∀ {other : Turn}, other.stage = .yielding rest course → other.left = turn.left →
      other.ending = turn.ending → other.reader = turn.reader → other.poll = turn.poll →
      other.Fits := by
    intro other isYielding sameLeft sameEnding sameReader samePoll
    unfold Fits
    rw [isYielding, sameLeft, sameEnding, sameReader, samePoll]
    cases course with
    | goesOn => exact ⟨left, (goesOn rfl).1, (goesOn rfl).2, runs⟩
    | leaves => exact ⟨left, runs⟩
  have all : turn.decided setup = (shown ++ [next]) ++ rest := by
    rw [decided, List.append_assoc]
    rfl
  have notFinished : turn.left = some .finished → rest = [] := by
    intro isFinished
    rw [left] at isFinished
    cases isFinished
  cases next with
  | event event =>
      have same : (turn.yields now (.event event) rest course).decided setup =
        turn.decided setup := rfl
      refine ⟨read, ⟨shown ++ [.event event], rest, ?_, same.trans all, fun _ => rfl, notFinished⟩,
        fits rfl rfl rfl rfl rfl⟩
      exact List.rel_append shows (.cons rfl .nil)
  | stalled =>
      have same : (turn.yields now .stalled rest course).decided setup = turn.decided setup := rfl
      refine ⟨read, ⟨shown ++ [.stalled], rest, ?_, same.trans all, fun _ => rfl, notFinished⟩,
        fits rfl rfl rfl rfl rfl⟩
      exact List.rel_append shows (.cons rfl .nil)

theorem proceed_flows {rest : List Emit} {course : Course}
    (read : turn.delivered = turn.handled.map Handled.message ++ readAhead turn.reader)
    (shown : ∃ shown, List.Forall₂ Shows shown turn.yielded ∧ turn.decided setup = shown ++ rest)
    (left : turn.left = none) (runs : turn.poll.runs = true)
    (goesOn : course = .goesOn → turn.ending = none ∧ turn.reader.isLive = true) :
    (turn.proceed now rest course).Flows setup := by
  cases rest with
  | cons next rest => exact yields_flows read shown left runs goesOn
  | nil =>
      obtain ⟨shown, shows, decided⟩ := shown
      cases course with
      | goesOn =>
          refine ⟨read, ⟨shown, [], shows, decided, fun _ => rfl, fun _ => rfl⟩, ?_⟩
          exact ⟨left, (goesOn rfl).1, (goesOn rfl).2, runs⟩
      | leaves => exact leave_flows read ⟨shown, [], shows, decided, fun _ => rfl⟩ runs

theorem take_flows {message : Dict} (flows : turn.Flows setup) (waits : turn.stage = .waiting)
    (isRead : turn.reader = .message message) : (turn.take setup now message).Flows setup := by
  obtain ⟨read, ⟨shown, rest, shows, decided, isPending, _⟩, fits⟩ := flows
  unfold Fits at fits
  rw [waits] at fits
  obtain ⟨left, ending, _, runs⟩ := fits
  have nothing : rest = [] := by
    rw [isPending left]
    unfold pending
    rw [waits]
  subst nothing
  rw [List.append_nil] at decided
  let taken : Turn :=
    { turn with
      protocol := (react setup now turn.protocol turn.turnRequestId message).1
      reader := .reading
      handled := turn.handled ++ [{ protocol := turn.protocol, now, message }] }
  have takenRead : taken.delivered =
      taken.handled.map Handled.message ++ readAhead taken.reader := by
    change turn.delivered = (turn.handled ++ [_]).map Handled.message ++ []
    rw [read, isRead, List.map_append, List.append_nil]
    rfl
  have takenDecided : taken.decided setup = shown ++
      Handled.emits setup turn.turnRequestId { protocol := turn.protocol, now, message } := by
    rw [← decided]
    unfold Turn.decided
    change (turn.handled ++ [_]).flatMap _ ++ (turn.ending.map _).toList = _
    rw [ending, List.flatMap_append, List.flatMap_singleton]
    simp only [Option.map_none, Option.toList_none, List.append_nil]
    rfl
  unfold Handled.emits at takenDecided
  unfold take
  dsimp only at takenDecided ⊢
  split
  · rename_i error reacted
    rw [reacted, List.append_nil] at takenDecided
    refine leave_flows takenRead ⟨shown, [], shows, ?_, fun _ => rfl⟩ runs
    exact takenDecided.trans (List.append_nil shown).symm
  · rename_i reaction reacted
    rw [reacted] at takenDecided
    split
    · refine ⟨takenRead, ⟨shown, reaction.emits, shows, takenDecided, fun _ => rfl, ?_⟩, ?_⟩
      · intro isFinished
        exact absurd (left.symm.trans isFinished) (by intro impossible; cases impossible)
      · exact ⟨left, ending, rfl, runs⟩
    · exact proceed_flows takenRead ⟨shown, shows, takenDecided⟩ left runs fun _ => ⟨ending, rfl⟩

/-- While the loop waits, nothing is left to be yielded and nothing has ended the turn. -/
theorem Flows.waiting (flows : turn.Flows setup) (waits : turn.stage = .waiting) :
    turn.left = none ∧ turn.poll.runs = true ∧
      ∃ shown, List.Forall₂ Shows shown turn.yielded ∧ ∀ ending : Ending,
        ({ turn with ending := some ending } : Turn).decided setup = shown ++ [ending.emit] := by
  obtain ⟨_, ⟨shown, rest, shows, decided, isPending, _⟩, fits⟩ := flows
  unfold Fits at fits
  rw [waits] at fits
  obtain ⟨left, ending, _, runs⟩ := fits
  have nothing : rest = [] := by
    rw [isPending left]
    unfold pending
    rw [waits]
  refine ⟨left, runs, shown, shows, fun other => ?_⟩
  rw [nothing, List.append_nil] at decided
  rw [← decided]
  unfold Turn.decided
  rw [ending]
  simp only [Option.map_none, Option.toList_none, List.append_nil]
  rfl

/-- The poll task keeps running. -/
theorem ask_runs (turn : Turn) (sentAt : ℚ) (methods : List PollMethod) :
    (turn.ask sentAt methods).poll.runs = true := by
  induction methods with
  | nil => rfl
  | cons method rest ih =>
      unfold ask
      split
      · exact ih
      · rfl

/-- What holds of a turn does not depend on the fields that the poll task changes. -/
theorem Flows.poll {protocol : Protocol} {poll : Poll} (flows : turn.Flows setup)
    (running : turn.poll.runs = true) (runs : poll.runs = true) :
    ({ turn with protocol, poll } : Turn).Flows setup := by
  obtain ⟨read, shown, fits⟩ := flows
  refine ⟨read, shown, ?_⟩
  unfold Fits at fits ⊢
  dsimp only
  split
  · rename_i waits
    rw [waits] at fits
    exact ⟨fits.1, fits.2.1, fits.2.2.1, runs⟩
  · rename_i calls
    rw [calls] at fits
    exact ⟨fits.1, fits.2.1, fits.2.2.1, runs⟩
  · rename_i yields
    rw [yields] at fits
    exact ⟨fits.1, fits.2.1, fits.2.2.1, runs⟩
  · rename_i yields
    rw [yields] at fits
    exact ⟨fits.1, runs⟩
  · rename_i stalls
    rw [stalls] at fits
    exact ⟨fits.1, runs⟩
  · rename_i why closes
    rw [closes] at fits
    exact ⟨fits.1, runs⟩
  · rename_i why stops
    rw [stops] at fits
    exact fits
  · rename_i result ends
    rw [ends] at fits
    rcases fits with ⟨failed, _⟩ | ⟨_, _, _, finished⟩
    · exact Or.inl ⟨failed, runs⟩
    · rw [finished] at running
      cases running

theorem Flows.ask {sentAt : ℚ} {methods : List PollMethod} (flows : turn.Flows setup)
    (running : turn.poll.runs = true) : (turn.ask sentAt methods).Flows setup := by
  obtain ⟨protocol, poll, asked⟩ := ask_eq turn sentAt methods
  have runs := ask_runs turn sentAt methods
  rw [asked] at runs ⊢
  exact flows.poll running runs

/-- A reader that is not done goes on, or is done. -/
theorem Fits.reader {reader : Reader} {readBuffer : List (Except Exc Dict)}
    {delivered : List Dict} (fits : turn.Fits)
    (unfinished : turn.reader.done = false)
    (live : turn.reader.isLive = true → reader.isLive = true) :
    ({ turn with reader, readBuffer, delivered } : Turn).Fits := by
  unfold Fits at fits ⊢
  dsimp only
  split
  · rename_i stage
    rw [stage] at fits
    exact ⟨fits.1, fits.2.1, live fits.2.2.1, fits.2.2.2⟩
  · rename_i stage
    rw [stage] at fits
    exact ⟨fits.1, fits.2.1, live fits.2.2.1, fits.2.2.2⟩
  · rename_i stage
    rw [stage] at fits
    exact ⟨fits.1, fits.2.1, live fits.2.2.1, fits.2.2.2⟩
  · rename_i stage
    rw [stage] at fits
    exact fits
  · rename_i stage
    rw [stage] at fits
    exact fits
  · rename_i stage
    rw [stage] at fits
    exact fits
  · rename_i stage
    rw [stage] at fits
    rw [unfinished] at fits
    cases fits.2.1
  · rename_i stage
    rw [stage] at fits
    rcases fits with ⟨⟨error, isFailed⟩, _⟩ | ⟨_, isDone, _⟩
    · rw [isFailed] at unfinished
      cases unfinished
    · rw [unfinished] at isDone
      cases isDone

/-- What holds of a turn is kept by what any of its parties does. -/
theorem Flows.step {action : Action} (flows : turn.Flows setup)
    (does : turn.Does setup now action after) : after.Flows setup := by
  have fits := flows.fits
  have read := flows.read
  obtain ⟨shown, rest', shows, decided, isPending, finished⟩ := flows.shown
  unfold Fits at fits
  cases does with
  | reads message behind isReading inFront =>
      rw [isReading, readAhead, List.append_nil] at read
      refine ⟨?_, flows.shown, flows.fits.reader (by rw [isReading]; rfl) fun _ => rfl⟩
      rw [read]
      rfl
  | fails error behind isReading inFront =>
      rw [isReading] at read
      exact ⟨read, flows.shown, flows.fits.reader (by rw [isReading]; rfl) fun _ => rfl⟩
  | takes message waits isRead => exact take_flows flows waits isRead
  | breaks error waits isFailed =>
      obtain ⟨left, runs, shown, shows, ends⟩ := flows.waiting waits
      exact yields_flows read ⟨shown, shows, ends (.failure error)⟩ left runs
        fun impossible => by cases impossible
  | stalls waits isReading noLine isFailed =>
      obtain ⟨left, runs, shown, shows, ends⟩ := flows.waiting waits
      rw [isReading] at read
      refine ⟨read, ⟨shown, [.stalled], shows, ends .stall, fun _ => rfl, ?_⟩, left, runs⟩
      intro isFinished
      exact absurd (left.symm.trans isFinished) (by intro impossible; cases impossible)
  | answers message rest calls =>
      rw [calls] at fits
      obtain ⟨left, ending, live, runs⟩ := fits
      have same : rest' = rest := by
        rw [isPending left]
        unfold pending
        rw [calls]
      subst same
      exact @proceed_flows setup now
        { turn with answers := turn.answers ++ [Dict.get message "id"] } rest' .goesOn
        read ⟨shown, shows, decided⟩ left runs fun _ => ⟨ending, live⟩
  | refuses message rest fault calls =>
      rw [calls] at fits
      exact leave_flows read
        ⟨shown, rest', shows, decided, fun impossible => by cases impossible⟩ fits.2.2.2
  | next rest course yields =>
      rw [yields] at fits
      have parts : turn.left = none ∧ turn.poll.runs = true ∧
          (course = .goesOn → turn.ending = none ∧ turn.reader.isLive = true) := by
        cases course with
        | goesOn => exact ⟨fits.1, fits.2.2.2, fun _ => ⟨fits.2.1, fits.2.2.1⟩⟩
        | leaves => exact ⟨fits.1, fits.2, fun impossible => by cases impossible⟩
      obtain ⟨left, runs, goesOn⟩ := parts
      have same : rest' = rest := by
        rw [isPending left]
        unfold pending
        rw [yields]
      subst same
      exact proceed_flows read ⟨shown, shows, decided⟩ left runs goesOn
  | closes rest course yields =>
      have runs : turn.poll.runs = true := by
        rw [yields] at fits
        cases course with
        | goesOn => exact fits.2.2.2
        | leaves => exact fits.2
      exact leave_flows read
        ⟨shown, rest', shows, decided, fun impossible => by cases impossible⟩ runs
  | cancels waits =>
      rw [waits] at fits
      exact leave_flows read
        ⟨shown, rest', shows, decided, fun impossible => by cases impossible⟩ fits.2.2.2
  | readerStops isCancelling =>
      rw [isCancelling] at read
      refine ⟨read, flows.shown, flows.fits.reader (by rw [isCancelling]; rfl) ?_⟩
      intro live
      rw [isCancelling] at live
      cases live
  | stallResumes stalls isCancelled =>
      rw [stalls] at fits
      have same : rest' = [.stalled] := by
        rw [isPending fits.1]
        unfold pending
        rw [stalls]
      subst same
      exact yields_flows read ⟨shown, shows, decided⟩ fits.1 fits.2
        fun impossible => by cases impossible
  | raises why error closes isFailed =>
      rw [closes] at fits
      refine ⟨read, ⟨shown, rest', shows, decided, ?_, finished⟩,
        Or.inl ⟨⟨error, isFailed⟩, fits.2⟩⟩
      intro isNone
      exact absurd (fits.1.symm.trans isNone) (by intro impossible; cases impossible)
  | settles why closes isDone notFailed =>
      rw [closes] at fits
      refine ⟨read, ⟨shown, rest', shows, decided, ?_, finished⟩, fits.1, isDone, notFailed⟩
      intro isNone
      exact absurd (fits.1.symm.trans isNone) (by intro impossible; cases impossible)
  | ends why cancelling stops =>
      rw [stops] at fits
      refine ⟨read, ⟨shown, rest', shows, decided, ?_, finished⟩,
        Or.inr ⟨fits.1, fits.2.1, fits.2.2, rfl⟩⟩
      intro isNone
      exact absurd (fits.1.symm.trans isNone) (by intro impossible; cases impossible)
  | rests hasProcess sleeping => exact flows
  | polls hasProcess sleeping =>
      have running : turn.poll.runs = true := by
        rw [sleeping]
        rfl
      exact (@Flows.poll setup turn (turn.expire setup now) turn.poll flows running running).ask
        running
  | sent request rest sending =>
      exact flows.ask (by rw [sending]; rfl)
  | unsent request rest error sending =>
      have running : turn.poll.runs = true := by
        rw [sending]
        rfl
      exact (@Flows.poll setup turn _ turn.poll flows running running).ask running

/-! ### What stays as it is -/

theorem proceed_decided (rest : List Emit) (course : Course) :
    (turn.proceed now rest course).decided setup = turn.decided setup := by
  cases rest with
  | cons next rest =>
      cases next with
      | event event => rfl
      | stalled => rfl
  | nil =>
      cases course with
      | goesOn => rfl
      | leaves => rfl

theorem proceed_isDecided (rest : List Emit) :
    (turn.proceed now rest .leaves).isDecided = true := by
  cases rest with
  | cons next rest =>
      cases next with
      | event event => rfl
      | stalled => rfl
  | nil => rfl

theorem ask_decided (sentAt : ℚ) (methods : List PollMethod) :
    (turn.ask sentAt methods).decided setup = turn.decided setup ∧
      (turn.ask sentAt methods).isDecided = turn.isDecided := by
  obtain ⟨protocol, poll, asked⟩ := ask_eq turn sentAt methods
  rw [asked]
  exact ⟨rfl, rfl⟩

/-- Once the turn has been decided, what has been decided stays as it is. -/
theorem step_decided {action : Action} (isDecided : turn.isDecided = true)
    (does : turn.Does setup now action after) :
    after.isDecided = true ∧ after.decided setup = turn.decided setup := by
  have notWaiting : turn.stage = .waiting → False := by
    intro waits
    unfold Turn.isDecided at isDecided
    rw [waits] at isDecided
    cases isDecided
  have notCalling : ∀ {message : Dict} {rest : List Emit},
      turn.stage = .calling message rest → False := by
    intro message rest calls
    unfold Turn.isDecided at isDecided
    rw [calls] at isDecided
    cases isDecided
  cases does with
  | reads message behind isReading inFront => exact ⟨isDecided, rfl⟩
  | fails error behind isReading inFront => exact ⟨isDecided, rfl⟩
  | takes message waits isRead => exact (notWaiting waits).elim
  | breaks error waits isFailed => exact (notWaiting waits).elim
  | stalls waits isReading noLine isFailed => exact (notWaiting waits).elim
  | answers message rest calls => exact (notCalling calls).elim
  | refuses message rest fault calls => exact (notCalling calls).elim
  | next rest course yields =>
      cases course with
      | goesOn =>
          unfold Turn.isDecided at isDecided
          rw [yields] at isDecided
          cases isDecided
      | leaves => exact ⟨proceed_isDecided rest, proceed_decided rest .leaves⟩
  | closes rest course yields => exact ⟨rfl, rfl⟩
  | cancels waits => exact (notWaiting waits).elim
  | readerStops isCancelling => exact ⟨isDecided, rfl⟩
  | stallResumes stalls isCancelled => exact ⟨rfl, rfl⟩
  | raises why error closes isFailed => exact ⟨rfl, rfl⟩
  | settles why closes isDone notFailed => exact ⟨rfl, rfl⟩
  | ends why cancelling stops => exact ⟨rfl, rfl⟩
  | rests hasProcess sleeping => exact ⟨isDecided, rfl⟩
  | polls hasProcess sleeping =>
      obtain ⟨decided, same⟩ :=
        @ask_decided setup { turn with protocol := turn.expire setup now } now
        [.threadRead, .threadGoalGet]
      exact ⟨same.trans isDecided, decided⟩
  | sent request rest sending =>
      obtain ⟨decided, same⟩ := @ask_decided setup turn request.sentAt rest
      exact ⟨same.trans isDecided, decided⟩
  | unsent request rest error sending =>
      obtain ⟨decided, same⟩ := @ask_decided setup { turn with
        protocol := (turn.protocol.pop request.id).failure setup now request.method.name
          error.text }
        request.sentAt rest
      exact ⟨same.trans isDecided, decided⟩

/-- Only a read that fails changes whether the reader has failed. -/
theorem step_failed {action : Action} (does : turn.Does setup now action after)
    (other : ∀ error behind, action ≠ .read (.error error) behind) (error : Exc) :
    after.reader = .failed error ↔ turn.reader = .failed error := by
  have differs : ∀ {reader : Reader}, reader ≠ .failed error → turn.reader ≠ .failed error →
      (reader = .failed error ↔ turn.reader = .failed error) := by
    intro reader notFailed otherNot
    constructor
    · intro isFailed
      exact (notFailed isFailed).elim
    · intro isFailed
      exact (otherNot isFailed).elim
  have polled : ∀ (asking : Turn) (sentAt : ℚ) (methods : List PollMethod),
      asking.reader = turn.reader →
      ((asking.ask sentAt methods).reader = .failed error ↔ turn.reader = .failed error) := by
    intro asking sentAt methods sameReader
    obtain ⟨protocol, poll, asked⟩ := ask_eq asking sentAt methods
    rw [asked]
    dsimp only
    rw [sameReader]
  cases does with
  | reads message behind isReading inFront =>
      refine differs ?_ ?_
      · intro impossible
        cases impossible
      · rw [isReading]
        intro impossible
        cases impossible
  | fails error behind isReading inFront => exact (other error behind rfl).elim
  | takes message waits isRead =>
      refine differs (take_failed message error) ?_
      rw [isRead]
      intro impossible
      cases impossible
  | breaks error waits isFailed => exact Iff.rfl
  | stalls waits isReading noLine isFailed =>
      refine differs ?_ ?_
      · intro impossible
        cases impossible
      · rw [isReading]
        intro impossible
        cases impossible
  | answers message rest calls =>
      exact @proceed_failed now
        { turn with answers := turn.answers ++ [Dict.get message "id"] } rest .goesOn error
  | refuses message rest fault calls => exact leave_failed (.raised fault) error
  | next rest course yields => exact proceed_failed rest course error
  | closes rest course yields => exact leave_failed .closed error
  | cancels waits => exact leave_failed (.raised .cancelled) error
  | readerStops isCancelling =>
      refine differs ?_ ?_
      · intro impossible
        cases impossible
      · rw [isCancelling]
        intro impossible
        cases impossible
  | stallResumes stalls isCancelled => exact Iff.rfl
  | raises why error closes isFailed => exact Iff.rfl
  | settles why closes isDone notFailed => exact Iff.rfl
  | ends why cancelling stops => exact Iff.rfl
  | rests hasProcess sleeping => exact Iff.rfl
  | polls hasProcess sleeping => exact polled _ _ _ rfl
  | sent request rest sending => exact polled _ _ _ rfl
  | unsent request rest error sending => exact polled _ _ _ rfl

end Turn

/-! ### Every run -/

section Runs

variable {setup : Setup} {turn : Turn} {start : Turn} {moves : List Move}

theorem Move.does {move : Move} {after : Turn} (goes : move.step setup turn = some after) :
    turn.clock ≤ move.now ∧ ∃ done, turn.Does setup move.now move.action done ∧
      after = { done with clock := move.now } := by
  unfold Move.step at goes
  split at goes
  · rename_i later
    obtain ⟨done, does, rfl⟩ := Option.map_eq_some_iff.1 goes
    exact ⟨later, done, Turn.does_of_step does, rfl⟩
  · cases goes

theorem Turn.flows_start (now : ℚ) (threadId : Option String) (turnRequestId : Nat)
    (readBuffer : List (Except Exc Dict)) :
    (CodexTurn.start now threadId turnRequestId readBuffer).Flows setup := by
  refine ⟨rfl, ⟨[], [], .nil, rfl, fun _ => rfl, fun _ => rfl⟩, ?_⟩
  exact ⟨rfl, rfl, rfl, rfl⟩

theorem Turn.Flows.run {permits : Turn → Move → Prop} (flows : start.Flows setup)
    (run : Machine.Run (Move.step setup) permits start moves turn) : turn.Flows setup := by
  refine run.invariant flows ?_
  intro before after move _ goes holds
  obtain ⟨_, done, does, rfl⟩ := Move.does goes
  obtain ⟨read, shown, fits⟩ := holds.step does
  exact ⟨read, shown, fits⟩

/-- What has been decided stays as it is in every run. -/
theorem Turn.decided_run {permits : Turn → Move → Prop} (isDecided : start.isDecided = true)
    (run : Machine.Run (Move.step setup) permits start moves turn) :
    turn.isDecided = true ∧ turn.decided setup = start.decided setup := by
  refine @Machine.Run.invariant _ _ _ _ _ _ _ (fun turn => turn.isDecided = true ∧
    turn.decided setup = start.decided setup) run ⟨isDecided, rfl⟩ ?_
  intro before after move _ goes holds
  obtain ⟨_, done, does, rfl⟩ := Move.does goes
  obtain ⟨stays, same⟩ := Turn.step_decided holds.1 does
  exact ⟨stays, same.trans holds.2⟩

/-- The reader has failed exactly if a read of the run has. -/
theorem Turn.failed_run {permits : Turn → Move → Prop}
    (live : ∀ error, start.reader ≠ .failed error)
    (run : Machine.Run (Move.step setup) permits start moves turn) :
    (∃ error, turn.reader = .failed error) ↔
      ∃ move ∈ moves, ∃ error behind, move.action = .read (.error error) behind := by
  induction run with
  | nil =>
      constructor
      · rintro ⟨error, isFailed⟩
        exact (live error isFailed).elim
      · rintro ⟨move, isMem, _⟩
        cases isMem
  | move run move _ goes ih =>
      obtain ⟨_, done, does, rfl⟩ := Move.does goes
      by_cases isRead : ∃ error behind, move.action = .read (.error error) behind
      · obtain ⟨error, behind, isRead⟩ := isRead
        constructor
        · intro _
          exact ⟨move, List.mem_append_right _ (List.mem_singleton_self move), error, behind,
            isRead⟩
        · intro _
          rw [isRead] at does
          cases does with
          | fails error behind isReading inFront => exact ⟨error, rfl⟩
      · have other : ∀ error behind, move.action ≠ .read (.error error) behind := by
          intro error behind same
          exact isRead ⟨error, behind, same⟩
        constructor
        · rintro ⟨error, isFailed⟩
          have before := (Turn.step_failed does other error).1 isFailed
          obtain ⟨earlier, isMem, found⟩ := ih.1 ⟨error, before⟩
          exact ⟨earlier, List.mem_append_left _ isMem, found⟩
        · rintro ⟨earlier, isMem, error, behind, isRead'⟩
          rcases List.mem_append.1 isMem with isOld | isNew
          · obtain ⟨error', isFailed⟩ := ih.2 ⟨earlier, isOld, error, behind, isRead'⟩
            exact ⟨error', (Turn.step_failed does other error').2 isFailed⟩
          · rw [List.mem_singleton.1 isNew] at isRead'
            exact (other error behind isRead').elim

/-- The generator has ended. -/
def Turn.isEnded (turn : Turn) : Bool :=
  match turn.stage with
  | .ended _ => true
  | _ => false

/-- The stream of a turn ends cleanly exactly if no read has failed: the cleanup raises every failed
read again and leaves the poll task running. -/
theorem stream_clean_iff {now : ℚ} {threadId : Option String} {turnRequestId : Nat}
    {readBuffer : List (Except Exc Dict)}
    (run : Machine.Run (Move.step setup) (fun _ _ => True)
      (CodexTurn.start now threadId turnRequestId readBuffer) moves turn) :
    turn.Clean setup ↔
      (turn.isEnded = true →
        ∀ move ∈ moves, ∀ error behind, move.action ≠ .read (.error error) behind) := by
  have flows := (Turn.flows_start now threadId turnRequestId readBuffer).run run
  have failed := Turn.failed_run (fun error impossible => by cases impossible) run
  have fits := flows.fits
  unfold Turn.Fits at fits
  constructor
  · intro clean isEnded move isMem error behind isRead
    obtain ⟨other, isFailed⟩ := failed.2 ⟨move, isMem, error, behind, isRead⟩
    unfold Turn.isEnded at isEnded
    split at isEnded
    · rename_i result ends
      have finished := (clean.quiet result ends).2.2
      rw [ends] at fits
      rcases fits with ⟨_, runs⟩ | ⟨_, _, notFailed, _⟩
      · rw [finished] at runs
        cases runs
      · exact notFailed other isFailed
    · cases isEnded
  · intro reads
    obtain ⟨shown, rest, shows, decided, isPending, finished⟩ := flows.shown
    refine ⟨?_, ⟨shown, ?_, shows⟩, ?_, ?_, ?_, ?_⟩
    · rw [flows.read]
      exact List.prefix_append _ _
    · rw [decided]
      exact List.prefix_append _ _
    · intro isFinished
      rw [decided, finished isFinished, List.append_nil]
      exact shows
    · intro error waits isFailed now after goes
      have does := Turn.does_of_step goes
      cases does with
      | takes message _ isRead =>
          rw [isFailed] at isRead
          cases isRead
      | breaks other _ isFailed' =>
          rw [isFailed] at isFailed'
          cases isFailed'
          refine ⟨?_, rfl⟩
          rw [waits] at fits
          unfold Turn.decided
          rw [fits.2.1]
          simp only [Option.map_none, Option.toList_none, List.append_nil]
          rfl
      | stalls _ isReading _ _ =>
          rw [isFailed] at isReading
          cases isReading
    · intro isDecided moves later more
      exact Turn.decided_run isDecided more
    · intro result ends
      have isEnded : turn.isEnded = true := by
        unfold Turn.isEnded
        rw [ends]
      rw [ends] at fits
      rcases fits with ⟨isFailed, _⟩ | ⟨left, isDone, _, poll⟩
      · obtain ⟨move, isMem, error, behind, isRead⟩ := failed.1 isFailed
        exact (reads isEnded move isMem error behind isRead).elim
      · exact ⟨left, isDone, poll⟩

end Runs

/-- Values that are not strings have no text. -/
def plainSetup : Setup where
  protocolFailureSeconds := 30
  text _ := ""

/-- The turn is completed, and its tasks are cancelled. -/
def completedRun : List Move :=
  [⟨0, .read (.ok [("method", .str "turn/completed"),
      ("params", .obj [("status", .str "failed")])]) []⟩,
    ⟨1, .wakes⟩, ⟨2, .next⟩, ⟨2, .readerStops⟩, ⟨2, .settles⟩, ⟨2, .pollStops⟩]

theorem completedRun_clean :
    ∃ turn, Machine.Run (Move.step plainSetup) (fun _ _ => True) (start 0 (some "t") 7 [])
      completedRun
        turn ∧
      turn.stage = .ended .finished ∧ turn.yielded.map AgentEvent.kind = ["agent_error"] ∧
      turn.Clean plainSetup := by
  have plays : ((Machine.playWhere (Move.step plainSetup) (fun _ _ => true) completedRun
      (start 0 (some "t") 7 [])).map fun turn => (turn.stage, turn.yielded.map AgentEvent.kind)) =
      some (.ended .finished, ["agent_error"]) := by decide +kernel
  obtain ⟨turn, played, ends⟩ := Option.map_eq_some_iff.1 plays
  have run : Machine.Run (Move.step plainSetup) (fun _ _ => true = true) (start 0 (some "t") 7 [])
      completedRun turn := Machine.Run.of_playWhere .nil played
  have anyRun : Machine.Run (Move.step plainSetup) (fun _ _ => True) (start 0 (some "t") 7 [])
      completedRun turn := run.mono fun _ _ _ => trivial
  refine ⟨turn, anyRun, (Prod.mk.inj ends).1, (Prod.mk.inj ends).2, ?_⟩
  refine (stream_clean_iff anyRun).2 fun _ move isMem error behind isRead => ?_
  simp only [completedRun, List.mem_cons, List.not_mem_nil, or_false] at isMem
  rcases isMem with rfl | rfl | rfl | rfl | rfl | rfl
  all_goals cases isRead

/-- The app-server closes its output before the turn has ended. -/
def brokenRun : List Move :=
  [⟨0, .read (.error ⟨.runtimeError, "coding_agent_unavailable"⟩) []⟩, ⟨1, .wakes⟩, ⟨2, .next⟩,
    ⟨2, .settles⟩]

theorem brokenRun_raises :
    ¬∀ (setup : Setup) (now : ℚ) (threadId : Option String) (turnRequestId : Nat)
      (readBuffer : List (Except Exc Dict)) (moves : List Move) (turn : Turn),
      Machine.Run (Move.step setup) (fun _ _ => True)
        (start now threadId turnRequestId readBuffer) moves turn →
      turn.Clean setup := by
  intro clean
  have plays : ((Machine.playWhere (Move.step plainSetup) (fun _ _ => true) brokenRun
      (start 0 (some "t") 7 [])).map fun turn => (turn.stage, turn.poll)) =
      some (.ended (.raised (.error ⟨.runtimeError, "coding_agent_unavailable"⟩)), .sleeping) := by
    decide +kernel
  obtain ⟨turn, played, ends⟩ := Option.map_eq_some_iff.1 plays
  have run : Machine.Run (Move.step plainSetup) (fun _ _ => true = true) (start 0 (some "t") 7 [])
      brokenRun turn := Machine.Run.of_playWhere .nil played
  have isClean := clean plainSetup 0 (some "t") 7 [] brokenRun turn (run.mono fun _ _ _ => trivial)
  have finished := (isClean.quiet _ (Prod.mk.inj ends).1).2.2
  rw [(Prod.mk.inj ends).2] at finished
  cases finished

end CodexTurn

end Loom
