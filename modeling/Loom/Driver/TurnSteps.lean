import Loom.Driver.CodexTurn

/-!
# The steps of a turn's stream

What each action does to a turn (`Does`), and what stays as it is when the generator goes on, is
left or the poll task runs.
-/

namespace Loom

namespace CodexTurn

namespace Turn

/-- What an action does, case by case. -/
inductive Does (setup : Setup) (now : ℚ) (turn : Turn) : Action → Turn → Prop where
  | reads (message : Dict) (behind : List (Except Exc Dict)) (isReading : turn.reader = .reading)
      (inFront : turn.reads (.ok message) behind = true) :
      Does setup now turn (.read (.ok message) behind)
        { turn with
          reader := .message message
          readBuffer := behind
          delivered := turn.delivered ++ [message] }
  | fails (error : Exc) (behind : List (Except Exc Dict)) (isReading : turn.reader = .reading)
      (inFront : turn.reads (.error error) behind = true) :
      Does setup now turn (.read (.error error) behind)
        { turn with
          reader := .failed error
          readBuffer := behind }
  | takes (message : Dict) (waits : turn.stage = .waiting)
      (isRead : turn.reader = .message message) :
      Does setup now turn .wakes (turn.take setup now message)
  | breaks (error : Exc) (waits : turn.stage = .waiting) (isFailed : turn.reader = .failed error) :
      Does setup now turn .wakes
        ({ turn with ending := some (.failure error) }.yields now (readFailure error) [] .leaves)
  | stalls (waits : turn.stage = .waiting) (isReading : turn.reader = .reading)
      (noLine : turn.readBuffer = []) (isFailed : turn.protocol.protocolFailureEvent = true) :
      Does setup now turn .wakes
        { turn with
          reader := .cancelling
          stage := .stalling
          ending := some .stall }
  | answers (message : Dict) (rest : List Emit) (calls : turn.stage = .calling message rest) :
      Does setup now turn (.toolCalled (.ok ()))
        ({ turn with answers := turn.answers ++ [Dict.get message "id"] }.proceed now rest .goesOn)
  | refuses (message : Dict) (rest : List Emit) (fault : Fault)
      (calls : turn.stage = .calling message rest) :
      Does setup now turn (.toolCalled (.error fault)) (turn.leave (.raised fault))
  | next (rest : List Emit) (course : Course) (yields : turn.stage = .yielding rest course) :
      Does setup now turn .next (turn.proceed now rest course)
  | closes (rest : List Emit) (course : Course) (yields : turn.stage = .yielding rest course) :
      Does setup now turn .close (turn.leave .closed)
  | cancels (waits : turn.stage = .waiting) :
      Does setup now turn .cancel (turn.leave (.raised .cancelled))
  | readerStops (isCancelling : turn.reader = .cancelling) :
      Does setup now turn .readerStops { turn with reader := .cancelled }
  | stallResumes (stalls : turn.stage = .stalling) (isCancelled : turn.reader = .cancelled) :
      Does setup now turn .stallResumes (turn.yields now .stalled [] .leaves)
  | raises (why : Leave) (error : Exc) (closes : turn.stage = .closing why)
      (isFailed : turn.reader = .failed error) :
      Does setup now turn .settles { turn with stage := .ended (.raised (.error error)) }
  | settles (why : Leave) (closes : turn.stage = .closing why) (isDone : turn.reader.done = true)
      (notFailed : ∀ error, turn.reader ≠ .failed error) :
      Does setup now turn .settles { turn with poll := .cancelling, stage := .stopping why }
  | ends (why : Leave) (cancelling : turn.poll = .cancelling) (stops : turn.stage = .stopping why) :
      Does setup now turn .pollStops
        { turn with
          poll := .finished
          protocol := { turn.protocol with pollRequests := [] }
          stage := .ended why }
  | rests (hasProcess : Bool) (sleeping : turn.poll = .sleeping) :
      Does setup now turn (.pollWakes hasProcess) turn
  | polls (hasProcess : Bool) (sleeping : turn.poll = .sleeping) :
      Does setup now turn (.pollWakes hasProcess)
        ({ turn with protocol := turn.expire setup now }.ask now [.threadRead, .threadGoalGet])
  | sent (request : PollRequest) (rest : List PollMethod)
      (sending : turn.poll = .sending request rest) :
      Does setup now turn (.pollSent (.ok ())) (turn.ask request.sentAt rest)
  | unsent (request : PollRequest) (rest : List PollMethod) (error : Exc)
      (sending : turn.poll = .sending request rest) :
      Does setup now turn (.pollSent (.error error))
        ({ turn with
          protocol := (turn.protocol.pop request.id).failure setup now request.method.name
            error.text }.ask request.sentAt rest)

variable {setup : Setup} {now : ℚ} {turn after : Turn}

theorem does_of_wake (waits : turn.stage = .waiting) (goes : turn.wake setup now = some after) :
    turn.Does setup now .wakes after := by
  unfold wake at goes
  split at goes
  · rename_i message isRead
    cases goes
    exact .takes message waits isRead
  · rename_i error isFailed
    cases goes
    exact .breaks error waits isFailed
  · rename_i isReading
    split at goes
    · rename_i fails
      cases goes
      exact .stalls waits isReading fails.1 fails.2
    · cases goes
  · cases goes
  · cases goes

theorem does_of_settle {why : Leave} (closes : turn.stage = .closing why)
    (goes : turn.settle why = some after) : turn.Does setup now .settles after := by
  unfold settle at goes
  split at goes
  · rename_i error isFailed
    cases goes
    exact .raises why error closes isFailed
  · rename_i message isRead
    cases goes
    refine .settles why closes (by rw [isRead]; rfl) fun error isFailed => ?_
    rw [isRead] at isFailed
    cases isFailed
  · rename_i isCancelled
    cases goes
    refine .settles why closes (by rw [isCancelled]; rfl) fun error isFailed => ?_
    rw [isCancelled] at isFailed
    cases isFailed
  · cases goes
  · cases goes

/-- Every step of an action is one of the cases. -/
theorem does_of_step {action : Action} (goes : action.step setup now turn = some after) :
    turn.Does setup now action after := by
  unfold Action.step at goes
  split at goes
  · split at goes
    · rename_i isRead
      cases goes
      exact .reads _ _ isRead.1 isRead.2
    · cases goes
  · split at goes
    · rename_i isRead
      cases goes
      exact .fails _ _ isRead.1 isRead.2
    · cases goes
  · split at goes
    · rename_i waits
      exact does_of_wake waits goes
    · cases goes
  · rename_i answer
    split at goes
    · rename_i message rest calls
      cases goes
      cases answer with
      | ok _ => exact .answers message rest calls
      | error fault => exact .refuses message rest fault calls
    · cases goes
  · split at goes
    · rename_i rest course yields
      cases goes
      exact .next rest course yields
    · cases goes
  · split at goes
    · rename_i rest course yields
      cases goes
      exact .closes rest course yields
    · cases goes
  · split at goes
    · rename_i waits
      cases goes
      exact .cancels waits
    · cases goes
  · split at goes
    · rename_i isCancelling
      cases goes
      exact .readerStops isCancelling
    · cases goes
  · split at goes
    · rename_i stalls
      cases goes
      exact .stallResumes stalls.1 stalls.2
    · cases goes
  · split at goes
    · rename_i why closes
      exact does_of_settle closes goes
    · cases goes
  · split at goes
    · rename_i why cancelling stops
      cases goes
      exact .ends why cancelling stops
    · cases goes
  · rename_i hasProcess
    split at goes
    · rename_i sleeping
      cases goes
      unfold Turn.pollWakes
      split
      · exact .polls hasProcess sleeping
      · exact .rests hasProcess sleeping
    · cases goes
  · rename_i answer
    split at goes
    · rename_i request rest sending
      cases goes
      cases answer with
      | ok _ => exact .sent request rest sending
      | error error => exact .unsent request rest error sending
    · cases goes

/-! ### What stays as it is -/

theorem yields_reader (next : Emit) (rest : List Emit) (course : Course) :
    (turn.yields now next rest course).reader = turn.reader := by
  cases next with
  | event event => rfl
  | stalled => rfl

theorem leave_failed (why : Leave) (error : Exc) :
    (turn.leave why).reader = .failed error ↔ turn.reader = .failed error := by
  unfold leave
  dsimp only
  split
  · rename_i isReading
    rw [isReading]
    constructor
    · intro impossible
      cases impossible
    · intro impossible
      cases impossible
  · exact Iff.rfl

theorem proceed_failed (rest : List Emit) (course : Course) (error : Exc) :
    (turn.proceed now rest course).reader = .failed error ↔ turn.reader = .failed error := by
  cases rest with
  | cons next rest =>
      unfold proceed
      rw [yields_reader]
  | nil =>
      cases course with
      | goesOn => exact Iff.rfl
      | leaves => exact leave_failed .finished error

theorem take_failed (message : Dict) (error : Exc) :
    (turn.take setup now message).reader ≠ .failed error := by
  intro isFailed
  unfold take at isFailed
  dsimp only at isFailed
  split at isFailed
  · cases (leave_failed _ error).1 isFailed
  · split at isFailed
    · cases isFailed
    · cases (proceed_failed _ _ error).1 isFailed

/-- The poll task changes the fields of the provider and where it is suspended. -/
theorem ask_eq (turn : Turn) (sentAt : ℚ) (methods : List PollMethod) :
    ∃ protocol poll, turn.ask sentAt methods = { turn with protocol, poll } := by
  induction methods with
  | nil => exact ⟨turn.protocol, .sleeping, rfl⟩
  | cons method rest ih =>
      unfold ask
      split
      · exact ih
      · exact ⟨_, _, rfl⟩

end Turn

end CodexTurn

end Loom
