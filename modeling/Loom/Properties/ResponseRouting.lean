import Loom.Driver.CodexSession
import Loom.Properties.StallDetection

/-!
# Responses and server requests

Which message of the app-server is taken as the response to a request, and whether every server
request is answered, where the ids of the two sides collide.
-/

namespace Loom

namespace CodexTurn

/-! ### Responses and requests -/

/-- The message answers the request of this id: it has no method, and bears the id. -/
def isResponse (id : Nat) (message : Dict) : Bool :=
  !hasMethod message && decide (Dict.get message "id" = .int id)

/-- The message asks for an answer: it has a method and an id, or calls a tool. -/
def isRequest (setup : Setup) (message : Dict) : Bool :=
  hasMethod message && Dict.has message "id" || isToolCall setup message

/-- The id of the request that a message has been taken as the response to. -/
def Handled.answered (turnRequestId : Nat) (taken : Handled) : Option Nat :=
  match route turnRequestId taken.protocol taken.message with
  | .turnStart => some turnRequestId
  | .poll request => some request.id
  | .method | .unknown => none

/-- The request of this id has been sent when a message is taken: `turn/start`, or a poll that is
outstanding. -/
def Handled.awaits (turnRequestId : Nat) (taken : Handled) (id : Nat) : Prop :=
  id = turnRequestId ∨ ∃ request ∈ taken.protocol.pollRequests, request.id = id

/-- The message asks for nothing but a tool, and is taken for the response to a request only if it
is the first that answers it. -/
def Turn.Routable (setup : Setup) (turn : Turn) (message : Dict) : Prop :=
  (isRequest setup message = true → isToolCall setup message = true) ∧
    (hasMethod message = false → bears message turn.turnRequestId = true →
      Dict.get message "id" = .int turn.turnRequestId ∧
        ∀ taken ∈ turn.handled, isResponse turn.turnRequestId taken.message = false) ∧
    ∀ request ∈ pollAnswered turn.protocol message, Dict.get message "id" = .int request.id

/-- The moves of a turn that lose no server request and mistake no message for a response. -/
def Turn.Permits (setup : Setup) (turn : Turn) : Action → Prop
  | .wakes => ∀ message ∈ readAhead turn.reader, turn.Routable setup message
  | .settles => ∀ message ∈ readAhead turn.reader, isRequest setup message = false
  | .toolCalled answer => answer = .ok ()
  | _ => True

/-- The id of the response that `_read_response` waits for. -/
def Session.awaited (session : Session) : Option Nat :=
  match session.phase with
  | .awaiting _ id _ => some id
  | .idle | .ready | .streaming _ => none

/-- The turn that is running. -/
def Session.turn? (session : Session) : Option Turn :=
  match session.phase with
  | .streaming turn => some turn
  | .idle | .ready | .awaiting _ _ _ => none

/-- The calls that lose no server request and mistake no message for a response. -/
def Session.Permits (setup : Setup) (session : Session) : Call → Prop
  | .read (.ok message) => ∀ id ∈ session.awaited, isRequest setup message = false ∧
      (bears message id = true → Dict.get message "id" = .int id)
  | .stream move => ∀ turn ∈ session.turn?, turn.Permits setup move.action
  | _ => True

instance (setup : Setup) (turn : Turn) (message : Dict) : Decidable (turn.Routable setup message) :=
  inferInstanceAs (Decidable ((_ → _) ∧ (_ → _ → _ ∧ _) ∧ _))

instance (setup : Setup) (turn : Turn) : (action : Action) → Decidable (turn.Permits setup action)
  | .wakes => inferInstanceAs (Decidable (∀ message ∈ readAhead turn.reader, _))
  | .settles => inferInstanceAs (Decidable (∀ message ∈ readAhead turn.reader, _))
  | .toolCalled answer => inferInstanceAs (Decidable (answer = .ok ()))
  | .read _ _ | .next | .close | .cancel | .readerStops | .stallResumes | .pollStops
  | .pollWakes _ | .pollSent _ => inferInstanceAs (Decidable True)

instance (setup : Setup) (session : Session) : (call : Call) →
    Decidable (session.Permits setup call)
  | .read (.ok _) => inferInstanceAs (Decidable (∀ id ∈ session.awaited, _ ∧ (_ → _)))
  | .stream _ => inferInstanceAs (Decidable (∀ turn ∈ session.turn?, _))
  | .read (.error _) | .begin _ | .readThread | .sendTurn _ _ | .streamEnds | .interrupt
  | .endTurn => inferInstanceAs (Decidable True)

/-! ### The id of a message -/

section Ids

variable {turnRequestId id : Nat} {taken : Handled} {message : Dict} {protocol : Protocol}

theorem bears_int {number : Nat} (isInt : Dict.get message "id" = .int number) :
    bears message id = decide (number = id) := by
  unfold bears
  rw [isInt]
  simp [Json.pyEq, Json.number?]

theorem isResponse_iff : isResponse id message = true ↔
    hasMethod message = false ∧ Dict.get message "id" = .int id := by
  unfold isResponse
  rw [Bool.and_eq_true_iff, decide_eq_true_iff, Bool.not_eq_true']

/-- What a message is taken as, by how it is routed. -/
theorem answered_cases (isAnswered : taken.answered turnRequestId = some id) :
    hasMethod taken.message = false ∧
      (id = turnRequestId ∧ bears taken.message turnRequestId = true ∨
        ∃ request, route turnRequestId taken.protocol taken.message = .poll request ∧
          pollAnswered taken.protocol taken.message = some request ∧ request.id = id) := by
  unfold Handled.answered at isAnswered
  unfold route at isAnswered ⊢
  split at isAnswered
  · rename_i routed
    cases isAnswered
    split at routed
    · cases routed
    · rename_i notMethod
      split at routed
      · rename_i itBears
        exact ⟨Bool.eq_false_iff.2 notMethod, Or.inl ⟨rfl, itBears⟩⟩
      · split at routed
        · cases routed
        · cases routed
  · rename_i request routed
    cases isAnswered
    split at routed
    · cases routed
    · rename_i notMethod
      split at routed
      · cases routed
      · rename_i notBears
        split at routed
        · rename_i found isFound
          cases routed
          refine ⟨Bool.eq_false_iff.2 notMethod, Or.inr ⟨request, ?_, isFound, rfl⟩⟩
          rw [if_neg notMethod, if_neg notBears]
        · cases routed
  · cases isAnswered
  · cases isAnswered

theorem pollAnswered_mem {request : PollRequest}
    (isAnswered : pollAnswered protocol message = some request) :
    request ∈ protocol.pollRequests := by
  unfold pollAnswered at isAnswered
  split at isAnswered
  · exact List.mem_of_find?_eq_some isAnswered
  · exact List.mem_of_find?_eq_some isAnswered
  · cases isAnswered

/-- What answers a request that is awaited is taken as its response. -/
theorem answered_of_isResponse
    (later : ∀ request ∈ taken.protocol.pollRequests, turnRequestId < request.id)
    (awaits : taken.awaits turnRequestId id) (response : isResponse id taken.message = true) :
    taken.answered turnRequestId = some id := by
  obtain ⟨notMethod, isInt⟩ := isResponse_iff.1 response
  have itBears := @bears_int turnRequestId taken.message id isInt
  unfold Handled.answered route
  rw [if_neg (by rw [notMethod]; exact Bool.false_ne_true)]
  rcases awaits with rfl | ⟨request, isMem, isId⟩
  · rw [if_pos (by rw [itBears]; exact decide_eq_true rfl)]
  · have less := later request isMem
    rw [isId] at less
    rw [if_neg (by rw [itBears, decide_eq_true_iff]; omega)]
    have found : ∃ other, pollAnswered taken.protocol taken.message = some other := by
      unfold pollAnswered
      rw [isInt]
      refine Option.isSome_iff_exists.1 (List.find?_isSome.2 ⟨request, isMem, ?_⟩)
      rw [isId]
      exact decide_eq_true rfl
    obtain ⟨other, isOther⟩ := found
    have sameId : other.id = id := by
      unfold pollAnswered at isOther
      rw [isInt] at isOther
      have same := List.find?_some isOther
      exact Int.ofNat_inj.1 (of_decide_eq_true same)
    rw [isOther]
    dsimp only
    rw [sameId]

end Ids

/-! ### Responses -/

namespace Turn

variable {setup : Setup} {now : ℚ} {turn other after : Turn}

/-- What holds of the messages that have been taken, whatever is done next. -/
structure Tidy (turn : Turn) : Prop where
  first : ∀ before taken rest id, turn.handled = before ++ taken :: rest →
    taken.answered turn.turnRequestId = some id →
    isResponse id taken.message = true ∧
      ∀ earlier ∈ before, earlier.awaits turn.turnRequestId id →
        isResponse id earlier.message = false
  found : ∀ taken ∈ turn.handled, ∀ id, taken.awaits turn.turnRequestId id →
    isResponse id taken.message = true → taken.answered turn.turnRequestId = some id
  least : turn.turnRequestId ≤ turn.protocol.requestId
  polls : ∀ request ∈ turn.protocol.pollRequests,
    turn.turnRequestId < request.id ∧ request.id ≤ turn.protocol.requestId
  spent : ∀ taken ∈ turn.handled, ∀ id, taken.answered turn.turnRequestId = some id →
    id ≠ turn.turnRequestId →
    id ≤ turn.protocol.requestId ∧ ∀ request ∈ turn.protocol.pollRequests, request.id ≠ id

/-- Requests may be forgotten, and ids be spent. -/
theorem Tidy.frame (tidy : turn.Tidy) (handled : other.handled = turn.handled)
    (sameId : other.turnRequestId = turn.turnRequestId)
    (requests : other.protocol.pollRequests.Sublist turn.protocol.pollRequests)
    (spends : turn.protocol.requestId ≤ other.protocol.requestId) : other.Tidy := by
  obtain ⟨first, found, least, polls, spent⟩ := tidy
  refine ⟨?_, ?_, ?_, ?_, ?_⟩
  · rw [handled, sameId]
    exact first
  · rw [handled, sameId]
    exact found
  · rw [sameId]
    exact least.trans spends
  · intro request isMem
    obtain ⟨less, le⟩ := polls request (requests.subset isMem)
    rw [sameId]
    exact ⟨less, le.trans spends⟩
  · rw [handled, sameId]
    intro taken isMem id isAnswered differs
    obtain ⟨le, others⟩ := spent taken isMem id isAnswered differs
    exact ⟨le.trans spends, fun request isMem => others request (requests.subset isMem)⟩

/-- A new request has a new id. -/
theorem Tidy.ask {sentAt : ℚ} {methods : List PollMethod} (tidy : turn.Tidy) :
    (turn.ask sentAt methods).Tidy := by
  induction methods with
  | nil => exact tidy.frame rfl rfl (List.Sublist.refl _) (le_refl _)
  | cons method rest ih =>
      unfold Turn.ask
      split
      · exact ih
      · obtain ⟨first, found, least, polls, spent⟩ := tidy
        refine ⟨first, found, Nat.le_succ_of_le least, ?_, ?_⟩
        · intro request isMem
          rcases List.mem_append.1 isMem with isOld | isNew
          · obtain ⟨less, le⟩ := polls request isOld
            exact ⟨less, Nat.le_succ_of_le le⟩
          · rw [List.mem_singleton.1 isNew]
            exact ⟨Nat.lt_succ_of_le least, le_refl _⟩
        · intro taken isMem id isAnswered differs
          obtain ⟨le, others⟩ := spent taken isMem id isAnswered differs
          refine ⟨Nat.le_succ_of_le le, fun request isMem => ?_⟩
          rcases List.mem_append.1 isMem with isOld | isNew
          · exact others request isOld
          · rw [List.mem_singleton.1 isNew]
            exact Nat.ne_of_gt (Nat.lt_succ_of_le le)

/-- The loop takes a message that is no response by mistake. -/
theorem Tidy.take {message : Dict} (tidy : turn.Tidy)
    (starts : hasMethod message = false → bears message turn.turnRequestId = true →
      Dict.get message "id" = .int turn.turnRequestId ∧
        ∀ taken ∈ turn.handled, isResponse turn.turnRequestId taken.message = false)
    (answers : ∀ request, pollAnswered turn.protocol message = some request →
      Dict.get message "id" = .int request.id)
    (handled : other.handled = turn.handled ++ [{ protocol := turn.protocol, now, message }])
    (sameId : other.turnRequestId = turn.turnRequestId)
    (protocol : other.protocol = (react setup now turn.protocol turn.turnRequestId message).1) :
    other.Tidy := by
  obtain ⟨first, found, least, polls, spent⟩ := tidy
  have health := @react_health setup now turn.protocol turn.turnRequestId message
  let taken : Handled := { protocol := turn.protocol, now, message }
  have takenFound : ∀ id, taken.awaits turn.turnRequestId id →
      isResponse id message = true → taken.answered turn.turnRequestId = some id :=
    fun id awaits response =>
      answered_of_isResponse (fun request isMem => (polls request isMem).1) awaits response
  have gone : ∀ id, taken.answered turn.turnRequestId = some id → id ≠ turn.turnRequestId →
      id ≤ turn.protocol.requestId ∧ ∀ request ∈ other.protocol.pollRequests, request.id ≠ id := by
    intro id isAnswered differs
    obtain ⟨_, ⟨isTurn, _⟩ | ⟨request, routed, isFound, rfl⟩⟩ := answered_cases isAnswered
    · exact (differs isTurn).elim
    · refine ⟨(polls request (pollAnswered_mem isFound)).2, fun other isMem => ?_⟩
      rw [protocol] at isMem
      change route turn.turnRequestId turn.protocol message = .poll request at routed
      unfold react at isMem
      rw [routed] at isMem
      have popped := (reactPoll_health request message).requests.subset isMem
      have kept := (List.mem_filter.1 popped).2
      exact of_decide_eq_true kept
  refine ⟨?_, ?_, ?_, ?_, ?_⟩
  · intro before entry rest id splits isAnswered
    rw [handled] at splits
    rw [sameId] at isAnswered ⊢
    rcases List.eq_nil_or_concat rest with rfl | ⟨rest, last, rfl⟩
    · obtain ⟨rfl, same⟩ := List.append_inj' splits.symm rfl
      obtain rfl := List.singleton_inj.1 same
      obtain ⟨notMethod, ⟨rfl, itBears⟩ | ⟨request, _, isFound, rfl⟩⟩ := answered_cases isAnswered
      · obtain ⟨isInt, none⟩ := starts notMethod itBears
        exact ⟨isResponse_iff.2 ⟨notMethod, isInt⟩, fun earlier isMem _ => none earlier isMem⟩
      · refine ⟨isResponse_iff.2 ⟨notMethod, answers request isFound⟩, ?_⟩
        intro earlier isMem awaits
        have isPoll := pollAnswered_mem isFound
        have differs : request.id ≠ turn.turnRequestId := Nat.ne_of_gt (polls request isPoll).1
        by_contra isEarlier
        have wasAnswered := found earlier isMem request.id awaits
          (Bool.not_eq_false _ |>.mp isEarlier)
        exact (spent earlier isMem request.id wasAnswered differs).2 request isPoll rfl
    · have splits' : turn.handled ++ [taken] = (before ++ entry :: rest) ++ [last] := by
        rw [splits]
        simp only [List.concat_eq_append, List.append_assoc, List.cons_append]
      obtain ⟨sameHandled, _⟩ := List.append_inj' splits' rfl
      exact first before entry rest id sameHandled isAnswered
  · intro entry isMem id awaits response
    rw [handled] at isMem
    rw [sameId] at awaits ⊢
    rcases List.mem_append.1 isMem with isOld | isNew
    · exact found entry isOld id awaits response
    · obtain rfl := List.mem_singleton.1 isNew
      exact takenFound id awaits response
  · rw [sameId, protocol, health.requestId]
    exact least
  · intro request isMem
    rw [protocol] at isMem
    rw [sameId, protocol, health.requestId]
    exact polls request (health.requests.subset isMem)
  · intro entry isMem id isAnswered differs
    rw [handled] at isMem
    rw [sameId] at isAnswered differs
    have sameRequestId : other.protocol.requestId = turn.protocol.requestId := by
      rw [protocol]
      exact health.requestId
    rw [sameRequestId]
    rcases List.mem_append.1 isMem with isOld | isNew
    · obtain ⟨le, others⟩ := spent entry isOld id isAnswered differs
      refine ⟨le, fun request isMem => others request ?_⟩
      rw [protocol] at isMem
      exact health.requests.subset isMem
    · obtain rfl := List.mem_singleton.1 isNew
      exact gone id isAnswered differs

/-! ### Server requests -/

/-- The tool call that is being answered. -/
def calling (turn : Turn) : List Json :=
  match turn.stage with
  | .calling message _ => [Dict.get message "id"]
  | .waiting | .yielding _ _ | .stalling | .closing _ | .stopping _ | .ended _ => []

/-- The cleanup has discarded what the reader has read. -/
def discards (turn : Turn) : Bool :=
  match turn.stage with
  | .stopping _ | .ended _ => true
  | .waiting | .calling _ _ | .yielding _ _ | .stalling | .closing _ => false

/-- The requests among messages, by their ids. -/
def requests (setup : Setup) (messages : List Dict) : List Json :=
  (messages.filter (isRequest setup)).map fun message => Dict.get message "id"

/-- What holds of the server requests, whatever is done next. -/
structure Serves (setup : Setup) (turn : Turn) : Prop where
  served : requests setup (turn.handled.map Handled.message) = turn.answers ++ turn.calling
  kept : turn.discards = true → requests setup (readAhead turn.reader) = []

/-- The generator goes on, or is left, between two messages. -/
structure Continues (turn other : Turn) : Prop where
  handled : other.handled = turn.handled
  sameId : other.turnRequestId = turn.turnRequestId
  polls : other.protocol.pollRequests = turn.protocol.pollRequests
  requestId : other.protocol.requestId = turn.protocol.requestId
  answers : other.answers = turn.answers
  calling : other.calling = []
  keeps : other.discards = false

theorem yields_continues (next : Emit) (rest : List Emit) (course : Course) :
    turn.Continues (turn.yields now next rest course) := by
  cases next with
  | event event => exact ⟨rfl, rfl, rfl, rfl, rfl, rfl, rfl⟩
  | stalled => exact ⟨rfl, rfl, rfl, rfl, rfl, rfl, rfl⟩

theorem leave_continues (why : Leave) : turn.Continues (turn.leave why) :=
  ⟨rfl, rfl, rfl, rfl, rfl, rfl, rfl⟩

theorem proceed_continues (rest : List Emit) (course : Course) :
    turn.Continues (turn.proceed now rest course) := by
  cases rest with
  | cons next rest => exact yields_continues next rest course
  | nil =>
      cases course with
      | goesOn => exact ⟨rfl, rfl, rfl, rfl, rfl, rfl, rfl⟩
      | leaves => exact leave_continues .finished

theorem Continues.tidy (continues : turn.Continues other) (tidy : turn.Tidy) : other.Tidy := by
  refine tidy.frame continues.handled continues.sameId ?_ ?_
  · rw [continues.polls]
  · rw [continues.requestId]

theorem Continues.serves (continues : turn.Continues other)
    (served : requests setup (turn.handled.map Handled.message) = turn.answers) :
    other.Serves setup := by
  refine ⟨?_, fun discards => ?_⟩
  · rw [continues.handled, continues.answers, continues.calling, List.append_nil]
    exact served
  · rw [continues.keeps] at discards
    cases discards

/-- Where no tool is being called, every request has been answered. -/
theorem Serves.idle (serves : turn.Serves setup) (idle : turn.calling = []) :
    requests setup (turn.handled.map Handled.message) = turn.answers := by
  rw [serves.served, idle, List.append_nil]

theorem requests_append (messages more : List Dict) :
    requests setup (messages ++ more) = requests setup messages ++ requests setup more := by
  unfold requests
  rw [List.filter_append, List.map_append]

theorem requests_cons_pos {message : Dict} (isAsked : isRequest setup message = true) :
    requests setup [message] = [Dict.get message "id"] := by
  unfold requests
  rw [List.filter_cons_of_pos isAsked]
  rfl

theorem requests_cons_neg {message : Dict} (notAsked : isRequest setup message = false) :
    requests setup [message] = [] := by
  unfold requests
  rw [List.filter_cons_of_neg (by rw [notAsked]; exact Bool.false_ne_true)]
  rfl

theorem take_serves {message : Dict} (serves : turn.Serves setup) (waits : turn.stage = .waiting)
    (calls : isRequest setup message = true → isToolCall setup message = true) :
    (turn.take setup now message).Serves setup := by
  have idle : turn.calling = [] := by
    unfold calling
    rw [waits]
  have served := serves.idle idle
  let taken : Turn :=
    { turn with
      protocol := (react setup now turn.protocol turn.turnRequestId message).1
      reader := .reading
      handled := turn.handled ++ [{ protocol := turn.protocol, now, message }] }
  have splits : requests setup (taken.handled.map Handled.message) =
      turn.answers ++ requests setup [message] := by
    change requests setup ((turn.handled ++ [_]).map Handled.message) = _
    rw [List.map_append, requests_append, served]
    rfl
  unfold take
  dsimp only
  cases isCall : isToolCall setup message with
  | true =>
      rw [react_toolCall isCall]
      have isAsked : isRequest setup message = true := by
        unfold isRequest
        rw [isCall, Bool.or_true]
      rw [requests_cons_pos isAsked] at splits
      refine ⟨splits, fun impossible => ?_⟩
      cases impossible
  | false =>
      have notAsked : isRequest setup message = false := by
        refine Bool.eq_false_iff.2 fun isAsked => ?_
        rw [calls isAsked] at isCall
        cases isCall
      rw [requests_cons_neg notAsked, List.append_nil] at splits
      split
      · exact (@leave_continues taken _).serves splits
      · rename_i reaction reacted
        rw [react_calls isCall reacted, if_neg Bool.false_ne_true]
        exact (@proceed_continues now taken _ _).serves splits

theorem take_tidy {message : Dict} (tidy : turn.Tidy)
    (starts : hasMethod message = false → bears message turn.turnRequestId = true →
      Dict.get message "id" = .int turn.turnRequestId ∧
        ∀ taken ∈ turn.handled, isResponse turn.turnRequestId taken.message = false)
    (answers : ∀ request, pollAnswered turn.protocol message = some request →
      Dict.get message "id" = .int request.id) : (turn.take setup now message).Tidy := by
  let taken : Turn :=
    { turn with
      protocol := (react setup now turn.protocol turn.turnRequestId message).1
      reader := .reading
      handled := turn.handled ++ [{ protocol := turn.protocol, now, message }] }
  have takenTidy : taken.Tidy := tidy.take starts answers rfl rfl rfl
  unfold take
  dsimp only
  split
  · exact (@leave_continues taken _).tidy takenTidy
  · split
    · exact takenTidy.frame rfl rfl (List.Sublist.refl _) (le_refl _)
    · exact (@proceed_continues now taken _ _).tidy takenTidy

/-! ### Every step of a turn -/

/-- The fields that the poll task changes are none that server requests depend on. -/
theorem Serves.ask {sentAt : ℚ} {methods : List PollMethod} (serves : turn.Serves setup) :
    (turn.ask sentAt methods).Serves setup := by
  obtain ⟨protocol, poll, asked⟩ := ask_eq turn sentAt methods
  rw [asked]
  exact ⟨serves.served, serves.kept⟩

theorem tidy_step {action : Action} (tidy : turn.Tidy) (permitted : turn.Permits setup action)
    (does : turn.Does setup now action after) : after.Tidy := by
  cases does with
  | reads message behind isReading inFront =>
      exact tidy.frame rfl rfl (List.Sublist.refl _) (le_refl _)
  | fails error behind isReading inFront =>
      exact tidy.frame rfl rfl (List.Sublist.refl _) (le_refl _)
  | takes message waits isRead =>
      obtain ⟨_, starts, answers⟩ :=
        permitted message (by rw [isRead]; exact List.mem_singleton_self message)
      exact take_tidy tidy starts answers
  | breaks error waits isFailed =>
      have broken : ({ turn with ending := some (.failure error) } : Turn).Tidy :=
        tidy.frame rfl rfl (List.Sublist.refl _) (le_refl _)
      exact (yields_continues _ _ _).tidy broken
  | stalls waits isReading noLine isFailed =>
      exact tidy.frame rfl rfl (List.Sublist.refl _) (le_refl _)
  | answers message rest calls =>
      have answered : ({ turn with
          answers := turn.answers ++ [Dict.get message "id"] } : Turn).Tidy :=
        tidy.frame rfl rfl (List.Sublist.refl _) (le_refl _)
      exact (proceed_continues _ _).tidy answered
  | refuses message rest fault calls => exact (leave_continues _).tidy tidy
  | next rest course yields => exact (proceed_continues _ _).tidy tidy
  | closes rest course yields => exact (leave_continues _).tidy tidy
  | cancels waits => exact (leave_continues _).tidy tidy
  | readerStops isCancelling => exact tidy.frame rfl rfl (List.Sublist.refl _) (le_refl _)
  | stallResumes stalls isCancelled => exact (yields_continues _ _ _).tidy tidy
  | raises why error closes isFailed => exact tidy.frame rfl rfl (List.Sublist.refl _) (le_refl _)
  | settles why closes isDone notFailed =>
      exact tidy.frame rfl rfl (List.Sublist.refl _) (le_refl _)
  | ends why cancelling stops => exact tidy.frame rfl rfl (List.nil_sublist _) (le_refl _)
  | rests hasProcess sleeping => exact tidy
  | polls hasProcess sleeping =>
      have health := @expire_health setup now turn
      have expired : ({ turn with protocol := turn.expire setup now } : Turn).Tidy :=
        tidy.frame rfl rfl health.requests (le_of_eq health.requestId.symm)
      exact expired.ask
  | sent request rest sending => exact tidy.ask
  | unsent request rest error sending =>
      have marked : ({ turn with
          protocol := (turn.protocol.pop request.id).failure setup now request.method.name
            error.text } : Turn).Tidy :=
        tidy.frame rfl rfl List.filter_sublist (le_refl _)
      exact marked.ask

theorem serves_step {action : Action} (serves : turn.Serves setup) (flows : turn.Flows setup)
    (permitted : turn.Permits setup action) (does : turn.Does setup now action after) :
    after.Serves setup := by
  have fits := flows.fits
  unfold Fits at fits
  -- The cleanup waits for the reader.
  have stillReads : turn.reader = .reading → turn.discards = false := by
    intro isReading
    unfold discards
    split
    · rename_i stops
      rw [stops] at fits
      rw [isReading] at fits
      cases fits.2.1
    · rename_i ends
      rw [ends] at fits
      rcases fits with ⟨⟨error, isFailed⟩, _⟩ | ⟨_, isDone, _⟩
      · rw [isReading] at isFailed
        cases isFailed
      · rw [isReading] at isDone
        cases isDone
    all_goals rfl
  obtain ⟨served, kept⟩ := serves
  have idleOf : turn.calling = [] →
      requests setup (turn.handled.map Handled.message) = turn.answers := fun idle => by
    rw [served, idle, List.append_nil]
  cases does with
  | reads message behind isReading inFront =>
      refine ⟨served, fun discards => ?_⟩
      have keeps := stillReads isReading
      change turn.discards = true at discards
      rw [keeps] at discards
      cases discards
  | fails error behind isReading inFront => exact ⟨served, fun _ => rfl⟩
  | takes message waits isRead =>
      exact take_serves ⟨served, kept⟩ waits
        (permitted message (by rw [isRead]; exact List.mem_singleton_self message)).1
  | breaks error waits isFailed =>
      refine (@yields_continues now { turn with ending := some (.failure error) } _ _ _).serves ?_
      exact idleOf (by unfold calling; rw [waits])
  | stalls waits isReading noLine isFailed =>
      refine ⟨?_, fun impossible => ?_⟩
      · change _ = turn.answers ++ []
        rw [List.append_nil]
        exact idleOf (by unfold calling; rw [waits])
      · cases impossible
  | answers message rest calls =>
      refine (@proceed_continues now
        { turn with answers := turn.answers ++ [Dict.get message "id"] } _ _).serves ?_
      change requests setup (turn.handled.map Handled.message) = _
      rw [served]
      unfold calling
      rw [calls]
  | refuses message rest fault calls => cases permitted
  | next rest course yields =>
      exact (proceed_continues _ _).serves (idleOf (by unfold calling; rw [yields]))
  | closes rest course yields =>
      exact (leave_continues _).serves (idleOf (by unfold calling; rw [yields]))
  | cancels waits => exact (leave_continues _).serves (idleOf (by unfold calling; rw [waits]))
  | readerStops isCancelling => exact ⟨served, fun _ => rfl⟩
  | stallResumes stalls isCancelled =>
      exact (yields_continues _ _ _).serves (idleOf (by unfold calling; rw [stalls]))
  | raises why error closes isFailed =>
      refine ⟨?_, fun _ => ?_⟩
      · change _ = turn.answers ++ []
        rw [List.append_nil]
        exact idleOf (by unfold calling; rw [closes])
      · change requests setup (readAhead turn.reader) = []
        rw [isFailed]
        rfl
  | settles why closes isDone notFailed =>
      refine ⟨?_, fun _ => ?_⟩
      · change _ = turn.answers ++ []
        rw [List.append_nil]
        exact idleOf (by unfold calling; rw [closes])
      · change requests setup (readAhead turn.reader) = []
        cases isRead : turn.reader with
        | message message =>
            refine requests_cons_neg (permitted message ?_)
            rw [isRead]
            exact List.mem_singleton_self message
        | reading => rfl
        | failed error => rfl
        | cancelling => rfl
        | cancelled => rfl
  | ends why cancelling stops =>
      refine ⟨?_, fun _ => kept (by unfold discards; rw [stops])⟩
      change _ = turn.answers ++ []
      rw [List.append_nil]
      exact idleOf (by unfold calling; rw [stops])
  | rests hasProcess sleeping => exact ⟨served, kept⟩
  | polls hasProcess sleeping => exact Serves.ask ⟨served, kept⟩
  | sent request rest sending => exact Serves.ask ⟨served, kept⟩
  | unsent request rest error sending => exact Serves.ask ⟨served, kept⟩

end Turn

/-! ### Every run of a session -/

namespace Session

variable {setup : Setup} {session after : Session}

/-- What the current turn keeps to. -/
structure TurnOf (setup : Setup) (turn : Turn) : Prop where
  flows : turn.Flows setup
  tidy : turn.Tidy
  serves : turn.Serves setup

theorem TurnOf.start (now : ℚ) (threadId : Option String) (turnRequestId : Nat)
    (readBuffer : List (Except Exc Dict)) :
    TurnOf setup (CodexTurn.start now threadId turnRequestId readBuffer) := by
  refine ⟨Turn.flows_start now threadId turnRequestId readBuffer, ⟨?_, ?_, le_refl _, ?_, ?_⟩,
    ⟨rfl, ?_⟩⟩
  · intro before taken rest id splits
    cases before with
    | nil => cases splits
    | cons earlier before => cases splits
  · intro taken isMem
    cases isMem
  · intro request isMem
    cases isMem
  · intro taken isMem
    cases isMem
  · intro impossible
    cases impossible

theorem TurnOf.step {turn later : Turn} {move : Move} (holds : TurnOf setup turn)
    (permitted : turn.Permits setup move.action) (goes : move.step setup turn = some later) :
    TurnOf setup later := by
  obtain ⟨_, done, does, rfl⟩ := Move.does goes
  obtain ⟨read, shown, fits⟩ := holds.flows.step does
  have tidy := Turn.tidy_step holds.tidy permitted does
  have serves := Turn.serves_step holds.serves holds.flows permitted does
  exact ⟨⟨read, shown, fits⟩, tidy.frame rfl rfl (List.Sublist.refl _) (le_refl _),
    ⟨serves.served, serves.kept⟩⟩

/-- An id that nothing waits for is spent. -/
theorem TurnOf.spends {turn : Turn} (holds : TurnOf setup turn) :
    TurnOf setup { turn with
      protocol := { turn.protocol with requestId := turn.protocol.requestId + 1 } } := by
  obtain ⟨⟨read, shown, fits⟩, tidy, served, kept⟩ := holds
  exact ⟨⟨read, shown, fits⟩, tidy.frame rfl rfl (List.Sublist.refl _) (Nat.le_succ _),
    ⟨served, kept⟩⟩

/-- The response is the first message that answers the request, and no server request came
before. -/
def Takes (setup : Setup) (taken : Answered) : Prop :=
  taken.read.find? (isResponse taken.id) = some taken.response ∧
    ∀ message ∈ taken.read, isRequest setup message = false

/-- None of the messages answers the request, and none is a server request. -/
def Waits (setup : Setup) (id : Nat) (read : List Dict) : Prop :=
  ∀ message ∈ read, isResponse id message = false ∧ isRequest setup message = false

/-- What holds in every state of every run. -/
structure Keeps (setup : Setup) (session : Session) : Prop where
  taken : ∀ taken ∈ session.answered, Takes setup taken
  waits : ∀ purpose id read, session.phase = .awaiting purpose id read → Waits setup id read
  stream : ∀ turn, session.phase = .streaming turn → TurnOf setup turn

end Session

/-- The provider before its first turn. -/
def fresh : Session where
  requestId := 0
  threadId := ""
  phase := .idle
  answered := []
  outcome := none

end CodexTurn

end Loom
