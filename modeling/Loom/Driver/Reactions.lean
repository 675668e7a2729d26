import Loom.Driver.CodexTurn
import Mathlib.Algebra.Order.Field.Rat
import Mathlib.Tactic.Linarith

/-!
# What a message does

Which events the loop of a turn makes of a message, when it calls a tool, and what the message does
to the health of the protocol and to the polls that are outstanding.
-/

namespace Loom

namespace CodexTurn

/-! ### Events -/

/-- A notification, a server request, or a response without an error to `turn/start` or a poll. -/
def Handled.isHeartbeat (turnRequestId : Nat) (taken : Handled) : Bool :=
  match route turnRequestId taken.protocol taken.message with
  | .method => true
  | .turnStart | .poll _ => !Dict.has taken.message "error"
  | .unknown => false

/-- The event is none of a stall. -/
def Plain (next : Emit) : Prop := ∃ event, next = .event event ∧ event.kind ≠ "agent_stalled"

theorem plain_emit {kind : String} {payload : Dict} (differs : kind ≠ "agent_stalled") :
    Plain (emit kind payload) :=
  ⟨_, rfl, differs⟩

/-- The reaction calls no tool, and none of its events is a stall. -/
structure Reaction.Quiet (reaction : Reaction) : Prop where
  calls : reaction.calls = false
  plain : ∀ next ∈ reaction.emits, Plain next

/-- The message is a call of a tool. -/
def isToolCall (setup : Setup) (message : Dict) : Bool :=
  hasMethod message && setup.str (Dict.get message "method") = "item/tool/call"

/-- A protocol that differs in the current turn at most. -/
def Noted (before after : Protocol) : Prop := ∃ turn, after = before.setTurn turn

theorem Noted.refl (protocol : Protocol) : Noted protocol protocol := ⟨protocol.currentTurnId, rfl⟩

section Reactions

variable {setup : Setup} {now : ℚ} {protocol : Protocol} {reaction : Reaction}

theorem reactTurnStart_noted (message : Dict) :
    Noted (if Dict.has message "error" then protocol else protocol.heartbeat now)
      (reactTurnStart setup now protocol message).1 := by
  unfold reactTurnStart
  split
  · exact .refl protocol
  · dsimp only
    split
    · split
      · split
        · exact ⟨_, rfl⟩
        · exact .refl _
      · dsimp only
        split
        · exact ⟨_, rfl⟩
        · exact .refl _
    · exact .refl _

theorem reactTurnStart_quiet (message : Dict) :
    (reactTurnStart setup now protocol message).2.Quiet := by
  have single : ∀ {next : Emit} {payload : Dict}, next ∈ [emit "agent_error" payload] →
      Plain next := by
    intro next payload isMem
    rw [List.mem_singleton.1 isMem]
    exact plain_emit (by decide)
  unfold reactTurnStart
  split
  · exact ⟨rfl, fun next isMem => single isMem⟩
  · dsimp only
    split
    · split
      · exact ⟨rfl, fun next isMem => single isMem⟩
      · exact ⟨rfl, fun next isMem => nomatch isMem⟩
    · exact ⟨rfl, fun next isMem => nomatch isMem⟩

theorem reactThreadRead_noted (result : Json) :
    Noted protocol (reactThreadRead setup protocol result).1 := by
  unfold reactThreadRead
  split
  · exact .refl protocol
  · rename_i status _
    have known : Noted protocol
        (if (status.turnId.getD "") ≠ "" then protocol.setTurn status.turnId else protocol) := by
      split
      · exact ⟨_, rfl⟩
      · exact .refl protocol
    dsimp only
    split
    · exact known
    · split
      · exact known
      · split
        · exact known
        · exact known

theorem reactThreadRead_quiet {result : Json}
    (goes : (reactThreadRead setup protocol result).2 = .ok reaction) :
    reaction.Quiet := by
  have pair : ∀ {next : Emit} {shown failed : Dict},
      next ∈ [emit "thread_status" shown, emit "agent_error" failed] → Plain next := by
    intro next shown failed isMem
    rcases List.mem_cons.1 isMem with rfl | isMem
    · exact plain_emit (by decide)
    · rw [List.mem_singleton.1 isMem]
      exact plain_emit (by decide)
  unfold reactThreadRead at goes
  split at goes
  · cases goes
  · dsimp only at goes
    split at goes
    · cases goes
      refine ⟨rfl, fun next isMem => ?_⟩
      exact pair isMem
    · split at goes
      · cases goes
        refine ⟨rfl, fun next isMem => ?_⟩
        exact pair isMem
      · split at goes
        · cases goes
          refine ⟨rfl, fun next isMem => ?_⟩
          exact pair isMem
        · cases goes
          refine ⟨rfl, fun next isMem => ?_⟩
          rw [List.mem_singleton.1 isMem]
          exact plain_emit (by decide)

theorem reactGoalGet_quiet {result : Json} (goes : reactGoalGet result = .ok reaction) :
    reaction.Quiet := by
  unfold reactGoalGet at goes
  cases code : goalCode (field (field result "goal") "status") with
  | error error =>
      rw [code] at goes
      cases goes
  | ok found =>
      rw [code] at goes
      cases found with
      | none =>
          cases goes
          refine ⟨rfl, fun next isMem => ?_⟩
          cases isMem
      | some named =>
          cases goes
          refine ⟨rfl, fun next isMem => ?_⟩
          rw [List.mem_singleton.1 isMem]
          exact plain_emit (by decide)

theorem noteTurn_noted (params turn : Json) :
    Noted protocol (noteTurn setup protocol params turn) := by
  unfold noteTurn
  split
  · exact .refl protocol
  · exact ⟨_, rfl⟩

theorem reactCompleted_noted (params : Json) :
    Noted protocol (reactCompleted setup protocol params).1 := by
  unfold reactCompleted
  split
  · exact .refl protocol
  · exact noteTurn_noted params _

theorem reactCompleted_quiet {params : Json}
    (goes : (reactCompleted setup protocol params).2 = .ok reaction) :
    reaction.Quiet := by
  unfold reactCompleted at goes
  split at goes
  · cases goes
  · dsimp only at goes
    cases goes
    refine ⟨rfl, fun next isMem => ?_⟩
    rcases List.mem_append.1 isMem with isMem | isMem
    · split at isMem
      · rw [List.mem_singleton.1 isMem]
        exact plain_emit (by decide)
      · split at isMem
        · rw [List.mem_singleton.1 isMem]
          exact plain_emit (by decide)
        · cases isMem
    · split at isMem
      · rw [List.mem_singleton.1 isMem]
        exact plain_emit (by decide)
      · cases isMem

theorem reactStarted_noted (params : Json) :
    Noted protocol (reactStarted setup protocol params).1 := by
  unfold reactStarted
  split
  · exact .refl protocol
  · dsimp only
    split
    · exact noteTurn_noted params _
    · exact noteTurn_noted params _

theorem reactStarted_quiet {params : Json}
    (goes : (reactStarted setup protocol params).2 = .ok reaction) :
    reaction.Quiet := by
  unfold reactStarted at goes
  split at goes
  · cases goes
  · dsimp only at goes
    split at goes
    · cases goes
      refine ⟨rfl, fun next isMem => ?_⟩
      rcases List.mem_cons.1 isMem with rfl | isMem
      · exact plain_emit (by decide)
      · rw [List.mem_singleton.1 isMem]
        exact plain_emit (by decide)
    · cases goes
      refine ⟨rfl, fun next isMem => ?_⟩
      rw [List.mem_singleton.1 isMem]
      exact plain_emit (by decide)

theorem reactStatusChanged_quiet {params : Json}
    (goes : reactStatusChanged setup protocol params = .ok reaction) :
    reaction.Quiet := by
  unfold reactStatusChanged at goes
  cases status : getOf params "status" with
  | error error =>
      rw [status] at goes
      cases goes
  | ok value =>
      rw [status] at goes
      change (statusPayload setup value >>= _) = _ at goes
      cases payload : statusPayload setup value with
      | error error =>
          rw [payload] at goes
          cases goes
      | ok named =>
          rw [payload] at goes
          change (if named.1 = "systemError" then _ else _) = _ at goes
          split at goes
          · cases goes
            refine ⟨rfl, fun next isMem => ?_⟩
            rcases List.mem_cons.1 isMem with rfl | isMem
            · exact plain_emit (by decide)
            · rw [List.mem_singleton.1 isMem]
              exact plain_emit (by decide)
          · cases goes
            refine ⟨rfl, fun next isMem => ?_⟩
            rw [List.mem_singleton.1 isMem]
            exact plain_emit (by decide)

theorem reactGoalUpdated_quiet {params : Json}
    (goes : reactGoalUpdated protocol params = .ok reaction) :
    reaction.Quiet := by
  unfold reactGoalUpdated at goes
  cases code : goalCode (field (goalOf params) "status") with
  | error error =>
      rw [code] at goes
      cases goes
  | ok found =>
      rw [code] at goes
      cases found with
      | some named =>
          cases goes
          refine ⟨rfl, fun next isMem => ?_⟩
          rw [List.mem_singleton.1 isMem]
          exact plain_emit (by decide)
      | none =>
          have plain : ∀ {payload : Dict}, ∀ next ∈ [emit "goal_status" payload], Plain next := by
            intro payload next isMem
            rw [List.mem_singleton.1 isMem]
            exact plain_emit (by decide)
          cases goal : goalOf params with
          | obj entries =>
              rw [goal] at goes
              cases goes
              exact ⟨rfl, plain⟩
          | null =>
              rw [goal] at goes
              cases goes
              exact ⟨rfl, plain⟩
          | bool flag =>
              rw [goal] at goes
              cases goes
              exact ⟨rfl, plain⟩
          | int number =>
              rw [goal] at goes
              cases goes
              exact ⟨rfl, plain⟩
          | float number =>
              rw [goal] at goes
              cases goes
              exact ⟨rfl, plain⟩
          | str text =>
              rw [goal] at goes
              cases goes
              exact ⟨rfl, plain⟩
          | arr items =>
              rw [goal] at goes
              cases goes
              exact ⟨rfl, plain⟩

theorem reactError_quiet {params : Json} (goes : reactError setup params = .ok reaction) :
    reaction.Quiet := by
  unfold reactError at goes
  cases error : getOf params "error" with
  | error exception =>
      rw [error] at goes
      cases goes
  | ok value =>
      rw [error] at goes
      cases goes
      refine ⟨rfl, fun next isMem => ?_⟩
      rw [List.mem_singleton.1 isMem]
      refine plain_emit ?_
      split
      · decide
      · decide

theorem reactWarning_quiet (method : String) (params : Json) :
    (reactWarning setup method params).Quiet := by
  unfold reactWarning
  split
  · refine ⟨rfl, fun next isMem => ?_⟩
    rw [List.mem_singleton.1 isMem]
    exact plain_emit (by decide)
  · refine ⟨rfl, fun next isMem => ?_⟩
    rw [List.mem_singleton.1 isMem]
    exact plain_emit (by decide)

theorem reactItemCompleted_quiet {params : Json} (goes : reactItemCompleted params = .ok reaction) :
    reaction.Quiet := by
  unfold reactItemCompleted at goes
  cases item : getOr params "item" (.obj []) with
  | error error =>
      rw [item] at goes
      cases goes
  | ok value =>
      rw [item] at goes
      change (getOf value "type" >>= _) = _ at goes
      cases type : getOf value "type" with
      | error error =>
          rw [type] at goes
          cases goes
      | ok kind =>
          rw [type] at goes
          change (if kind = .str "agentMessage" ∧ _ then _ else _) = _ at goes
          split at goes
          · cases goes
            refine ⟨rfl, fun next isMem => ?_⟩
            rw [List.mem_singleton.1 isMem]
            exact plain_emit (by decide)
          · cases goes
            refine ⟨rfl, fun next isMem => ?_⟩
            cases isMem

theorem Noted.ite {test : Prop} [Decidable test] {one other : Protocol × Except Exc Reaction}
    (isOne : Noted protocol one.1) (isOther : Noted protocol other.1) :
    Noted protocol (if test then one else other).1 := by
  by_cases holds : test
  · rw [if_pos holds]
    exact isOne
  · rw [if_neg holds]
    exact isOther

theorem reactMethod_noted (method : String) (params : Json) :
    Noted protocol (reactMethod setup protocol method params).1 := by
  unfold reactMethod
  refine .ite (.refl _) (.ite (reactCompleted_noted params) (.ite (reactStarted_noted params) ?_))
  refine .ite (.refl _) (.ite (.refl _) (.ite (.refl _) (.ite (.refl _) (.ite (.refl _) ?_))))
  exact .ite (.refl _) (.ite (.refl _) (.ite (.refl _) (.refl _)))

/-- What holds of both branches holds of what a test chooses. -/
theorem quiet_ite {test : Prop} [Decidable test] {one other : Protocol × Except Exc Reaction}
    (isOne : test → one.2 = .ok reaction → reaction.Quiet)
    (isOther : ¬test → other.2 = .ok reaction → reaction.Quiet)
    (goes : (if test then one else other).2 = .ok reaction) : reaction.Quiet := by
  by_cases holds : test
  · rw [if_pos holds] at goes
    exact isOne holds goes
  · rw [if_neg holds] at goes
    exact isOther holds goes

theorem reactMethod_quiet {method : String} {params : Json} (notCall : method ≠ "item/tool/call")
    (goes : (reactMethod setup protocol method params).2 = .ok reaction) :
    reaction.Quiet := by
  -- The method itself is the kind of the event.
  have own : ∀ {start : String}, startsWith method start = true →
      startsWith "agent_stalled" start = false →
      ∀ next ∈ [Emit.event ⟨method, params⟩], Plain next := by
    intro start starts other next isMem
    rw [List.mem_singleton.1 isMem]
    refine ⟨_, rfl, ?_⟩
    rintro rfl
    rw [starts] at other
    cases other
  unfold reactMethod at goes
  rw [if_neg notCall] at goes
  revert goes
  refine quiet_ite (fun _ => reactCompleted_quiet) fun _ => ?_
  refine quiet_ite (fun _ => reactStarted_quiet) fun _ => ?_
  refine quiet_ite (fun _ => reactStatusChanged_quiet) fun _ => ?_
  refine quiet_ite (fun _ => reactGoalUpdated_quiet) fun _ => ?_
  refine quiet_ite (fun _ => reactError_quiet) fun _ => ?_
  refine quiet_ite (fun _ goes => ?_) fun _ => ?_
  · cases goes
    exact reactWarning_quiet method params
  refine quiet_ite (fun _ goes => ?_) fun _ => ?_
  · cases goes
    refine ⟨rfl, fun next isMem => ?_⟩
    rw [List.mem_singleton.1 isMem]
    exact plain_emit (by decide)
  refine quiet_ite (fun starts goes => ?_) fun _ => ?_
  · cases goes
    exact ⟨rfl, own starts (by decide)⟩
  refine quiet_ite (fun _ => reactItemCompleted_quiet) fun _ => ?_
  refine quiet_ite (fun starts goes => ?_) fun _ goes => ?_
  · cases goes
    rcases Bool.or_eq_true_iff.1 starts with starts | starts
    · exact ⟨rfl, own starts (by decide)⟩
    · exact ⟨rfl, own starts (by decide)⟩
  · cases goes
    refine ⟨rfl, fun next isMem => ?_⟩
    cases isMem

end Reactions

/-! ### The health of the protocol -/

/-- The protocol has been silent for as long as it may be. -/
def Protocol.Silent (setup : Setup) (now : ℚ) (protocol : Protocol) : Prop :=
  max 0 setup.protocolFailureSeconds ≤ now - protocol.lastProtocolHeartbeatAt

/-- The record of failures is one of a silence. -/
structure Protocol.Sound (setup : Setup) (now : ℚ) (protocol : Protocol) : Prop where
  past : protocol.lastProtocolHeartbeatAt ≤ now
  started : ∀ startedAt, protocol.pollFailureStartedAt = some startedAt →
    protocol.lastProtocolHeartbeatAt ≤ startedAt
  event : protocol.protocolFailureEvent = true → protocol.Silent setup now

namespace Protocol

variable {setup : Setup} {now : ℚ} {protocol : Protocol}

theorem Silent.later {later : ℚ} (silent : protocol.Silent setup now) (le : now ≤ later) :
    protocol.Silent setup later := by
  unfold Silent at silent ⊢
  linarith

theorem Sound.later {later : ℚ} (sound : protocol.Sound setup now) (le : now ≤ later) :
    protocol.Sound setup later :=
  ⟨sound.past.trans le, sound.started, fun isSet => (sound.event isSet).later le⟩

theorem Sound.heartbeat (unreported : protocol.protocolFailureReported = false) :
    (protocol.heartbeat now).Sound setup now := by
  unfold Protocol.heartbeat
  rw [unreported]
  refine ⟨le_refl now, ?_, ?_⟩
  · intro startedAt isStarted
    cases isStarted
  · intro isSet
    cases isSet

/-- A failure that is old enough is as old as the silence at most. -/
theorem Sound.silent (sound : protocol.Sound setup now)
    (hasFailed : protocol.isFailed setup now = true)
    (hasStarted : protocol.pollFailureStartedAt.isSome = true) : protocol.Silent setup now := by
  obtain ⟨startedAt, isStarted⟩ := Option.isSome_iff_exists.1 hasStarted
  have after := sound.started startedAt isStarted
  unfold isFailed at hasFailed
  rw [isStarted, Option.getD_some, decide_eq_true_iff] at hasFailed
  unfold Silent
  linarith

theorem Sound.failure {source message : String} (sound : protocol.Sound setup now) :
    (protocol.failure setup now source message).Sound setup now := by
  have started : ∀ startedAt, some (protocol.pollFailureStartedAt.getD now) = some startedAt →
      protocol.lastProtocolHeartbeatAt ≤ startedAt := by
    rintro startedAt isStarted
    obtain rfl := Option.some.inj isStarted
    cases known : protocol.pollFailureStartedAt with
    | none => exact sound.past
    | some earlier => exact sound.started earlier known
  refine ⟨sound.past, started, ?_⟩
  intro isSet
  rcases Bool.or_eq_true_iff.1 isSet with isSet | hasFailed
  · exact sound.event isSet
  · have old := (Bool.and_eq_true_iff.1 hasFailed).1
    have after := started _ rfl
    unfold isFailed at old
    rw [decide_eq_true_iff] at old
    change max 0 setup.protocolFailureSeconds ≤ now - protocol.lastProtocolHeartbeatAt
    linarith

theorem Sound.pop {id : Nat} (sound : protocol.Sound setup now) :
    (protocol.pop id).Sound setup now :=
  ⟨sound.past, sound.started, sound.event⟩

theorem Sound.setTurn {currentTurn : Option String} (sound : protocol.Sound setup now) :
    (protocol.setTurn currentTurn).Sound setup now :=
  ⟨sound.past, sound.started, sound.event⟩

end Protocol

/-! ### What the loop makes of a message -/

/-- What a message does to the health of the protocol. -/
structure Health (setup : Setup) (now : ℚ) (isHeartbeat : Bool) (before after : Protocol) :
    Prop where
  beat : after.lastProtocolHeartbeatAt =
    if isHeartbeat then now else before.lastProtocolHeartbeatAt
  reported : after.protocolFailureReported = before.protocolFailureReported
  requests : after.pollRequests.Sublist before.pollRequests
  requestId : after.requestId = before.requestId
  sound : (isHeartbeat = true → before.protocolFailureReported = false) →
    before.Sound setup now → after.Sound setup now

section Health

variable {setup : Setup} {now : ℚ} {protocol middle after : Protocol} {isHeartbeat : Bool}

theorem Health.unheard (protocol : Protocol) : Health setup now false protocol protocol :=
  ⟨rfl, rfl, List.Sublist.refl _, rfl, fun _ sound => sound⟩

theorem Health.heard (protocol : Protocol) :
    Health setup now true protocol (protocol.heartbeat now) := by
  refine ⟨?_, ?_, ?_, ?_, fun unreported _ => .heartbeat (unreported rfl)⟩
  · unfold Protocol.heartbeat
    dsimp only
    split
    · rfl
    · rfl
  · unfold Protocol.heartbeat
    dsimp only
    split
    · rfl
    · rfl
  · unfold Protocol.heartbeat
    dsimp only
    split
    · exact List.Sublist.refl _
    · exact List.Sublist.refl _
  · unfold Protocol.heartbeat
    dsimp only
    split
    · rfl
    · rfl

theorem Health.noted (health : Health setup now isHeartbeat protocol middle)
    (noted : Noted middle after) : Health setup now isHeartbeat protocol after := by
  obtain ⟨currentTurn, rfl⟩ := noted
  exact ⟨health.beat, health.reported, health.requests, health.requestId,
    fun unreported sound => (health.sound unreported sound).setTurn⟩

/-- The request of an answered poll is forgotten first. -/
theorem Health.popped {id : Nat} (health : Health setup now isHeartbeat (protocol.pop id) after) :
    Health setup now isHeartbeat protocol after :=
  ⟨health.beat, health.reported, health.requests.trans List.filter_sublist,
    health.requestId, fun unreported sound => health.sound unreported sound.pop⟩

theorem Health.trans (health : Health setup now false protocol middle)
    (next : Health setup now false middle after) : Health setup now false protocol after := by
  refine ⟨next.beat.trans health.beat, next.reported.trans health.reported,
    next.requests.trans health.requests, next.requestId.trans health.requestId,
    fun _ sound => ?_⟩
  refine next.sound ?_ (health.sound ?_ sound)
  · intro impossible
    cases impossible
  · intro impossible
    cases impossible

theorem Health.failure (source message : String) :
    Health setup now false protocol (protocol.failure setup now source message) :=
  ⟨rfl, rfl, List.Sublist.refl _, rfl, fun _ sound => sound.failure⟩

end Health

/-- The stall is yielded last, and only once the protocol has been silent for long enough. -/
def Reaction.Warns (setup : Setup) (now : ℚ) (before after : Protocol) (reaction : Reaction) :
    Prop :=
  (∀ next ∈ reaction.emits, Plain next) ∨
    reaction.calls = false ∧ reaction.course = .leaves ∧
      (∃ warning, Plain warning ∧ reaction.emits = [warning, .stalled]) ∧
      (before.Sound setup now → after.Silent setup now)

section Effects

variable {setup : Setup} {now : ℚ} {protocol : Protocol} {reaction : Reaction}

/-- The request of an answered poll is forgotten first. -/
theorem reactPoll_health (request : PollRequest) (message : Dict) :
    Health setup now (!Dict.has message "error") (protocol.pop request.id)
      (reactPoll setup now protocol request message).1 := by
  unfold reactPoll
  dsimp only
  split
  · rename_i isError
    rw [isError]
    have marked := @Health.failure setup now (protocol.pop request.id) request.method.name
      (errorMessage setup (Dict.get message "error"))
    split
    · exact marked
    · exact marked
  · rename_i notError
    rw [Bool.eq_false_iff.2 notError]
    have heard := @Health.heard setup now (protocol.pop request.id)
    split
    · exact heard.noted (reactThreadRead_noted _)
    · exact heard

theorem reactPoll_calls {request : PollRequest} {message : Dict}
    (goes : (reactPoll setup now protocol request message).2 = .ok reaction) :
    reaction.calls = false := by
  unfold reactPoll at goes
  dsimp only at goes
  split at goes
  · split at goes
    · cases goes
      rfl
    · cases goes
      rfl
  · split at goes
    · exact (reactThreadRead_quiet goes).calls
    · exact (reactGoalGet_quiet goes).calls

theorem reactPoll_warns {request : PollRequest} {message : Dict}
    (goes : (reactPoll setup now protocol request message).2 = .ok reaction) :
    reaction.Warns setup now protocol (reactPoll setup now protocol request message).1 := by
  unfold reactPoll at goes ⊢
  dsimp only at goes ⊢
  split at goes
  · rename_i isError
    rw [if_pos isError]
    split at goes
    · rename_i isFailed
      rw [if_pos isFailed]
      cases goes
      refine Or.inr ⟨rfl, rfl, ⟨_, plain_emit (by decide), rfl⟩, fun sound => ?_⟩
      exact sound.pop.failure.silent isFailed rfl
    · cases goes
      refine Or.inl fun next isMem => ?_
      rw [List.mem_singleton.1 isMem]
      exact plain_emit (by decide)
  · split at goes
    · exact Or.inl (reactThreadRead_quiet goes).plain
    · exact Or.inl (reactGoalGet_quiet goes).plain

theorem react_health (turnRequestId : Nat) (message : Dict) :
    Health setup now (Handled.isHeartbeat turnRequestId { protocol, now, message }) protocol
      (react setup now protocol turnRequestId message).1 := by
  unfold Handled.isHeartbeat react
  dsimp only
  cases route turnRequestId protocol message with
  | method => exact (Health.heard protocol).noted (reactMethod_noted _ _)
  | unknown => exact .unheard protocol
  | poll request => exact (reactPoll_health request message).popped
  | turnStart =>
      dsimp only
      have noted := @reactTurnStart_noted setup now protocol message
      cases isError : Dict.has message "error" with
      | true =>
          rw [isError] at noted
          exact (Health.unheard protocol).noted noted
      | false =>
          rw [isError] at noted
          exact (Health.heard protocol).noted noted

/-- A tool call is called, and then shown. -/
theorem react_toolCall {turnRequestId : Nat} {message : Dict}
    (isCall : isToolCall setup message = true) :
    (react setup now protocol turnRequestId message).2 = .ok
      { calls := true
        emits := [.event ⟨"tool_call",
          if Dict.has message "params" then Dict.get message "params" else .obj []⟩] } := by
  obtain ⟨isMethod, named⟩ := Bool.and_eq_true_iff.1 isCall
  unfold react route
  rw [if_pos isMethod]
  dsimp only
  unfold reactMethod
  rw [if_pos (of_decide_eq_true named)]

theorem react_quiet {turnRequestId : Nat} {message : Dict}
    (routed : route turnRequestId protocol message = .method)
    (notCall : isToolCall setup message = false)
    (goes : (react setup now protocol turnRequestId message).2 = .ok reaction) :
    reaction.Quiet := by
  have isMethod : hasMethod message = true := by
    unfold route at routed
    split at routed
    · rename_i isMethod
      exact isMethod
    · split at routed
      · cases routed
      · split at routed
        · cases routed
        · cases routed
  unfold isToolCall at notCall
  rw [isMethod, Bool.true_and] at notCall
  unfold react at goes
  rw [routed] at goes
  exact reactMethod_quiet (of_decide_eq_false notCall) goes

/-- Nothing but a tool call calls a tool. -/
theorem react_calls {turnRequestId : Nat} {message : Dict}
    (notCall : isToolCall setup message = false)
    (goes : (react setup now protocol turnRequestId message).2 = .ok reaction) :
    reaction.calls = false := by
  cases routed : route turnRequestId protocol message with
  | method => exact (react_quiet routed notCall goes).calls
  | unknown =>
      unfold react at goes
      rw [routed] at goes
      cases goes
      rfl
  | poll request =>
      unfold react at goes
      rw [routed] at goes
      exact reactPoll_calls goes
  | turnStart =>
      unfold react at goes
      rw [routed] at goes
      cases goes
      exact (reactTurnStart_quiet message).calls

theorem react_warns {turnRequestId : Nat} {message : Dict}
    (goes : (react setup now protocol turnRequestId message).2 = .ok reaction) :
    reaction.Warns setup now protocol (react setup now protocol turnRequestId message).1 := by
  cases isCall : isToolCall setup message with
  | true =>
      rw [react_toolCall isCall] at goes
      cases goes
      refine Or.inl fun next isMem => ?_
      rw [List.mem_singleton.1 isMem]
      exact ⟨_, rfl, by simp⟩
  | false =>
      cases routed : route turnRequestId protocol message with
      | method => exact Or.inl (react_quiet routed isCall goes).plain
      | unknown =>
          unfold react at goes
          rw [routed] at goes
          cases goes
          refine Or.inl fun next isMem => ?_
          cases isMem
      | poll request =>
          unfold react at goes ⊢
          rw [routed] at goes ⊢
          exact reactPoll_warns goes
      | turnStart =>
          unfold react at goes
          rw [routed] at goes
          cases goes
          exact Or.inl (reactTurnStart_quiet message).plain

end Effects

end CodexTurn

end Loom
