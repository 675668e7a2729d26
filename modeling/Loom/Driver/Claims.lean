import Loom.Driver.Requests

/-!
# Claims, successes and workers

A request that has succeeded is not enqueued again (`ClaimSound`), and a queue that is not empty has
a worker (`ServedSound`).  `Sound.atom` puts the invariants together.
-/

namespace Loom

namespace Coordinator

/-! ### Claims and successes -/

/-- A call of `submit` claims a request. -/
def Claims (c : Coordinator) (index : Nat) (requestId : String) : Prop :=
  ∃ call token, c.submitters[index]? = some call ∧ call.stage = .claiming token ∧
    call.requestId = requestId

/-- A request that has succeeded is not enqueued again. -/
structure ClaimSound (c : Coordinator) : Prop where
  locked : ∀ index requestId, c.Claims index requestId → requestId ∈ c.submitLocks
  distinct : ∀ first second requestId, c.Claims first requestId → c.Claims second requestId →
    first = second
  idle : ∀ index requestId, c.Claims index requestId → c.pendingByRequest requestId = none ∧
    (∀ turn, c.Present turn → c.request turn ≠ requestId) ∧
    ∀ turn ∈ c.successes, c.request turn ≠ requestId
  joined : ∀ (index : Nat) (call : Submitter) (turn : Nat), c.submitters[index]? = some call →
    call.stage = .joined turn → turn < c.turns.length ∧ c.request turn = call.requestId
  known : ∀ turn ∈ c.successes, turn < c.turns.length
  cached : ∀ turn ∈ c.successes, ∃ value, c.completed (c.request turn) = some value ∧ value ≠ .null
  due : ∀ turn, c.Due turn → ∀ earlier ∈ c.successes, c.request earlier ≠ c.request turn
  once : c.successes.Pairwise fun earlier later => c.request earlier ≠ c.request later

theorem Due.present {c : Coordinator} {turn : Nat} (due : c.Due turn) : c.Present turn := by
  obtain ⟨conversation, queued | isDue⟩ := due
  · exact ⟨conversation, Or.inl queued⟩
  · refine ⟨conversation, Or.inr ?_⟩
    unfold held?
    cases stage : c.workers conversation with
    | none =>
        rw [stage] at isDue
        cases isDue
    | some stage' =>
        rw [stage] at isDue
        cases stage' with
        | created => cases isDue
        | lane turn' => exact isDue
        | begins turn' => exact isDue
        | executes turn' => exact isDue
        | ends turn' raised => cases isDue

section Leave

variable {c : Coordinator} {conversation : String} {raised : Bool} {turn : Nat}

theorem mem_of_remaining (member : turn ∈ c.remaining conversation raised) :
    turn ∈ c.queues conversation := by
  unfold remaining at member
  split at member
  · exact member
  · exact List.mem_of_mem_tail member

theorem mem_of_following (isNext : c.following conversation raised = some turn) :
    turn ∈ c.queues conversation := by
  unfold following at isNext
  split at isNext
  · cases isNext
  · exact List.mem_of_mem_head? isNext

/-- A worker that goes on has its turn from the queue. -/
theorem queued_of_leave {view : WorkerStage → Option Nat}
    (lane : ∀ turn, view (.lane turn) = some turn)
    {other : String} (isNow : turn ∈ (c.leave conversation raised).queues other ∨
      ((c.leave conversation raised).workers other).bind view = some turn) :
    turn ∈ c.queues other ∨ (c.workers other).bind view = some turn := by
  rw [leave_eq] at isNow
  dsimp only at isNow
  by_cases here : other = conversation
  · subst here
    rw [Function.update_self, Function.update_self] at isNow
    rcases isNow with member | isNext
    · exact Or.inl (mem_of_remaining member)
    · cases next : c.following other raised with
      | none =>
          rw [next] at isNext
          cases isNext
      | some first =>
          rw [next] at isNext
          have same : some first = some turn := (lane first).symm.trans isNext
          cases same
          exact Or.inl (mem_of_following next)
  · rw [Function.update_of_ne here, Function.update_of_ne here] at isNow
    exact isNow

theorem present_leave (present : (c.leave conversation raised).Present turn) : c.Present turn := by
  obtain ⟨other, isNow⟩ := present
  exact ⟨other, queued_of_leave (fun _ => rfl) isNow⟩

theorem due_leave (due : (c.leave conversation raised).Due turn) : c.Due turn := by
  obtain ⟨other, isNow⟩ := due
  exact ⟨other, queued_of_leave (fun _ => rfl) isNow⟩

end Leave

namespace ClaimSound

variable {c c' : Coordinator}

/-- Nothing new is claimed, enqueued or successful. -/
theorem keep (sound : c.ClaimSound) (claims : ∀ index requestId, c'.Claims index requestId →
      c.Claims index requestId ∧ requestId ∈ c'.submitLocks)
    (joins : ∀ (index : Nat) (call : Submitter) (turn : Nat), c'.submitters[index]? = some call →
      call.stage = .joined turn → turn < c.turns.length ∧ c.request turn = call.requestId)
    (length : c'.turns.length = c.turns.length)
    (requests : ∀ turn, c'.request turn = c.request turn)
    (pending : ∀ requestId, c.pendingByRequest requestId = none →
      c'.pendingByRequest requestId = none)
    (presents : ∀ turn, c'.Present turn → c.Present turn) (dues : ∀ turn, c'.Due turn → c.Due turn)
    (successes : c'.successes = c.successes)
    (completed : ∀ requestId value, c.completed requestId = some value → value ≠ .null →
      ∃ other, c'.completed requestId = some other ∧ other ≠ .null) : c'.ClaimSound := by
  refine ⟨fun index requestId isClaim => (claims index requestId isClaim).2, ?_, ?_, ?_, ?_, ?_, ?_,
    ?_⟩
  · intro first second requestId one two
    exact sound.distinct first second requestId (claims first requestId one).1
      (claims second requestId two).1
  · intro index requestId isClaim
    obtain ⟨unpending, absent, unsuccessful⟩ :=
      sound.idle index requestId (claims index requestId isClaim).1
    refine ⟨pending requestId unpending, fun turn isPresent => ?_, ?_⟩
    · rw [requests]
      exact absent turn (presents turn isPresent)
    · rw [successes]
      simp only [requests]
      exact unsuccessful
  · intro index call turn found isJoined
    rw [length, requests]
    exact joins index call turn found isJoined
  · rw [successes, length]
    exact sound.known
  · rw [successes]
    intro turn member
    obtain ⟨value, isCached, isValue⟩ := sound.cached turn member
    rw [requests]
    exact completed _ value isCached isValue
  · intro turn isDue
    rw [successes]
    simp only [requests]
    exact sound.due turn (dues turn isDue)
  · rw [successes]
    simp only [requests]
    exact sound.once

/-- What workers and `interrupt` do concerns no call of `submit`. -/
theorem work (sound : c.ClaimSound) (submitters : c'.submitters = c.submitters)
    (locks : c'.submitLocks = c.submitLocks) (length : c'.turns.length = c.turns.length)
    (requests : ∀ turn, c'.request turn = c.request turn)
    (pending : ∀ requestId, c.pendingByRequest requestId = none →
      c'.pendingByRequest requestId = none)
    (presents : ∀ turn, c'.Present turn → c.Present turn) (dues : ∀ turn, c'.Due turn → c.Due turn)
    (successes : c'.successes = c.successes) (completed : c'.completed = c.completed) :
    c'.ClaimSound := by
  refine sound.keep ?_ ?_ length requests pending presents dues successes ?_
  · intro index requestId isClaim
    unfold Claims at isClaim
    rw [submitters] at isClaim
    exact ⟨isClaim, locks ▸ sound.locked index requestId isClaim⟩
  · intro index call turn found isJoined
    rw [submitters] at found
    exact sound.joined index call turn found isJoined
  · intro requestId value isCached isValue
    rw [completed]
    exact ⟨value, isCached, isValue⟩

section Calls

variable {index : Nat} {call : Submitter} {stage : SubmitStage}

/-- One call has got another stage, the other ones are as they were. -/
theorem call_of_setSubmitter (submitters : c'.submitters = (c.setSubmitter index stage).submitters)
    (found : c.submitters[index]? = some call) {other : Nat} {call' : Submitter}
    (isCall : c'.submitters[other]? = some call') :
    other = index ∧ call' = { call with stage } ∨
      other ≠ index ∧ c.submitters[other]? = some call' := by
  rw [submitters] at isCall
  by_cases same : other = index
  · subst same
    rw [getElem?_setSubmitter found] at isCall
    cases isCall
    exact Or.inl ⟨rfl, rfl⟩
  · refine Or.inr ⟨same, ?_⟩
    change (c.submitters.modify index _)[other]? = _ at isCall
    rw [List.getElem?_modify] at isCall
    simpa [Ne.symm same] using isCall

/-- Once a call does not claim any more, the other ones still do. -/
theorem claims_setSubmitter (submitters : c'.submitters = (c.setSubmitter index stage).submitters)
    (found : c.submitters[index]? = some call) (unclaimed : ∀ token, stage ≠ .claiming token)
    {other : Nat} {requestId : String} (isClaim : c'.Claims other requestId) :
    other ≠ index ∧ c.Claims other requestId := by
  obtain ⟨call', token, isCall, claiming, isRequest⟩ := isClaim
  rcases call_of_setSubmitter submitters found isCall with ⟨rfl, rfl⟩ | ⟨differs, wasCall⟩
  · exact absurd claiming (unclaimed token)
  · exact ⟨differs, call', token, wasCall, claiming, isRequest⟩

theorem joined_setSubmitter (sound : c.ClaimSound)
    (submitters : c'.submitters = (c.setSubmitter index stage).submitters)
    (found : c.submitters[index]? = some call)
    (fits : ∀ turn, stage = .joined turn →
      turn < c.turns.length ∧ c.request turn = call.requestId) {other : Nat} {call' : Submitter}
    {turn : Nat} (isCall : c'.submitters[other]? = some call')
    (isJoined : call'.stage = .joined turn) :
    turn < c.turns.length ∧ c.request turn = call'.requestId := by
  rcases call_of_setSubmitter submitters found isCall with ⟨rfl, rfl⟩ | ⟨_, wasCall⟩
  · exact fits turn isJoined
  · exact sound.joined other call' turn wasCall isJoined

/-- A call of `submit` is answered, or joins a turn of its request. -/
theorem answer (sound : c.ClaimSound) (found : c.submitters[index]? = some call)
    (unclaimed : ∀ token, stage ≠ .claiming token)
    (fits : ∀ turn, stage = .joined turn →
      turn < c.turns.length ∧ c.request turn = call.requestId) :
    (c.setSubmitter index stage).ClaimSound := by
  refine sound.keep ?_ ?_ rfl (fun _ => rfl) (fun _ same => same) (fun _ same => same)
    (fun _ same => same) rfl fun _ value isCached isValue => ⟨value, isCached, isValue⟩
  · intro other requestId isClaim
    have wasClaim := (claims_setSubmitter rfl found unclaimed isClaim).2
    exact ⟨wasClaim, sound.locked other requestId wasClaim⟩
  · intro other call' turn isCall isJoined
    exact joined_setSubmitter sound rfl found fits isCall isJoined

/-- A new claim: the request has no turn and has not succeeded. -/
theorem claim (sound : c.ClaimSound) (requests : c.RequestSound) (order : c.OrderSound)
    (token : String) (found : c.submitters[index]? = some call)
    (free : call.requestId ∉ c.submitLocks)
    (unpending : c.pendingByRequest call.requestId = none)
    (uncached : ∀ value, c.completed call.requestId = some value → value = .null)
    (clear : c.isClear call.requestId = true) :
    ({ c with submitLocks := call.requestId :: c.submitLocks }.setSubmitter index
      (.claiming token)).ClaimSound := by
  have absent : ∀ turn, c.Present turn → c.request turn ≠ call.requestId := by
    intro turn isPresent same
    have named := requests.named turn isPresent
    rw [same, unpending] at named
    have isCancelled : (c.turn turn).cancelled = true := by
      by_contra uncancelled
      rw [if_neg uncancelled] at named
      cases named
    obtain ⟨conversation, queued | isHeld⟩ := isPresent
    · rw [requests.live conversation turn queued] at isCancelled
      cases isCancelled
    · obtain ⟨isKnown, isHome⟩ := order.held conversation turn isHeld
      have entry : (c.turn turn, turn) ∈ c.turns.zipIdx := by
        rw [List.mem_zipIdx_iff_getElem?]
        unfold Coordinator.turn
        rw [List.getD_eq_getElem?_getD, List.getElem?_eq_getElem isKnown]
        rfl
      unfold isClear at clear
      have none := List.all_eq_true.1 clear _ entry
      have holds : (c.workers (c.turn turn).conversationRef).bind WorkerStage.holds? =
        some turn := by
        have sameHome : (c.turn turn).conversationRef = conversation := isHome
        rw [sameHome]
        exact isHeld
      have sameRequest : (c.turn turn).requestId = call.requestId := same
      simp [isCancelled, sameRequest, holds] at none
  have unsuccessful : ∀ turn ∈ c.successes, c.request turn ≠ call.requestId := by
    intro turn member same
    obtain ⟨value, isCached, isValue⟩ := sound.cached turn member
    rw [same] at isCached
    exact isValue (uncached value isCached)
  have claims : ∀ other requestId, ({ c with submitLocks := call.requestId :: c.submitLocks
      }.setSubmitter index (.claiming token)).Claims other requestId →
      other = index ∧ requestId = call.requestId ∨ c.Claims other requestId := by
    rintro other requestId ⟨call', token', isCall, claiming, isRequest⟩
    rcases call_of_setSubmitter rfl found isCall with ⟨rfl, rfl⟩ | ⟨_, wasCall⟩
    · exact Or.inl ⟨rfl, isRequest.symm⟩
    · exact Or.inr ⟨call', token', wasCall, claiming, isRequest⟩
  refine ⟨?_, ?_, ?_, ?_, sound.known, sound.cached, sound.due, sound.once⟩
  · intro other requestId isClaim
    rcases claims other requestId isClaim with ⟨_, rfl⟩ | wasClaim
    · exact List.mem_cons_self
    · exact List.mem_cons_of_mem _ (sound.locked other requestId wasClaim)
  · intro first second requestId one two
    rcases claims first requestId one with ⟨rfl, rfl⟩ | wasFirst
    · rcases claims second _ two with ⟨rfl, _⟩ | wasSecond
      · rfl
      · exact absurd (sound.locked second _ wasSecond) free
    · rcases claims second requestId two with ⟨_, rfl⟩ | wasSecond
      · exact absurd (sound.locked first _ wasFirst) free
      · exact sound.distinct first second requestId wasFirst wasSecond
  · intro other requestId isClaim
    rcases claims other requestId isClaim with ⟨_, rfl⟩ | wasClaim
    · exact ⟨unpending, absent, unsuccessful⟩
    · exact sound.idle other requestId wasClaim
  · intro other call' turn isCall isJoined
    exact joined_setSubmitter sound rfl found (fun turn impossible => by cases impossible) isCall
      isJoined

/-- A claim is over without a turn. -/
theorem unclaim (sound : c.ClaimSound) {token : String} (found : c.submitters[index]? = some call)
    (claiming : call.stage = .claiming token) (isOver : isOver stage = true)
    {completed : String → Option Json}
    (cached : completed = c.completed ∨ ∃ value, value ≠ .null ∧
      completed = Function.update c.completed call.requestId (some value)) :
    (({ c with completed }.unlock call.requestId).setSubmitter index stage).ClaimSound := by
  have unclaimed : ∀ token, stage ≠ .claiming token := by
    rintro token rfl
    cases isOver
  have unjoined : ∀ turn, stage ≠ .joined turn := by
    rintro turn rfl
    cases isOver
  have mine : c.Claims index call.requestId := ⟨call, token, found, claiming, rfl⟩
  refine sound.keep ?_ ?_ rfl (fun _ => rfl) (fun _ same => same) (fun _ same => same)
    (fun _ same => same) rfl ?_
  · intro other requestId isClaim
    obtain ⟨differs, wasClaim⟩ := claims_setSubmitter rfl found unclaimed isClaim
    refine ⟨wasClaim, (List.mem_erase_of_ne fun same => ?_).2
      (sound.locked other requestId wasClaim)⟩
    rw [same] at wasClaim
    exact differs (sound.distinct other index _ wasClaim mine)
  · intro other call' turn isCall isJoined
    exact joined_setSubmitter sound rfl found (fun turn same => absurd same (unjoined turn)) isCall
      isJoined
  · intro requestId value isCached isValue
    change ∃ other, completed requestId = some other ∧ other ≠ .null
    rcases cached with rfl | ⟨claim, isClaim, rfl⟩
    · exact ⟨value, isCached, isValue⟩
    · by_cases same : requestId = call.requestId
      · subst same
        exact ⟨claim, Function.update_self _ _ _, isClaim⟩
      · exact ⟨value, (Function.update_of_ne same _ _).trans isCached, isValue⟩

/-- A claim becomes a turn. -/
theorem enqueue (sound : c.ClaimSound) (order : c.OrderSound) {token : String}
    (claimToken : String) (found : c.submitters[index]? = some call)
    (claiming : call.stage = .claiming token) :
    (c.enqueue index call claimToken).ClaimSound := by
  have mine : c.Claims index call.requestId := ⟨call, token, found, claiming, rfl⟩
  obtain ⟨unpending, absent, unsuccessful⟩ := sound.idle index call.requestId mine
  have submitters : (c.enqueue index call claimToken).submitters =
      (c.setSubmitter index (.joined c.turns.length)).submitters := by
    rw [enqueue_eq]
    rfl
  have locks : (c.enqueue index call claimToken).submitLocks =
      c.submitLocks.erase call.requestId := by
    rw [enqueue_eq]
  have pending : (c.enqueue index call claimToken).pendingByRequest =
      Function.update c.pendingByRequest call.requestId (some c.turns.length) := by
    rw [enqueue_eq]
  have successes : (c.enqueue index call claimToken).successes = c.successes := by
    rw [enqueue_eq]
    rfl
  have completed : (c.enqueue index call claimToken).completed = c.completed := by
    rw [enqueue_eq]
  have length : (c.enqueue index call claimToken).turns.length = c.turns.length + 1 := by
    rw [enqueue_eq]
    exact List.length_append
  have old : ∀ turn < c.turns.length,
      (c.enqueue index call claimToken).request turn = c.request turn :=
    fun turn isOld => congrArg PendingTurn.requestId (turn_enqueue c index call claimToken isOld)
  have new : (c.enqueue index call claimToken).request c.turns.length = call.requestId :=
    congrArg PendingTurn.requestId (turn_enqueue_self c index call claimToken)
  have queued : ∀ other turn, turn ∈ (c.enqueue index call claimToken).queues other →
      turn = c.turns.length ∨ turn ∈ c.queues other := by
    intro other turn member
    rw [queues_enqueue] at member
    by_cases same : other = call.conversationRef
    · subst same
      rw [Function.update_self] at member
      rcases List.mem_append.1 member with isOld | isNew
      · exact Or.inr isOld
      · exact Or.inl (List.mem_singleton.1 isNew)
    · rw [Function.update_of_ne same] at member
      exact Or.inr member
  have present : ∀ turn, (c.enqueue index call claimToken).Present turn →
      turn = c.turns.length ∨ c.Present turn ∧ turn < c.turns.length := by
    intro turn isPresent
    obtain ⟨other, member | isHeld⟩ := isPresent
    · rcases queued other turn member with isNew | isOld
      · exact Or.inl isNew
      · exact Or.inr ⟨⟨other, Or.inl isOld⟩,
          (order.homed other turn (List.mem_append_right _ isOld)).1⟩
    · unfold held? at isHeld
      rw [stage_enqueue c index call claimToken rfl] at isHeld
      exact Or.inr ⟨⟨other, Or.inr isHeld⟩, (order.held other turn isHeld).1⟩
  have due : ∀ turn, (c.enqueue index call claimToken).Due turn →
      turn = c.turns.length ∨ c.Due turn := by
    intro turn isDue
    obtain ⟨other, member | isHeld⟩ := isDue
    · rcases queued other turn member with isNew | isOld
      · exact Or.inl isNew
      · exact Or.inr ⟨other, Or.inl isOld⟩
    · rw [stage_enqueue c index call claimToken rfl] at isHeld
      exact Or.inr ⟨other, Or.inr isHeld⟩
  have unclaimed : ∀ token, SubmitStage.joined c.turns.length ≠ .claiming token :=
    fun token impossible => by cases impossible
  refine ⟨?_, ?_, ?_, ?_, ?_, ?_, ?_, ?_⟩
  · intro other requestId isClaim
    obtain ⟨differs, wasClaim⟩ := claims_setSubmitter submitters found unclaimed isClaim
    rw [locks]
    refine (List.mem_erase_of_ne fun same => ?_).2 (sound.locked other requestId wasClaim)
    rw [same] at wasClaim
    exact differs (sound.distinct other index _ wasClaim mine)
  · intro first second requestId one two
    exact sound.distinct first second requestId
      (claims_setSubmitter submitters found unclaimed one).2
      (claims_setSubmitter submitters found unclaimed two).2
  · intro other requestId isClaim
    obtain ⟨differs, wasClaim⟩ := claims_setSubmitter submitters found unclaimed isClaim
    have isOther : requestId ≠ call.requestId := by
      rintro rfl
      exact differs (sound.distinct other index _ wasClaim mine)
    obtain ⟨unpending', absent', unsuccessful'⟩ := sound.idle other requestId wasClaim
    refine ⟨?_, fun turn isPresent => ?_, ?_⟩
    · rw [pending, Function.update_of_ne isOther]
      exact unpending'
    · rcases present turn isPresent with rfl | ⟨wasPresent, isOld⟩
      · rw [new]
        exact isOther.symm
      · rw [old turn isOld]
        exact absent' turn wasPresent
    · rw [successes]
      intro turn member
      rw [old turn (sound.known turn member)]
      exact unsuccessful' turn member
  · intro other call' turn isCall isJoined
    rw [length]
    rcases call_of_setSubmitter submitters found isCall with ⟨rfl, rfl⟩ | ⟨_, wasCall⟩
    · cases isJoined
      exact ⟨Nat.lt_succ_self _, new⟩
    · obtain ⟨isOld, isRequest⟩ := sound.joined other call' turn wasCall isJoined
      exact ⟨by omega, (old turn isOld).trans isRequest⟩
  · rw [successes, length]
    intro turn member
    have isOld := sound.known turn member
    omega
  · rw [successes, completed]
    intro turn member
    rw [old turn (sound.known turn member)]
    exact sound.cached turn member
  · intro turn isDue
    rw [successes]
    intro earlier member
    rw [old earlier (sound.known earlier member)]
    rcases due turn isDue with rfl | wasDue
    · rw [new]
      exact unsuccessful earlier member
    · obtain ⟨other, isNow⟩ := wasDue.present
      have isOld : turn < c.turns.length := by
        rcases isNow with member | isHeld
        · exact (order.homed other turn (List.mem_append_right _ member)).1
        · exact (order.held other turn isHeld).1
      rw [old turn isOld]
      exact sound.due turn wasDue earlier member
  · rw [successes]
    refine sound.once.imp_of_mem ?_
    intro earlier later isEarlier isLater differs
    rw [old earlier (sound.known earlier isEarlier), old later (sound.known later isLater)]
    exact differs

end Calls

/-- A turn succeeds: no other one of its request is due. -/
theorem succeed (sound : c.ClaimSound) (requests : c.RequestSound) (order : c.OrderSound)
    {conversation : String} {turn : Nat} {result : Json} (isResult : result ≠ .null)
    (stage : c.workers conversation = some (.executes turn)) :
    (({ c with
      completed := Function.update c.completed (c.turn turn).requestId (some result)
      log := c.log ++ [TurnEvent.succeeded turn] }.settle turn (.result result)).setWorker
        conversation (some (.ends turn false))).ClaimSound := by
  have isHeld : c.held? conversation = some turn := by
    unfold held?
    rw [stage]
    rfl
  have isDue : c.Due turn := by
    refine ⟨conversation, Or.inr ?_⟩
    rw [stage]
    rfl
  obtain ⟨isKnown, isHome⟩ := order.held conversation turn isHeld
  let done : Coordinator := ({ c with
    completed := Function.update c.completed (c.turn turn).requestId (some result)
    log := c.log ++ [TurnEvent.succeeded turn] }.settle turn (.result result)).setWorker
      conversation (some (.ends turn false))
  have successes : done.successes = c.successes ++ [turn] := by
    change (c.log ++ [TurnEvent.succeeded turn]).filterMap succeeded? = _
    rw [List.filterMap_append]
    rfl
  have sameRequest : ∀ other, done.request other = c.request other :=
    fun other => request_settle c turn other (.result result)
  have length : done.turns.length = c.turns.length := length_settle c turn (.result result)
  have view : ∀ (see : WorkerStage → Option Nat) other taken, other ≠ conversation →
      (done.workers other).bind see = some taken → (c.workers other).bind see = some taken := by
    intro see other taken differs isNow
    change (Function.update c.workers conversation _ other).bind see = _ at isNow
    rwa [Function.update_of_ne differs] at isNow
  have present : ∀ other, done.Present other → c.Present other := by
    rintro other ⟨place, member | isNow⟩
    · exact ⟨place, Or.inl member⟩
    · by_cases here : place = conversation
      · subst here
        change (Function.update c.workers place _ place).bind WorkerStage.holds? = _ at isNow
        rw [Function.update_self] at isNow
        cases isNow
        exact ⟨place, Or.inr isHeld⟩
      · exact ⟨place, Or.inr (view _ place other here isNow)⟩
  have due : ∀ other, done.Due other → c.Due other ∧ other ≠ turn := by
    rintro other ⟨place, member | isNow⟩
    · refine ⟨⟨place, Or.inl member⟩, fun same => ?_⟩
      rw [same] at member
      exact requests.apart conversation turn isHeld place member
    · by_cases here : place = conversation
      · subst here
        change (Function.update c.workers place _ place).bind WorkerStage.due? = _ at isNow
        rw [Function.update_self] at isNow
        cases isNow
      · have wasDue : c.Due other := ⟨place, Or.inr (view _ place other here isNow)⟩
        refine ⟨wasDue, fun same => ?_⟩
        subst same
        have wasHeld : c.held? place = some other := by
          have before := view _ place other here isNow
          unfold held?
          cases at' : c.workers place with
          | none =>
              rw [at'] at before
              cases before
          | some stage' =>
              rw [at'] at before
              cases stage' with
              | created => cases before
              | lane taken => exact before
              | begins taken => exact before
              | executes taken => exact before
              | ends taken raised => cases before
        exact here ((order.held place other wasHeld).2.symm.trans isHome)
  have unclaimed : ∀ index requestId, done.Claims index requestId → c.Claims index requestId :=
    fun _ _ isClaim => isClaim
  refine ⟨sound.locked, sound.distinct, ?_, ?_, ?_, ?_, ?_, ?_⟩
  · intro index requestId isClaim
    obtain ⟨unpending, absent, unsuccessful⟩ := sound.idle index requestId (unclaimed _ _ isClaim)
    refine ⟨unpending, fun other isPresent => ?_, fun other member => ?_⟩
    · rw [sameRequest]
      exact absent other (present other isPresent)
    · rw [sameRequest]
      rw [successes] at member
      rcases List.mem_append.1 member with isOld | isNew
      · exact unsuccessful other isOld
      · rw [List.mem_singleton.1 isNew]
        exact absent turn ⟨conversation, Or.inr isHeld⟩
  · intro index call other found isJoined
    rw [length, sameRequest]
    exact sound.joined index call other found isJoined
  · rw [successes, length]
    intro other member
    rcases List.mem_append.1 member with isOld | isNew
    · exact sound.known other isOld
    · rw [List.mem_singleton.1 isNew]
      exact isKnown
  · rw [successes]
    intro other member
    rw [sameRequest]
    change ∃ value, Function.update c.completed (c.request turn) (some result) (c.request other) =
      some value ∧ value ≠ .null
    by_cases same : c.request other = c.request turn
    · rw [same, Function.update_self]
      exact ⟨result, rfl, isResult⟩
    · rw [Function.update_of_ne same]
      rcases List.mem_append.1 member with isOld | isNew
      · exact sound.cached other isOld
      · rw [List.mem_singleton.1 isNew] at same
        exact absurd rfl same
  · intro other isDue'
    obtain ⟨wasDue, differs⟩ := due other isDue'
    rw [successes]
    intro earlier member
    rw [sameRequest, sameRequest]
    rcases List.mem_append.1 member with isOld | isNew
    · exact sound.due other wasDue earlier isOld
    · rw [List.mem_singleton.1 isNew]
      intro same
      exact differs (requests.single turn other isDue.present wasDue.present same).symm
  · rw [successes]
    change (c.successes ++ [turn]).Pairwise fun earlier later =>
      done.request earlier ≠ done.request later
    simp only [sameRequest]
    refine List.pairwise_append.2 ⟨sound.once, List.pairwise_singleton _ _, ?_⟩
    intro earlier isOld later isNew
    rw [List.mem_singleton.1 isNew]
    exact sound.due turn isDue earlier isOld

/-- A worker moves on, and no turn becomes due by it. -/
theorem moveOn (sound : c.ClaimSound) (conversation : String) (stage : Option WorkerStage)
    (submitters : c'.submitters = c.submitters) (locks : c'.submitLocks = c.submitLocks)
    (same : c.SameTurns c') (workers : c'.workers = Function.update c.workers conversation stage)
    (successes : c'.successes = c.successes) (completed : c'.completed = c.completed)
    (helds : ∀ turn, stage.bind WorkerStage.holds? = some turn → c.held? conversation = some turn)
    (dues : ∀ turn, stage.bind WorkerStage.due? = some turn →
      (c.workers conversation).bind WorkerStage.due? = some turn) : c'.ClaimSound := by
  have view : ∀ (see : WorkerStage → Option Nat), (∀ turn, stage.bind see = some turn →
      (c.workers conversation).bind see = some turn) → ∀ other turn,
      (c'.workers other).bind see = some turn → (c.workers other).bind see = some turn := by
    intro see here other turn isNow
    rw [workers] at isNow
    by_cases isHere : other = conversation
    · subst isHere
      rw [Function.update_self] at isNow
      exact here turn isNow
    · rwa [Function.update_of_ne isHere] at isNow
  refine sound.work submitters locks same.length same.request ?_ ?_ ?_ successes completed
  · intro requestId unpending
    rw [same.pending]
    exact unpending
  · rintro turn ⟨other, member | isNow⟩
    · rw [same.queues] at member
      exact ⟨other, Or.inl member⟩
    · exact ⟨other, Or.inr (view WorkerStage.holds? helds other turn isNow)⟩
  · rintro turn ⟨other, member | isNow⟩
    · rw [same.queues] at member
      exact ⟨other, Or.inl member⟩
    · exact ⟨other, Or.inr (view WorkerStage.due? dues other turn isNow)⟩

theorem popNone {pending : String → Option Nat} {popped requestId : String}
    (unpending : pending requestId = none) :
    Function.update pending popped none requestId = none := by
  by_cases same : requestId = popped
  · subst same
    exact Function.update_self _ _ _
  · rw [Function.update_of_ne same]
    exact unpending

theorem atom (sound : c.ClaimSound) (requests : c.RequestSound) (order : c.OrderSound)
    (atom : Atom c c') : c'.ClaimSound := by
  cases atom with
  | passive active interrupters driverEpoch =>
      exact sound.work rfl rfl rfl (fun _ => rfl) (fun _ same => same) (fun _ same => same)
        (fun _ same => same) rfl rfl
  | arrives call locking =>
      have older : ∀ (index : Nat) (call' : Submitter),
          (c.submitters ++ [call])[index]? = some call' → call'.stage ≠ .locking →
          c.submitters[index]? = some call' := by
        intro index call' found elsewhere
        by_cases isOld : index < c.submitters.length
        · rwa [List.getElem?_append_left isOld] at found
        · rw [List.getElem?_append_right (Nat.le_of_not_lt isOld)] at found
          have isNew := List.mem_of_getElem? found
          rw [List.mem_singleton.1 isNew] at elsewhere
          exact absurd locking elsewhere
      refine sound.keep ?_ ?_ rfl (fun _ => rfl) (fun _ same => same) (fun _ same => same)
        (fun _ same => same) rfl fun _ value isCached isValue => ⟨value, isCached, isValue⟩
      · rintro index requestId ⟨call', token, found, claiming, isRequest⟩
        have elsewhere : call'.stage ≠ .locking := by
          rw [claiming]
          exact fun impossible => SubmitStage.noConfusion impossible
        have wasCall := older index call' found elsewhere
        have isClaim : c.Claims index requestId := ⟨call', token, wasCall, claiming, isRequest⟩
        exact ⟨isClaim, sound.locked index requestId isClaim⟩
      · intro index call' turn found isJoined
        refine sound.joined index call' turn (older index call' found ?_) isJoined
        rw [isJoined]
        exact fun impossible => SubmitStage.noConfusion impossible
  | answers index call stage found locking fits =>
      refine sound.answer found ?_ ?_
      · rintro token rfl
        rcases fits with isOver | ⟨turn, _, impossible⟩
        · cases isOver
        · cases impossible
      · rintro turn rfl
        rcases fits with isOver | ⟨turn', isPending, same⟩
        · cases isOver
        · cases same
          exact requests.known _ _ isPending
  | resolves index call turn stage found joined outcome =>
      refine sound.answer found ?_ ?_
      · rintro token rfl
        cases isFuture : (c.turn turn).future <;> rw [isFuture] at outcome <;> cases outcome
      · rintro other rfl
        cases isFuture : (c.turn turn).future <;> rw [isFuture] at outcome <;> cases outcome
  | claims index call token found locking free unpending uncached clear =>
      exact sound.claim requests order token found free unpending uncached clear
  | unclaims index call token stage completed found claiming isOver cached =>
      exact sound.unclaim found claiming isOver cached
  | enqueues index call token claimToken found claiming =>
      exact sound.enqueue order claimToken found claiming
  | takes conversation idle =>
      rw [nextTurn_eq]
      refine sound.work ?_ ?_ ?_ ?_ ?_ (fun _ => present_leave) (fun _ => due_leave) ?_ ?_
      all_goals rw [leave_eq]
      · exact fun _ => rfl
      · exact fun _ same => same
      · rfl
  | enters conversation turn stage free =>
      refine sound.moveOn conversation (some (.begins turn)) rfl rfl (.of_eq rfl rfl rfl) rfl
        rfl rfl
        ?_ ?_
      · intro taken isTaken
        unfold held?
        rw [stage]
        exact isTaken
      · intro taken isTaken
        rw [stage]
        exact isTaken
  | activates conversation turn stage =>
      refine sound.moveOn conversation (some (.executes turn)) rfl rfl (.of_eq rfl rfl rfl)
        rfl ?_ rfl
        ?_ ?_
      · change (c.log ++ [TurnEvent.started turn]).filterMap succeeded? = _
        rw [List.filterMap_append]
        exact List.append_nil _
      · intro taken isTaken
        unfold held?
        rw [stage]
        exact isTaken
      · intro taken isTaken
        rw [stage]
        exact isTaken
  | concludes conversation turn raised outcome stage done shut =>
      refine sound.moveOn conversation (some (.ends turn raised)) rfl rfl
        (.of_settle turn outcome rfl rfl rfl) rfl rfl rfl ?_ fun taken isTaken => by cases isTaken
      intro taken isTaken
      unfold held?
      rcases stage with stage | stage
      · rw [stage]
        exact isTaken
      · rw [stage]
        exact isTaken
  | succeeds conversation turn result stage isResult =>
      exact sound.succeed requests order isResult stage
  | finishes conversation turn raised stage =>
      have released : ∀ see : WorkerStage → Option Nat, ∀ other,
          ((c.release conversation turn).workers other).bind see = (c.workers other).bind see := by
        intro see other
        rw [release_eq]
      have queues : (c.release conversation turn).queues = c.queues := by
        rw [release_eq]
      refine sound.work ?_ ?_ ?_ ?_ ?_ ?_ ?_ ?_ ?_
      · rw [leave_eq, release_eq]
      · rw [leave_eq, release_eq]
      · rw [leave_eq, release_eq]
      · rw [leave_eq, release_eq]
        exact fun _ => rfl
      · rw [leave_eq, release_eq]
        exact fun _ => popNone
      · intro other isPresent
        obtain ⟨place, isNow⟩ := present_leave isPresent
        rw [queues] at isNow
        unfold held? at isNow
        rw [released] at isNow
        exact ⟨place, isNow⟩
      · intro other isDue
        obtain ⟨place, isNow⟩ := due_leave isDue
        rw [queues, released] at isNow
        exact ⟨place, isNow⟩
      · rw [leave_eq, release_eq]
        rfl
      · rw [leave_eq, release_eq]
  | abandons conversation turn raised stage shut =>
      exact sound.moveOn conversation none rfl rfl (.of_eq rfl rfl rfl) rfl rfl rfl
        (fun taken isTaken => by cases isTaken) fun taken isTaken => by cases isTaken
  | drops conversation stage isStage isOutside shut =>
      exact sound.moveOn conversation none rfl rfl (.of_eq rfl rfl rfl) rfl rfl rfl
        (fun taken isTaken => by cases isTaken) fun taken isTaken => by cases isTaken
  | interruptsQueued conversation turn rest value inactive queue =>
      have shorter : ∀ other taken, taken ∈ Function.update c.queues conversation rest other →
          taken ∈ c.queues other := by
        intro other taken member
        by_cases here : other = conversation
        · subst here
          rw [Function.update_self] at member
          rw [queue]
          exact List.mem_cons_of_mem _ member
        · rwa [Function.update_of_ne here] at member
      refine sound.work rfl rfl (length_settle _ turn (.result value))
        (fun _ => request_settle _ turn _ (.result value)) (fun _ => popNone) ?_ ?_ ?_ rfl
      · rintro taken ⟨other, member | isHeld⟩
        · exact ⟨other, Or.inl (shorter other taken member)⟩
        · exact ⟨other, Or.inr isHeld⟩
      · rintro taken ⟨other, member | isHeld⟩
        · exact ⟨other, Or.inl (shorter other taken member)⟩
        · exact ⟨other, Or.inr isHeld⟩
      · change (c.log ++ [TurnEvent.interrupted turn]).filterMap succeeded? = _
        rw [List.filterMap_append]
        exact List.append_nil _
  | interruptsWaiting conversation turn value inactive empty waiting =>
      have marked : ∀ other, (Coordinator.request { c with
          turns := c.turns.modify turn fun pending => { pending with cancelled := true }
          waiting := Function.update c.waiting conversation none } other) = c.request other := by
        intro other
        change ((c.turns.modify turn _).getD other default).requestId = _
        rw [getD_modify]
        split
        · rfl
        · rfl
      refine sound.work rfl rfl
        ((length_settle _ turn (.result value)).trans (List.length_modify _ _ _))
        (fun other => (request_settle _ turn other (.result value)).trans (marked other))
        (fun _ => popNone) (fun _ same => same) (fun _ same => same) ?_ rfl
      change (c.log ++ [TurnEvent.interrupted turn]).filterMap succeeded? = _
      rw [List.filterMap_append]
      exact List.append_nil _
  | shutsDown =>
      exact sound.work rfl rfl rfl (fun _ => rfl) (fun _ same => same) (fun _ same => same)
        (fun _ same => same) rfl rfl

end ClaimSound

theorem RequestSound.atom {c c' : Coordinator} (sound : c.RequestSound) (order : c.OrderSound)
    (claims : c.ClaimSound) (atom : Atom c c') : c'.RequestSound := by
  have same : ∀ {after : Coordinator}, after.turns = c.turns → after.queues = c.queues →
      after.pendingByRequest = c.pendingByRequest → after.workers = c.workers →
      after.waiting = c.waiting → after.RequestSound := by
    intro after turns queues pending workers waiting
    have sameTurns : c.SameTurns after := .of_eq turns queues pending
    refine sound.letGo sameTurns ?_ ?_ ?_
    · intro conversation turn isHeld
      unfold held? at isHeld ⊢
      rwa [workers] at isHeld
    · intro conversation turn raised isEnding
      rw [workers] at isEnding
      exact sameTurns.done turn (sound.settled conversation turn raised isEnding)
    · intro conversation turn isWaiting
      rwa [waiting] at isWaiting
  cases atom with
  | passive active interrupters driverEpoch => exact same rfl rfl rfl rfl rfl
  | arrives call locking => exact same rfl rfl rfl rfl rfl
  | answers index call stage found locking fits => exact same rfl rfl rfl rfl rfl
  | resolves index call turn stage found joined outcome => exact same rfl rfl rfl rfl rfl
  | claims index call token found locking free unpending uncached clear =>
      exact same rfl rfl rfl rfl rfl
  | unclaims index call token stage completed found claiming isOver cached =>
      exact same rfl rfl rfl rfl rfl
  | enqueues index call token claimToken found claiming =>
      obtain ⟨unpending, absent, _⟩ :=
        claims.idle index call.requestId ⟨call, token, found, claiming, rfl⟩
      exact sound.enqueue order index call claimToken unpending absent
  | takes conversation idle =>
      rw [nextTurn_eq]
      exact sound.leave order conversation false
  | enters conversation turn stage free =>
      refine sound.moveOn (.of_eq rfl rfl rfl) conversation (some (.begins turn)) rfl ?_
        (fun turn raised impossible => by cases impossible) fun _ _ isWaiting => isWaiting
      intro taken isTaken
      unfold held?
      rw [stage]
      exact isTaken
  | activates conversation turn stage =>
      refine sound.moveOn (.of_eq rfl rfl rfl) conversation (some (.executes turn)) rfl ?_
        (fun turn raised impossible => by cases impossible) ?_
      · intro taken isTaken
        unfold held?
        rw [stage]
        exact isTaken
      · intro other waiting isWaiting
        change Function.update c.waiting conversation none other = some waiting at isWaiting
        by_cases here : other = conversation
        · subst here
          rw [Function.update_self] at isWaiting
          cases isWaiting
        · rwa [Function.update_of_ne here] at isWaiting
  | concludes conversation turn raised outcome stage done shut =>
      have isHeld : c.held? conversation = some turn := by
        unfold held?
        rcases stage with stage | stage
        · rw [stage]
          rfl
        · rw [stage]
          rfl
      refine sound.moveOn (.of_settle turn outcome rfl rfl rfl) conversation
        (some (.ends turn raised)) rfl ?_ ?_ fun _ _ isWaiting => isWaiting
      · intro taken isTaken
        cases isTaken
        exact isHeld
      · intro taken raised' isEnding
        cases isEnding
        change ((c.settle turn outcome).turn turn).future.done = true
        rcases done with isDone | isCancelled
        · exact done_settle_self c (order.held conversation turn isHeld).1 isDone
        · exact done_settle c turn outcome (sound.resolved turn isCancelled)
  | succeeds conversation turn result stage isResult =>
      have isHeld : c.held? conversation = some turn := by
        unfold held?
        rw [stage]
        rfl
      refine sound.moveOn (.of_settle turn (.result result) rfl rfl rfl) conversation
        (some (.ends turn false)) rfl ?_ ?_ fun _ _ isWaiting => isWaiting
      · intro taken isTaken
        cases isTaken
        exact isHeld
      · intro taken raised isEnding
        cases isEnding
        exact done_settle_self c (order.held conversation turn isHeld).1 rfl
  | finishes conversation turn raised stage =>
      rw [← leave_setWorker _ conversation none]
      refine (sound.release order stage).leave ?_ conversation raised
      refine order.moveOn conversation none ?_ ?_ ?_ ?_ ?_ (List.nil_sublist _)
        fun taken isTaken => by cases isTaken
      · rw [release_eq]
        rfl
      · rw [release_eq]
        exact fun _ => rfl
      · rw [release_eq]
        rfl
      · rw [release_eq]
        rfl
      · rw [release_eq]
        rfl
  | abandons conversation turn raised stage shut =>
      exact sound.moveOn (.of_eq rfl rfl rfl) conversation none rfl
        (fun taken isTaken => by cases isTaken) (fun turn raised impossible => by cases impossible)
        fun _ _ isWaiting => isWaiting
  | drops conversation stage isStage isOutside shut =>
      exact sound.moveOn (.of_eq rfl rfl rfl) conversation none rfl
        (fun taken isTaken => by cases isTaken) (fun turn raised impossible => by cases impossible)
        fun _ _ isWaiting => isWaiting
  | interruptsQueued conversation turn rest value inactive queue =>
      exact sound.interruptQueued order value queue rfl rfl rfl rfl rfl
  | interruptsWaiting conversation turn value inactive empty waiting =>
      exact sound.interruptWaiting value waiting rfl rfl rfl rfl rfl
  | shutsDown => exact same rfl rfl rfl rfl rfl

/-! ### Workers and queues -/

/-- A queue that is not empty has a worker until the shutdown. -/
structure ServedSound (c : Coordinator) : Prop where
  served : ∀ conversation, c.isShutdown = false → c.queues conversation ≠ [] →
    (c.workers conversation).isSome = true
  raised : ∀ conversation turn, c.workers conversation = some (.ends turn true) →
    c.isShutdown = true

namespace ServedSound

variable {c c' : Coordinator}

/-- A worker moves on without leaving. -/
theorem moveOn (sound : c.ServedSound) (conversation : String) (stage : WorkerStage)
    (workers : c'.workers = Function.update c.workers conversation (some stage))
    (queues : c'.queues = c.queues) (shutdown : c'.isShutdown = c.isShutdown)
    (calm : ∀ turn, stage = .ends turn true → c.isShutdown = true) : c'.ServedSound := by
  refine ⟨fun other running filled => ?_, fun other turn isRaised => ?_⟩
  · rw [workers]
    by_cases here : other = conversation
    · subst here
      rw [Function.update_self]
      rfl
    · rw [Function.update_of_ne here]
      rw [shutdown] at running
      rw [queues] at filled
      exact sound.served other running filled
  · rw [shutdown]
    rw [workers] at isRaised
    by_cases here : other = conversation
    · subst here
      rw [Function.update_self] at isRaised
      exact calm turn (Option.some.inj isRaised)
    · rw [Function.update_of_ne here] at isRaised
      exact sound.raised other turn isRaised

/-- After the shutdown nothing is promised. -/
theorem stopped (shut : c.isShutdown = true) : c.ServedSound :=
  ⟨fun _ running _ => absurd (shut.symm.trans running) Bool.noConfusion, fun _ _ _ => shut⟩

/-- A worker goes on with its queue, or leaves it empty. -/
theorem leave (sound : c.ServedSound) (conversation : String) (raised : Bool)
    (calm : raised = true → c.isShutdown = true) : (c.leave conversation raised).ServedSound := by
  have shutdown : (c.leave conversation raised).isShutdown = c.isShutdown := by
    rw [leave_eq]
  by_cases running : c.isShutdown = true
  · exact stopped (shutdown.trans running)
  · have isCalm : raised = false := by
      by_contra isRaised
      exact running (calm (by simpa using isRaised))
    have goesOn : ¬(raised || c.isShutdown) = true := by
      rw [isCalm]
      exact running
    rw [leave_eq]
    refine ⟨fun other _ filled => ?_, fun other turn isRaised => ?_⟩
    · dsimp only at filled ⊢
      by_cases here : other = conversation
      · subst here
        rw [Function.update_self] at filled ⊢
        unfold remaining at filled
        unfold following
        rw [if_neg goesOn] at filled ⊢
        cases queue : c.queues other with
        | nil =>
            rw [queue] at filled
            exact absurd rfl filled
        | cons first rest => rfl
      · rw [Function.update_of_ne here] at filled ⊢
        exact sound.served other (by simpa using running) filled
    · dsimp only at isRaised ⊢
      by_cases here : other = conversation
      · subst here
        rw [Function.update_self] at isRaised
        cases next : c.following other raised <;> rw [next] at isRaised <;> cases isRaised
      · rw [Function.update_of_ne here] at isRaised
        exact sound.raised other turn isRaised

theorem atom (sound : c.ServedSound) (atom : Atom c c') : c'.ServedSound := by
  cases atom with
  | passive active interrupters driverEpoch => exact ⟨sound.served, sound.raised⟩
  | arrives call locking => exact ⟨sound.served, sound.raised⟩
  | answers index call stage found locking fits => exact ⟨sound.served, sound.raised⟩
  | resolves index call turn stage found joined outcome => exact ⟨sound.served, sound.raised⟩
  | claims index call token found locking free unpending uncached clear =>
      exact ⟨sound.served, sound.raised⟩
  | unclaims index call token stage completed found claiming isOver cached =>
      exact ⟨sound.served, sound.raised⟩
  | enqueues index call token claimToken found claiming =>
      rw [enqueue_eq]
      refine ⟨fun other running filled => ?_, fun other turn isRaised => ?_⟩
      · dsimp only at filled ⊢
        by_cases here : other = call.conversationRef
        · subst here
          split
          · rw [Function.update_self]
            rfl
          · rename_i present
            cases at' : c.workers call.conversationRef with
            | none =>
                rw [at'] at present
                exact absurd rfl present
            | some stage => rfl
        · rw [Function.update_of_ne here] at filled
          have isServed := sound.served other running filled
          split
          · rw [Function.update_of_ne here]
            exact isServed
          · exact isServed
      · dsimp only at isRaised ⊢
        split at isRaised
        · by_cases here : other = call.conversationRef
          · subst here
            rw [Function.update_self] at isRaised
            cases isRaised
          · rw [Function.update_of_ne here] at isRaised
            exact sound.raised other turn isRaised
        · exact sound.raised other turn isRaised
  | takes conversation idle =>
      rw [nextTurn_eq]
      exact sound.leave conversation false fun impossible => Bool.noConfusion impossible
  | enters conversation turn stage free =>
      exact sound.moveOn conversation (.begins turn) rfl rfl rfl
        fun _ impossible => WorkerStage.noConfusion impossible
  | activates conversation turn stage =>
      exact sound.moveOn conversation (.executes turn) rfl rfl rfl
        fun _ impossible => WorkerStage.noConfusion impossible
  | concludes conversation turn raised outcome stage done shut =>
      refine sound.moveOn conversation (.ends turn raised) rfl rfl rfl fun _ isRaised => ?_
      cases isRaised
      exact shut rfl
  | succeeds conversation turn result stage isResult =>
      refine sound.moveOn conversation (.ends turn false) rfl rfl rfl fun _ isRaised => ?_
      cases isRaised
  | finishes conversation turn raised stage =>
      have released : (c.release conversation turn).ServedSound := by
        rw [release_eq]
        exact ⟨sound.served, sound.raised⟩
      refine released.leave conversation raised fun isRaised => ?_
      rw [release_eq]
      subst isRaised
      exact sound.raised conversation turn stage
  | abandons conversation turn raised stage shut => exact stopped shut
  | drops conversation stage isStage isOutside shut => exact stopped shut
  | interruptsQueued conversation turn rest value inactive queue =>
      refine ⟨fun other running filled => ?_, sound.raised⟩
      change Function.update c.queues conversation rest other ≠ [] at filled
      by_cases here : other = conversation
      · subst here
        refine sound.served other running ?_
        rw [queue]
        exact List.cons_ne_nil _ _
      · rw [Function.update_of_ne here] at filled
        exact sound.served other running filled
  | interruptsWaiting conversation turn value inactive empty waiting =>
      exact ⟨sound.served, sound.raised⟩
  | shutsDown => exact stopped rfl

end ServedSound

/-! ### All invariants -/

/-- What holds of the coordinator after every permitted run. -/
structure Sound (c : Coordinator) : Prop where
  lane : c.LaneSound
  order : c.OrderSound
  requests : c.RequestSound
  claims : c.ClaimSound
  served : c.ServedSound

theorem Sound.empty (driverEpoch : Int) : (Coordinator.empty driverEpoch).Sound := by
  have nobody : ∀ (see : WorkerStage → Option Nat) other turn,
      ((Coordinator.empty driverEpoch).workers other).bind see ≠ some turn :=
    fun _ _ _ impossible => by cases impossible
  have absent : ∀ turn, ¬(Coordinator.empty driverEpoch).Present turn := by
    rintro turn ⟨other, member | isHeld⟩
    · cases member
    · cases isHeld
  refine ⟨⟨?_, ?_⟩, ⟨?_, ?_, ?_, ?_, ?_, ?_⟩, ⟨?_, ?_, ?_, ?_, ?_, ?_, ?_, ?_, ?_⟩,
    ⟨?_, ?_, ?_, ?_, ?_, ?_, ?_, ?_⟩, ⟨?_, ?_⟩⟩
  · exact fun _ impossible => Bool.noConfusion impossible
  · exact fun _ _ impossible => Bool.noConfusion impossible
  · exact fun _ => List.Pairwise.nil
  · exact fun _ _ member => by cases member
  · exact fun other turn isHeld => absurd isHeld (nobody _ other turn)
  · exact fun _ member => by cases member
  · exact List.Pairwise.nil
  · exact fun _ _ member => by cases member
  · exact fun _ _ member => by cases member
  · exact fun other turn isHeld => absurd isHeld (nobody _ other turn)
  · exact fun turn isPresent => absurd isPresent (absent turn)
  · exact fun first _ isPresent => absurd isPresent (absent first)
  · exact fun _ _ impossible => by cases impossible
  · exact fun _ impossible => absurd impossible (Nat.not_lt_zero _)
  · exact fun _ impossible => by cases impossible
  · exact fun _ _ _ impossible => by cases impossible
  · exact fun _ _ impossible => by cases impossible
  · rintro index requestId ⟨call, token, impossible, _⟩
    cases impossible
  · rintro first second requestId ⟨call, token, impossible, _⟩
    cases impossible
  · rintro index requestId ⟨call, token, impossible, _⟩
    cases impossible
  · exact fun _ _ _ impossible => by cases impossible
  · exact fun _ member => by cases member
  · exact fun _ member => by cases member
  · exact fun turn isDue => absurd isDue.present (absent turn)
  · exact List.Pairwise.nil
  · exact fun _ _ filled => absurd rfl filled
  · exact fun _ _ impossible => by cases impossible

theorem Sound.atom {c c' : Coordinator} (sound : c.Sound) (atom : Atom c c') : c'.Sound :=
  ⟨sound.lane.atom atom, sound.order.atom atom, sound.requests.atom sound.order sound.claims atom,
    sound.claims.atom sound.requests sound.order atom, sound.served.atom atom⟩

theorem Sound.atoms {c c' : Coordinator} (sound : c.Sound) (atoms : Atoms c c') : c'.Sound := by
  induction atoms with
  | refl => exact sound
  | tail _ atom ih => exact ih.atom atom

end Coordinator

end Loom
