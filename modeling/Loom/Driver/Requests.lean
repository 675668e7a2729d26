import Loom.Driver.Invariants
import Mathlib.Data.List.GetD

/-!
# Requests and their turns

A turn that waits for its result is the one that `_pending_by_request` names (`RequestSound`): what
workers, `submit` and `interrupt` do to turns keeps it so.
-/

namespace Loom

namespace Coordinator

/-! ### Pending turns -/

/-- A turn that waits for its result is the one that is pending for its request. -/
structure RequestSound (c : Coordinator) : Prop where
  live : ∀ conversation, ∀ turn ∈ c.queues conversation, (c.turn turn).cancelled = false
  apart : ∀ conversation turn, c.held? conversation = some turn → ∀ other, turn ∉ c.queues other
  named : ∀ turn, c.Present turn → c.pendingByRequest (c.request turn) =
    if (c.turn turn).cancelled then none else some turn
  single : ∀ first second, c.Present first → c.Present second →
    c.request first = c.request second → first = second
  known : ∀ requestId turn, c.pendingByRequest requestId = some turn →
    turn < c.turns.length ∧ c.request turn = requestId
  unresolved : ∀ turn < c.turns.length, (c.turn turn).future.done = false →
    c.pendingByRequest (c.request turn) = some turn
  resolved : ∀ turn, (c.turn turn).cancelled = true → (c.turn turn).future.done = true
  settled : ∀ conversation turn raised, c.workers conversation = some (.ends turn raised) →
    (c.turn turn).future.done = true
  waits : ∀ conversation turn, c.waiting conversation = some turn → c.home turn = conversation ∧
    (c.turn turn).cancelled = false ∧ (∀ other, turn ∉ c.queues other) ∧
    c.pendingByRequest (c.request turn) = some turn

/-- Queues and pending requests are the same, and of the turns futures alone have changed. -/
structure SameTurns (c c' : Coordinator) : Prop where
  length : c'.turns.length = c.turns.length
  request : ∀ turn, c'.request turn = c.request turn
  home : ∀ turn, c'.home turn = c.home turn
  cancelled : ∀ turn, (c'.turn turn).cancelled = (c.turn turn).cancelled
  done : ∀ turn, (c.turn turn).future.done = true → (c'.turn turn).future.done = true
  queues : c'.queues = c.queues
  pending : c'.pendingByRequest = c.pendingByRequest

namespace SameTurns

variable {c c' : Coordinator}

theorem of_eq (turns : c'.turns = c.turns) (queues : c'.queues = c.queues)
    (pending : c'.pendingByRequest = c.pendingByRequest) : c.SameTurns c' := by
  have same : ∀ turn, c'.turn turn = c.turn turn := by
    intro turn
    unfold Coordinator.turn
    rw [turns]
  refine ⟨congrArg List.length turns, fun turn => ?_, fun turn => ?_, fun turn => ?_,
    fun turn isDone => ?_, queues, pending⟩
  · exact congrArg PendingTurn.requestId (same turn)
  · exact congrArg PendingTurn.conversationRef (same turn)
  · exact congrArg PendingTurn.cancelled (same turn)
  · rw [same]
    exact isDone

theorem of_settle (turn : Nat) (outcome : Future) (turns : c'.turns = (c.settle turn outcome).turns)
    (queues : c'.queues = c.queues) (pending : c'.pendingByRequest = c.pendingByRequest) :
    c.SameTurns c' := by
  have same : ∀ other, c'.turn other = (c.settle turn outcome).turn other := by
    intro other
    unfold Coordinator.turn
    rw [turns]
  refine ⟨(congrArg List.length turns).trans (length_settle c turn outcome), fun other => ?_,
    fun other => ?_, fun other => ?_, fun other isDone => ?_, queues, pending⟩
  · exact (congrArg PendingTurn.requestId (same other)).trans (request_settle c turn other outcome)
  · exact (congrArg PendingTurn.conversationRef (same other)).trans
      (home_settle c turn other outcome)
  · exact (congrArg PendingTurn.cancelled (same other)).trans
      (cancelled_settle c turn other outcome)
  · rw [same]
    exact done_settle c turn outcome isDone

theorem present (same : c.SameTurns c')
    (helds : ∀ conversation turn, c'.held? conversation = some turn →
      c.held? conversation = some turn) {turn : Nat} (present : c'.Present turn) :
    c.Present turn := by
  obtain ⟨conversation, queued | isHeld⟩ := present
  · rw [same.queues] at queued
    exact ⟨conversation, Or.inl queued⟩
  · exact ⟨conversation, Or.inr (helds conversation turn isHeld)⟩

end SameTurns

namespace RequestSound

variable {c c' : Coordinator}

/-- Workers move on, and may let go of their turns. -/
theorem letGo (sound : c.RequestSound) (same : c.SameTurns c')
    (helds : ∀ conversation turn, c'.held? conversation = some turn →
      c.held? conversation = some turn)
    (ends : ∀ conversation turn raised, c'.workers conversation = some (.ends turn raised) →
      (c'.turn turn).future.done = true)
    (waits : ∀ conversation turn, c'.waiting conversation = some turn →
      c.waiting conversation = some turn) : c'.RequestSound := by
  have present : ∀ turn, c'.Present turn → c.Present turn := fun _ => same.present helds
  refine ⟨?_, ?_, ?_, ?_, ?_, ?_, ?_, ends, ?_⟩
  · intro conversation turn member
    rw [same.queues] at member
    rw [same.cancelled]
    exact sound.live conversation turn member
  · intro conversation turn isHeld other
    rw [same.queues]
    exact sound.apart conversation turn (helds conversation turn isHeld) other
  · intro turn isPresent
    rw [same.pending, same.request, same.cancelled]
    exact sound.named turn (present turn isPresent)
  · intro first second one two
    rw [same.request, same.request]
    exact sound.single first second (present first one) (present second two)
  · intro requestId turn isPending
    rw [same.pending] at isPending
    rw [same.length, same.request]
    exact sound.known requestId turn isPending
  · intro turn isKnown unsettled
    rw [same.length] at isKnown
    rw [same.pending, same.request]
    refine sound.unresolved turn isKnown ?_
    by_contra isDone
    rw [same.done turn (by simpa using isDone)] at unsettled
    cases unsettled
  · intro turn isCancelled
    rw [same.cancelled] at isCancelled
    exact same.done turn (sound.resolved turn isCancelled)
  · intro conversation turn isWaiting
    rw [same.home, same.cancelled, same.queues, same.pending, same.request]
    exact sound.waits conversation turn (waits conversation turn isWaiting)

/-- A turn is over: its request is pending no more. -/
theorem retire (sound : c.RequestSound) (turn : Nat)
    (length : c'.turns.length = c.turns.length)
    (requests : ∀ other, c'.request other = c.request other)
    (homes : ∀ other, c'.home other = c.home other)
    (cancelled : ∀ other, other ≠ turn → (c'.turn other).cancelled = (c.turn other).cancelled)
    (dones : ∀ other, (c.turn other).future.done = true → (c'.turn other).future.done = true)
    (isDone : (c'.turn turn).future.done = true)
    (mine : ∀ other, c.pendingByRequest (c.request turn) = some other → other = turn)
    (pending : c'.pendingByRequest = Function.update c.pendingByRequest (c.request turn) none)
    (queues : ∀ conversation, ∀ other ∈ c'.queues conversation,
      other ∈ c.queues conversation ∧ other ≠ turn)
    (helds : ∀ conversation other, c'.held? conversation = some other →
      c.held? conversation = some other)
    (gone : ∀ conversation, c'.held? conversation = some turn → (c'.turn turn).cancelled = true)
    (ends : ∀ conversation other raised, c'.workers conversation = some (.ends other raised) →
      c.workers conversation = some (.ends other raised))
    (waits : ∀ conversation other, c'.waiting conversation = some other →
      c.waiting conversation = some other ∧ other ≠ turn) : c'.RequestSound := by
  have present : ∀ other, c'.Present other → c.Present other := by
    intro other isPresent
    obtain ⟨conversation, queued | isHeld⟩ := isPresent
    · exact ⟨conversation, Or.inl (queues conversation other queued).1⟩
    · exact ⟨conversation, Or.inr (helds conversation other isHeld)⟩
  -- What is pending for another turn is not popped.
  have kept : ∀ other, other ≠ turn → c.pendingByRequest (c.request other) = some other →
      c'.pendingByRequest (c.request other) = some other := by
    intro other differs isPending
    rw [pending, Function.update_of_ne]
    · exact isPending
    · intro same
      rw [same] at isPending
      exact differs (mine other isPending)
  refine ⟨?_, ?_, ?_, ?_, ?_, ?_, ?_, ?_, ?_⟩
  · intro conversation other member
    obtain ⟨queued, differs⟩ := queues conversation other member
    rw [cancelled other differs]
    exact sound.live conversation other queued
  · intro conversation other isHeld elsewhere member
    exact sound.apart conversation other (helds conversation other isHeld) elsewhere
      (queues elsewhere other member).1
  · intro other isPresent
    rw [requests]
    by_cases same : other = turn
    · subst same
      rw [pending, Function.update_self]
      obtain ⟨conversation, queued | isHeld⟩ := isPresent
      · exact absurd rfl (queues conversation other queued).2
      · rw [gone conversation isHeld]
        rfl
    · have named := sound.named other (present other isPresent)
      rw [cancelled other same]
      cases isCancelled : (c.turn other).cancelled with
      | false =>
          rw [isCancelled] at named
          exact kept other same named
      | true =>
          rw [isCancelled] at named
          rw [pending]
          by_cases shared : c.request other = c.request turn
          · rw [shared, Function.update_self]
            rfl
          · rw [Function.update_of_ne shared]
            exact named
  · intro first second one two shared
    rw [requests, requests] at shared
    exact sound.single first second (present first one) (present second two) shared
  · intro requestId other isPending
    rw [pending] at isPending
    rw [length, requests]
    by_cases same : requestId = c.request turn
    · subst same
      rw [Function.update_self] at isPending
      cases isPending
    · rw [Function.update_of_ne same] at isPending
      exact sound.known requestId other isPending
  · intro other isKnown unsettled
    rw [length] at isKnown
    rw [requests]
    refine kept other (fun same => ?_) (sound.unresolved other isKnown ?_)
    · rw [same, isDone] at unsettled
      cases unsettled
    · by_contra wasDone
      rw [dones other (by simpa using wasDone)] at unsettled
      cases unsettled
  · intro other isCancelled
    by_cases same : other = turn
    · rw [same]
      exact isDone
    · rw [cancelled other same] at isCancelled
      exact dones other (sound.resolved other isCancelled)
  · intro conversation other raised isEnding
    exact dones other (sound.settled conversation other raised
      (ends conversation other raised isEnding))
  · intro conversation other isWaiting
    obtain ⟨wasWaiting, differs⟩ := waits conversation other isWaiting
    obtain ⟨isHome, uncancelled, unqueued, isPending⟩ := sound.waits conversation other wasWaiting
    refine ⟨(homes other).trans isHome, (cancelled other differs).trans uncancelled,
      fun elsewhere member => unqueued elsewhere (queues elsewhere other member).1, ?_⟩
    rw [requests]
    exact kept other differs isPending

/-- The first turn of a queue passes to the worker of the conversation. -/
theorem take (sound : c.RequestSound) (order : c.OrderSound) {conversation : String} {first : Nat}
    {rest : List Nat} (queue : c.queues conversation = first :: rest) :
    Coordinator.RequestSound { c with
      queues := Function.update c.queues conversation rest
      waiting := Function.update c.waiting conversation (some first)
      workers := Function.update c.workers conversation (some (.lane first)) } := by
  have lined : ∀ other, ∀ turn ∈ c.queues other, c.home turn = other := by
    intro other turn member
    exact (order.homed other turn (List.mem_append_right _ member)).2
  have isQueued : first ∈ c.queues conversation := by
    rw [queue]
    exact List.mem_cons_self
  have uncancelled : (c.turn first).cancelled = false := sound.live conversation first isQueued
  have shorter : ∀ other turn, turn ∈ Function.update c.queues conversation rest other →
      turn ∈ c.queues other := by
    intro other turn member
    by_cases same : other = conversation
    · subst same
      rw [Function.update_self] at member
      rw [queue]
      exact List.mem_cons_of_mem _ member
    · rwa [Function.update_of_ne same] at member
  have once : ∀ other, first ∉ Function.update c.queues conversation rest other := by
    intro other member
    by_cases same : other = conversation
    · subst same
      rw [Function.update_self] at member
      have sorted := (order.sorted other).sublist (List.sublist_append_right _ _)
      rw [queue] at sorted
      exact absurd ((List.pairwise_cons.1 sorted).1 first member) (Nat.lt_irrefl _)
    · have isHome := lined other first (shorter other first member)
      exact same (isHome.symm.trans (lined conversation first isQueued))
  have helds : ∀ other turn, (Function.update c.workers conversation (some (.lane first))
      other).bind WorkerStage.holds? = some turn → turn = first ∨ c.held? other = some turn := by
    intro other turn isHeld
    by_cases same : other = conversation
    · subst same
      rw [Function.update_self] at isHeld
      cases isHeld
      exact Or.inl rfl
    · rw [Function.update_of_ne same] at isHeld
      exact Or.inr isHeld
  have present : ∀ turn, Coordinator.Present { c with
      queues := Function.update c.queues conversation rest
      waiting := Function.update c.waiting conversation (some first)
      workers := Function.update c.workers conversation (some (.lane first)) } turn →
        c.Present turn := by
    intro turn isPresent
    obtain ⟨other, queued | isHeld⟩ := isPresent
    · exact ⟨other, Or.inl (shorter other turn queued)⟩
    · rcases helds other turn isHeld with rfl | wasHeld
      · exact ⟨conversation, Or.inl isQueued⟩
      · exact ⟨other, Or.inr wasHeld⟩
  refine ⟨?_, ?_, ?_, ?_, sound.known, sound.unresolved, sound.resolved, ?_, ?_⟩
  · intro other turn member
    exact sound.live other turn (shorter other turn member)
  · intro other turn isHeld elsewhere member
    rcases helds other turn isHeld with rfl | wasHeld
    · exact once elsewhere member
    · exact sound.apart other turn wasHeld elsewhere (shorter elsewhere turn member)
  · intro turn isPresent
    exact sound.named turn (present turn isPresent)
  · intro earlier later one two
    exact sound.single earlier later (present earlier one) (present later two)
  · intro other turn raised isEnding
    dsimp only at isEnding
    by_cases same : other = conversation
    · subst same
      rw [Function.update_self] at isEnding
      cases isEnding
    · rw [Function.update_of_ne same] at isEnding
      exact sound.settled other turn raised isEnding
  · intro other turn isWaiting
    dsimp only at isWaiting
    by_cases same : other = conversation
    · subst same
      rw [Function.update_self] at isWaiting
      cases isWaiting
      have named := sound.named first ⟨other, Or.inl isQueued⟩
      rw [uncancelled] at named
      exact ⟨lined other first isQueued, uncancelled, once, named⟩
    · rw [Function.update_of_ne same] at isWaiting
      obtain ⟨isHome, isLive, unqueued, isPending⟩ := sound.waits other turn isWaiting
      exact ⟨isHome, isLive, fun elsewhere member =>
        unqueued elsewhere (shorter elsewhere turn member), isPending⟩

/-- A worker takes the first turn of its queue, or ends. -/
theorem leave (sound : c.RequestSound) (order : c.OrderSound) (conversation : String)
    (raised : Bool) : (c.leave conversation raised).RequestSound := by
  have ended : (c.setWorker conversation none).RequestSound := by
    refine sound.letGo (.of_eq rfl rfl rfl) ?_ ?_ fun _ _ isWaiting => isWaiting
    · intro other turn isHeld
      unfold held? setWorker at isHeld
      dsimp only at isHeld
      by_cases same : other = conversation
      · subst same
        rw [Function.update_self] at isHeld
        cases isHeld
      · rwa [Function.update_of_ne same] at isHeld
    · intro other turn raised isEnding
      unfold setWorker at isEnding
      dsimp only at isEnding
      by_cases same : other = conversation
      · subst same
        rw [Function.update_self] at isEnding
        cases isEnding
      · rw [Function.update_of_ne same] at isEnding
        exact sound.settled other turn raised isEnding
  unfold Coordinator.leave nextTurn
  split
  · exact ended
  · split
    · exact ended
    · cases queue : c.queues conversation with
      | nil => exact ended
      | cons first rest => exact sound.take order queue

/-- A new turn of a request that has none. -/
theorem enqueue (sound : c.RequestSound) (order : c.OrderSound) (index : Nat) (call : Submitter)
    (claimToken : String) (unpending : c.pendingByRequest call.requestId = none)
    (absent : ∀ turn, c.Present turn → c.request turn ≠ call.requestId) :
    (c.enqueue index call claimToken).RequestSound := by
  have pending : (c.enqueue index call claimToken).pendingByRequest =
      Function.update c.pendingByRequest call.requestId (some c.turns.length) := by
    rw [enqueue_eq]
  have length : (c.enqueue index call claimToken).turns.length = c.turns.length + 1 := by
    rw [enqueue_eq]
    exact List.length_append
  have old : ∀ turn, turn < c.turns.length →
      (c.enqueue index call claimToken).turn turn = c.turn turn :=
    fun turn isOld => turn_enqueue c index call claimToken isOld
  have oldRequest : ∀ turn, turn < c.turns.length →
      (c.enqueue index call claimToken).request turn = c.request turn :=
    fun turn isOld => congrArg PendingTurn.requestId (old turn isOld)
  have new := turn_enqueue_self c index call claimToken
  have newRequest : (c.enqueue index call claimToken).request c.turns.length = call.requestId :=
    congrArg PendingTurn.requestId new
  have queued : ∀ other turn, turn ∈ (c.enqueue index call claimToken).queues other →
      turn = c.turns.length ∨ turn ∈ c.queues other := by
    intro other turn member
    rw [queues_enqueue] at member
    by_cases same : other = call.conversationRef
    · subst same
      rw [Function.update_self] at member
      rcases List.mem_append.1 member with isOld | isNew
      · exact Or.inr isOld
      · exact Or.inl (List.mem_singleton.1 isNew)
    · rw [Function.update_of_ne same] at member
      exact Or.inr member
  have held : ∀ other turn, (c.enqueue index call claimToken).held? other = some turn →
      c.held? other = some turn := by
    intro other turn isHeld
    unfold held? at isHeld
    rwa [stage_enqueue c index call claimToken rfl] at isHeld
  have homed : ∀ other, ∀ turn ∈ c.queues other, turn < c.turns.length :=
    fun other turn member => (order.homed other turn (List.mem_append_right _ member)).1
  have present : ∀ turn, (c.enqueue index call claimToken).Present turn →
      turn = c.turns.length ∨ c.Present turn ∧ turn < c.turns.length := by
    intro turn isPresent
    obtain ⟨other, member | isHeld⟩ := isPresent
    · rcases queued other turn member with isNew | isOld
      · exact Or.inl isNew
      · exact Or.inr ⟨⟨other, Or.inl isOld⟩, homed other turn isOld⟩
    · have wasHeld := held other turn isHeld
      exact Or.inr ⟨⟨other, Or.inr wasHeld⟩, (order.held other turn wasHeld).1⟩
  have kept : ∀ turn, turn < c.turns.length → c.request turn ≠ call.requestId →
      (c.enqueue index call claimToken).pendingByRequest
        ((c.enqueue index call claimToken).request turn) = c.pendingByRequest (c.request turn) := by
    intro turn isOld differs
    rw [pending, oldRequest turn isOld, Function.update_of_ne differs]
  have unshared : ∀ turn, c.pendingByRequest (c.request turn) = some turn →
      c.request turn ≠ call.requestId := by
    intro turn isPending same
    rw [same, unpending] at isPending
    cases isPending
  refine ⟨?_, ?_, ?_, ?_, ?_, ?_, ?_, ?_, ?_⟩
  · intro other turn member
    rcases queued other turn member with rfl | isOld
    · rw [new]
      rfl
    · rw [old turn (homed other turn isOld)]
      exact sound.live other turn isOld
  · intro other turn isHeld elsewhere member
    have wasHeld := held other turn isHeld
    rcases queued elsewhere turn member with rfl | isOld
    · exact absurd (order.held other _ wasHeld).1 (Nat.lt_irrefl _)
    · exact sound.apart other turn wasHeld elsewhere isOld
  · intro turn isPresent
    rcases present turn isPresent with rfl | ⟨wasPresent, isOld⟩
    · rw [newRequest, pending, Function.update_self, new]
      rfl
    · rw [kept turn isOld (absent turn wasPresent), old turn isOld]
      exact sound.named turn wasPresent
  · intro first second one two shared
    rcases present first one with rfl | ⟨wasFirst, firstOld⟩
    · rcases present second two with rfl | ⟨wasSecond, secondOld⟩
      · rfl
      · rw [newRequest, oldRequest second secondOld] at shared
        exact absurd shared.symm (absent second wasSecond)
    · rcases present second two with rfl | ⟨wasSecond, secondOld⟩
      · rw [newRequest, oldRequest first firstOld] at shared
        exact absurd shared (absent first wasFirst)
      · rw [oldRequest first firstOld, oldRequest second secondOld] at shared
        exact sound.single first second wasFirst wasSecond shared
  · intro requestId turn isPending
    rw [pending] at isPending
    rw [length]
    by_cases same : requestId = call.requestId
    · subst same
      rw [Function.update_self] at isPending
      cases isPending
      exact ⟨Nat.lt_succ_self _, newRequest⟩
    · rw [Function.update_of_ne same] at isPending
      obtain ⟨isOld, isRequest⟩ := sound.known requestId turn isPending
      exact ⟨by omega, (oldRequest turn isOld).trans isRequest⟩
  · intro turn isKnown unsettled
    rw [length] at isKnown
    by_cases isOld : turn < c.turns.length
    · rw [old turn isOld] at unsettled
      have isPending := sound.unresolved turn isOld unsettled
      rw [kept turn isOld (unshared turn isPending)]
      exact isPending
    · obtain rfl : turn = c.turns.length := by omega
      rw [newRequest, pending, Function.update_self]
  · intro turn isCancelled
    by_cases isOld : turn < c.turns.length
    · rw [old turn isOld] at isCancelled ⊢
      exact sound.resolved turn isCancelled
    · by_cases isNew : turn = c.turns.length
      · subst isNew
        rw [new] at isCancelled
        cases isCancelled
      · have unknown : (c.enqueue index call claimToken).turns.length ≤ turn := by omega
        unfold Coordinator.turn at isCancelled
        rw [List.getD_eq_default _ _ unknown] at isCancelled
        cases isCancelled
  · intro other turn raised isEnding
    have wasEnding : c.workers other = some (.ends turn raised) := by
      rw [enqueue_eq] at isEnding
      dsimp only at isEnding
      split at isEnding
      · rename_i free
        by_cases same : other = call.conversationRef
        · subst same
          rw [Function.update_self] at isEnding
          cases isEnding
        · rwa [Function.update_of_ne same] at isEnding
      · exact isEnding
    have isOld := (order.held other turn (by unfold held?; rw [wasEnding]; rfl)).1
    rw [old turn isOld]
    exact sound.settled other turn raised wasEnding
  · intro other turn isWaiting
    have wasWaiting : c.waiting other = some turn := by
      rw [enqueue_eq] at isWaiting
      exact isWaiting
    obtain ⟨isHome, isLive, unqueued, isPending⟩ := sound.waits other turn wasWaiting
    have isOld := (sound.known _ turn isPending).1
    refine ⟨?_, ?_, fun elsewhere member => ?_, ?_⟩
    · exact (congrArg PendingTurn.conversationRef (old turn isOld)).trans isHome
    · rw [old turn isOld]
      exact isLive
    · rcases queued elsewhere turn member with rfl | wasQueued
      · exact absurd isOld (Nat.lt_irrefl _)
      · exact unqueued elsewhere wasQueued
    · rw [kept turn isOld (unshared turn isPending)]
      exact isPending

/-- The worker of a conversation moves on with its turn, or lets go of it. -/
theorem moveOn (sound : c.RequestSound) (same : c.SameTurns c') (conversation : String)
    (stage : Option WorkerStage)
      (workers : c'.workers = Function.update c.workers conversation stage)
    (helds : ∀ turn, stage.bind WorkerStage.holds? = some turn → c.held? conversation = some turn)
    (ends : ∀ turn raised, stage = some (.ends turn raised) → (c'.turn turn).future.done = true)
    (waits : ∀ other turn, c'.waiting other = some turn → c.waiting other = some turn) :
    c'.RequestSound := by
  refine sound.letGo same ?_ ?_ waits
  · intro other turn isHeld
    unfold held? at isHeld
    rw [workers] at isHeld
    by_cases here : other = conversation
    · subst here
      rw [Function.update_self] at isHeld
      exact helds turn isHeld
    · rw [Function.update_of_ne here] at isHeld
      exact isHeld
  · intro other turn raised isEnding
    rw [workers] at isEnding
    by_cases here : other = conversation
    · subst here
      rw [Function.update_self] at isEnding
      exact ends turn raised isEnding
    · rw [Function.update_of_ne here] at isEnding
      exact same.done turn (sound.settled other turn raised isEnding)

/-- A worker that is done with its turn pops the request and lets go of the turn. -/
theorem release (sound : c.RequestSound) (order : c.OrderSound) {conversation : String} {turn : Nat}
    {raised : Bool} (stage : c.workers conversation = some (.ends turn raised)) :
    ((c.release conversation turn).setWorker conversation none).RequestSound := by
  have isHeld : c.held? conversation = some turn := by
    unfold held?
    rw [stage]
    rfl
  have isHome := (order.held conversation turn isHeld).2
  have named := sound.named turn ⟨conversation, Or.inr isHeld⟩
  rw [release_eq]
  refine sound.retire turn rfl (fun _ => rfl) (fun _ => rfl) (fun _ _ => rfl)
    (fun _ isDone => isDone)
    (sound.settled conversation turn raised stage) ?_ rfl ?_ ?_ ?_ ?_ ?_
  · intro other isPending
    rw [named] at isPending
    split at isPending
    · cases isPending
    · cases isPending
      rfl
  · intro other queued member
    refine ⟨member, fun same => ?_⟩
    rw [same] at member
    exact sound.apart conversation turn isHeld other member
  · intro other held now
    change (Function.update c.workers conversation none other).bind WorkerStage.holds? = _ at now
    by_cases here : other = conversation
    · subst here
      rw [Function.update_self] at now
      cases now
    · rw [Function.update_of_ne here] at now
      exact now
  · intro other now
    change (Function.update c.workers conversation none other).bind WorkerStage.holds? = _ at now
    by_cases here : other = conversation
    · subst here
      rw [Function.update_self] at now
      cases now
    · rw [Function.update_of_ne here] at now
      exact absurd ((order.held other turn now).2.symm.trans isHome) here
  · intro other held raised now
    change Function.update c.workers conversation none other = _ at now
    by_cases here : other = conversation
    · subst here
      rw [Function.update_self] at now
      cases now
    · rw [Function.update_of_ne here] at now
      exact now
  · intro other waiting now
    change (if c.waiting conversation = some turn then
      Function.update c.waiting conversation none else c.waiting) other = some waiting at now
    have wasWaiting : c.waiting other = some waiting := by
      split at now
      · by_cases here : other = conversation
        · subst here
          rw [Function.update_self] at now
          cases now
        · rwa [Function.update_of_ne here] at now
      · exact now
    refine ⟨wasWaiting, fun same => ?_⟩
    subst same
    have here : other = conversation := (sound.waits other waiting wasWaiting).1.symm.trans isHome
    subst here
    rw [if_pos wasWaiting, Function.update_self] at now
    cases now

/-- A queued turn is interrupted. -/
theorem interruptQueued (sound : c.RequestSound) (order : c.OrderSound) {conversation : String}
    {turn : Nat} {rest : List Nat} (value : Json) (queue : c.queues conversation = turn :: rest)
    (turns : c'.turns = (c.settle turn (.result value)).turns)
    (queues : c'.queues = Function.update c.queues conversation rest)
    (pending : c'.pendingByRequest = Function.update c.pendingByRequest (c.request turn) none)
    (workers : c'.workers = c.workers) (waiting : c'.waiting = c.waiting) : c'.RequestSound := by
  have isQueued : turn ∈ c.queues conversation := by
    rw [queue]
    exact List.mem_cons_self
  have homed := order.homed conversation turn (List.mem_append_right _ isQueued)
  have named := sound.named turn ⟨conversation, Or.inl isQueued⟩
  rw [sound.live conversation turn isQueued] at named
  have same : c.SameTurns { c' with queues := c.queues, pendingByRequest := c.pendingByRequest } :=
    .of_settle turn (.result value) turns rfl rfl
  have unheld : ∀ other, c'.held? other ≠ some turn := by
    intro other isHeld
    unfold held? at isHeld
    rw [workers] at isHeld
    exact sound.apart other turn isHeld conversation isQueued
  refine sound.retire turn same.length same.request same.home (fun other _ => same.cancelled other)
    same.done ?_ ?_ pending ?_ ?_ (fun other isHeld => absurd isHeld (unheld other)) ?_ ?_
  · have settled := @done_settle_self c _ homed.1 (.result value) rfl
    unfold Coordinator.turn at settled ⊢
    rw [turns]
    exact settled
  · intro other isPending
    rw [named] at isPending
    cases isPending
    rfl
  · intro other queued member
    rw [queues] at member
    by_cases here : other = conversation
    · subst here
      rw [Function.update_self] at member
      have sorted := (order.sorted other).sublist (List.sublist_append_right _ _)
      rw [queue] at sorted
      have later := (List.pairwise_cons.1 sorted).1 queued member
      rw [queue]
      exact ⟨List.mem_cons_of_mem _ member, by omega⟩
    · rw [Function.update_of_ne here] at member
      refine ⟨member, fun isSame => ?_⟩
      rw [isSame] at member
      exact here ((order.homed other turn (List.mem_append_right _ member)).2.symm.trans homed.2)
  · intro other held isHeld
    unfold held? at isHeld ⊢
    rwa [workers] at isHeld
  · intro other held raised isEnding
    rwa [workers] at isEnding
  · intro other held isWaiting
    rw [waiting] at isWaiting
    refine ⟨isWaiting, fun isSame => ?_⟩
    subst isSame
    exact (sound.waits other held isWaiting).2.2.1 conversation isQueued

/-- A waiting turn is interrupted. -/
theorem interruptWaiting (sound : c.RequestSound) {conversation : String} {turn : Nat}
    (value : Json)
    (isWaiting : c.waiting conversation = some turn)
    (turns : c'.turns = (Coordinator.settle { c with
      turns := c.turns.modify turn fun pending => { pending with cancelled := true } } turn
        (.result value)).turns)
    (queues : c'.queues = c.queues)
    (pending : c'.pendingByRequest = Function.update c.pendingByRequest (c.request turn) none)
    (workers : c'.workers = c.workers)
    (waiting : c'.waiting = Function.update c.waiting conversation none) : c'.RequestSound := by
  obtain ⟨isHome, isLive, unqueued, isPending⟩ := sound.waits conversation turn isWaiting
  have isKnown := (sound.known _ turn isPending).1
  let cancelled : Coordinator :=
    { c with turns := c.turns.modify turn fun pending => { pending with cancelled := true } }
  have marked : ∀ other, cancelled.turn other =
      if turn = other ∧ other < c.turns.length then { c.turn other with cancelled := true }
      else c.turn other := getD_modify c.turns _ turn
  have same :
    cancelled.SameTurns { c' with queues := c.queues, pendingByRequest := c.pendingByRequest } :=
    .of_settle turn (.result value) turns rfl rfl
  refine sound.retire turn (same.length.trans (List.length_modify _ _ _)) ?_ ?_ ?_ ?_ ?_ ?_
    pending ?_
    ?_ ?_ ?_ ?_
  · intro other
    refine (same.request other).trans ?_
    unfold request
    rw [marked]
    split <;> rfl
  · intro other
    refine (same.home other).trans ?_
    unfold home
    rw [marked]
    split <;> rfl
  · intro other differs
    refine (same.cancelled other).trans ?_
    rw [marked, if_neg fun both => differs both.1.symm]
  · intro other isDone
    refine same.done other ?_
    rw [marked]
    split
    · exact isDone
    · exact isDone
  · have settled := @done_settle_self cancelled turn
      (by rw [List.length_modify]; exact isKnown) (.result value) rfl
    unfold Coordinator.turn at settled ⊢
    rw [turns]
    exact settled
  · intro other isOther
    rw [isPending] at isOther
    cases isOther
    rfl
  · intro other queued member
    rw [queues] at member
    refine ⟨member, fun isSame => ?_⟩
    rw [isSame] at member
    exact unqueued other member
  · intro other held isHeld
    unfold held? at isHeld ⊢
    rwa [workers] at isHeld
  · intro other isHeld
    refine (same.cancelled turn).trans ?_
    rw [marked, if_pos ⟨rfl, isKnown⟩]
  · intro other held raised isEnding
    rwa [workers] at isEnding
  · intro other held now
    rw [waiting] at now
    by_cases here : other = conversation
    · subst here
      rw [Function.update_self] at now
      cases now
    · rw [Function.update_of_ne here] at now
      refine ⟨now, fun isSame => ?_⟩
      subst isSame
      exact here ((sound.waits other held now).1.symm.trans isHome)

end RequestSound

end Coordinator

end Loom
