import Loom.Driver.Transitions
import Mathlib.Data.List.Basic

/-!
# The lane and the order of turns

The lane is held by one worker (`LaneSound`), and the turns of a conversation start in the order of
their positions (`OrderSound`): each elementary transition keeps both.
-/

namespace Loom

namespace Coordinator

/-! ### Views of the coordinator -/

def request (c : Coordinator) (turn : Nat) : String := (c.turn turn).requestId

def home (c : Coordinator) (turn : Nat) : String := (c.turn turn).conversationRef

/-- The turn that the worker of a conversation holds. -/
def held? (c : Coordinator) (conversation : String) : Option Nat :=
  (c.workers conversation).bind WorkerStage.holds?

/-- The turns of a conversation that have not started, in order. -/
def line (c : Coordinator) (conversation : String) : List Nat :=
  ((c.workers conversation).bind WorkerStage.next?).toList ++ c.queues conversation

/-- The turn is in a queue or in the hands of a worker. -/
def Present (c : Coordinator) (turn : Nat) : Prop :=
  ∃ conversation, turn ∈ c.queues conversation ∨ c.held? conversation = some turn

/-- The turn may still be executed. -/
def Due (c : Coordinator) (turn : Nat) : Prop :=
  ∃ conversation, turn ∈ c.queues conversation ∨
    (c.workers conversation).bind WorkerStage.due? = some turn

def started? : TurnEvent → Option Nat
  | .started turn => some turn
  | .succeeded _ | .interrupted _ => none

def succeeded? : TurnEvent → Option Nat
  | .succeeded turn => some turn
  | .started _ | .interrupted _ => none

/-- The turns that have started, in order. -/
def starts (c : Coordinator) : List Nat := c.log.filterMap started?

/-- The turns that have succeeded. -/
def successes (c : Coordinator) : List Nat := c.log.filterMap succeeded?

/-! ### The transitions as updates -/

section Updates

variable (c : Coordinator) (conversation : String) (turn : Nat) (raised : Bool)

theorem leave_eq : c.leave conversation raised =
    { c with
      queues := Function.update c.queues conversation (c.remaining conversation raised)
      waiting := match c.following conversation raised with
        | some turn => Function.update c.waiting conversation (some turn)
        | none => c.waiting
      workers := Function.update c.workers conversation
        ((c.following conversation raised).map WorkerStage.lane) } := by
  have unchanged : c.setWorker conversation none =
      { c with
        queues := Function.update c.queues conversation (c.queues conversation)
        workers := Function.update c.workers conversation none } := by
    rw [Function.update_eq_self]
    rfl
  unfold leave nextTurn following remaining
  by_cases stops : (raised || c.isShutdown) = true
  · simp only [stops, if_true, Option.map_none]
    split
    · exact unchanged
    · rename_i calm
      have shut : c.isShutdown = true := by simpa [calm] using stops
      rw [if_pos shut]
      exact unchanged
  · rw [Bool.or_eq_true, not_or] at stops
    rw [if_neg stops.1, if_neg stops.2]
    have goes : ¬(raised || c.isShutdown) = true := by
      rw [Bool.or_eq_true, not_or]
      exact stops
    simp only [if_neg goes]
    cases queue : c.queues conversation with
    | nil =>
        rw [queue] at unchanged
        exact unchanged
    | cons first rest => rfl

theorem nextTurn_eq : c.nextTurn conversation = c.leave conversation false := rfl

theorem release_eq : c.release conversation turn =
    { c with
      laneHeld := false
      pendingByRequest := Function.update c.pendingByRequest (c.request turn) none
      waiting := if c.waiting conversation = some turn then
          Function.update c.waiting conversation none else c.waiting } := by
  unfold release popRequest popWaiting request
  dsimp only
  split
  · rfl
  · rfl

/-- The turn at the head of the line is taken, or the worker leaves. -/
theorem line_leave (idle : (c.workers conversation).bind WorkerStage.next? = none)
    (other : String) : (c.leave conversation raised).line other = c.line other := by
  rw [leave_eq]
  unfold line
  dsimp only
  by_cases same : other = conversation
  · subst same
    rw [Function.update_self, Function.update_self, idle]
    unfold following remaining
    split
    · rfl
    · cases c.queues other with
      | nil => rfl
      | cons first rest => rfl
  · rw [Function.update_of_ne same, Function.update_of_ne same]

end Updates

/-! ### The lane -/

/-- The worker of a conversation holds the lane. -/
def inLane (c : Coordinator) (conversation : String) : Bool :=
  (c.workers conversation).any WorkerStage.inLane

/-- The lane is held by at most one worker. -/
structure LaneSound (c : Coordinator) : Prop where
  lane : ∀ conversation, c.inLane conversation = true → c.laneHeld = true
  alone : ∀ first second, c.inLane first = true → c.inLane second = true → first = second

namespace LaneSound

variable {c c' : Coordinator}

/-- A worker moves on outside of the lane, or gives it back. -/
theorem outside (sound : c.LaneSound) (conversation : String) {stage : Option WorkerStage}
    (isOutside : stage.any WorkerStage.inLane = false)
    (workers : c'.workers = Function.update c.workers conversation stage)
    (lane : c'.laneHeld = c.laneHeld ∨ c.inLane conversation = true) : c'.LaneSound := by
  have still : ∀ other, c'.inLane other = true → other ≠ conversation ∧ c.inLane other = true := by
    intro other isIn
    unfold inLane at isIn
    rw [workers] at isIn
    by_cases same : other = conversation
    · subst same
      rw [Function.update_self, isOutside] at isIn
      cases isIn
    · rw [Function.update_of_ne same] at isIn
      exact ⟨same, isIn⟩
  refine ⟨fun other isIn => ?_, fun first second one two =>
    sound.alone first second (still first one).2 (still second two).2⟩
  obtain ⟨differs, wasIn⟩ := still other isIn
  rcases lane with same | held
  · rw [same]
    exact sound.lane other wasIn
  · exact absurd (sound.alone other conversation wasIn held) differs

/-- A worker moves on in the lane. -/
theorem inside (sound : c.LaneSound) (conversation : String) {stage : WorkerStage}
    (isIn : c.inLane conversation = true)
    (workers : c'.workers = Function.update c.workers conversation (some stage))
    (lane : c'.laneHeld = c.laneHeld) : c'.LaneSound := by
  have still : ∀ other, c'.inLane other = true → c.inLane other = true := by
    intro other nowIn
    unfold inLane at nowIn
    rw [workers] at nowIn
    by_cases same : other = conversation
    · subst same
      exact isIn
    · rw [Function.update_of_ne same] at nowIn
      exact nowIn
  refine ⟨fun other nowIn => ?_, fun first second one two =>
    sound.alone first second (still first one) (still second two)⟩
  rw [lane]
  exact sound.lane other (still other nowIn)

theorem atom (sound : c.LaneSound) (atom : Atom c c') : c'.LaneSound := by
  cases atom with
  | passive active interrupters driverEpoch => exact ⟨sound.lane, sound.alone⟩
  | arrives call locking => exact ⟨sound.lane, sound.alone⟩
  | answers index call stage found locking fits => exact ⟨sound.lane, sound.alone⟩
  | resolves index call turn stage found joined outcome => exact ⟨sound.lane, sound.alone⟩
  | claims index call token found locking free unpending uncached clear =>
      exact ⟨sound.lane, sound.alone⟩
  | unclaims index call token stage completed found claiming isOver cached =>
      exact ⟨sound.lane, sound.alone⟩
  | enqueues index call token claimToken found claiming =>
      unfold enqueue
      dsimp only
      split
      · exact sound.outside call.conversationRef rfl rfl (Or.inl rfl)
      · exact ⟨sound.lane, sound.alone⟩
  | takes conversation idle =>
      rw [nextTurn_eq, leave_eq]
      refine sound.outside conversation ?_ rfl (Or.inl rfl)
      cases c.following conversation false <;> rfl
  | enters conversation turn stage free =>
      have nobody : ∀ other, c.inLane other = false := by
        intro other
        by_contra isIn
        have held := sound.lane other (by simpa using isIn)
        rw [free] at held
        cases held
      have only : ∀ other, ({ c with laneHeld := true }.setWorker conversation
          (some (.begins turn))).inLane other = true → other = conversation := by
        intro other isIn
        by_contra differs
        have isIn : (Function.update c.workers conversation (some (.begins turn)) other).any
          WorkerStage.inLane = true := isIn
        rw [Function.update_of_ne differs] at isIn
        have outside := nobody other
        unfold inLane at outside
        rw [isIn] at outside
        cases outside
      exact ⟨fun _ _ => rfl, fun first second one two =>
        (only first one).trans (only second two).symm⟩
  | activates conversation turn stage =>
      refine sound.inside conversation ?_ rfl rfl
      unfold inLane
      rw [stage]
      rfl
  | concludes conversation turn raised outcome stage done shut =>
      refine sound.inside conversation ?_ rfl rfl
      unfold inLane
      rcases stage with stage | stage
      · rw [stage]
        rfl
      · rw [stage]
        rfl
  | succeeds conversation turn result stage isResult =>
      refine sound.inside conversation ?_ rfl rfl
      unfold inLane
      rw [stage]
      rfl
  | finishes conversation turn raised stage =>
      rw [leave_eq, release_eq]
      refine sound.outside conversation ?_ rfl (Or.inr ?_)
      · generalize following _ _ _ = following
        cases following <;> rfl
      · unfold inLane
        rw [stage]
        rfl
  | abandons conversation turn raised stage shut =>
      refine sound.outside conversation rfl rfl (Or.inr ?_)
      unfold inLane
      rw [stage]
      rfl
  | drops conversation stage isStage isOutside shut =>
      exact sound.outside conversation rfl rfl (Or.inl rfl)
  | interruptsQueued conversation turn rest value inactive queue =>
      exact ⟨sound.lane, sound.alone⟩
  | interruptsWaiting conversation turn value inactive empty waiting =>
      exact ⟨sound.lane, sound.alone⟩
  | shutsDown => exact ⟨sound.lane, sound.alone⟩

end LaneSound

/-! ### Turns and their positions -/

section Turns

variable (c : Coordinator)

theorem turn_settle (turn other : Nat) (outcome : Future) :
    (c.settle turn outcome).turn other =
      if turn = other ∧ other < c.turns.length then
        { c.turn other with future := (c.turn other).future.settle outcome }
      else c.turn other :=
  getD_modify c.turns _ turn other

@[simp]
theorem request_settle (turn other : Nat) (outcome : Future) :
    (c.settle turn outcome).request other = c.request other := by
  unfold request
  rw [turn_settle]
  split
  · rfl
  · rfl

@[simp]
theorem home_settle (turn other : Nat) (outcome : Future) :
    (c.settle turn outcome).home other = c.home other := by
  unfold home
  rw [turn_settle]
  split
  · rfl
  · rfl

@[simp]
theorem cancelled_settle (turn other : Nat) (outcome : Future) :
    ((c.settle turn outcome).turn other).cancelled = (c.turn other).cancelled := by
  rw [turn_settle]
  split
  · rfl
  · rfl

@[simp]
theorem length_settle (turn : Nat) (outcome : Future) :
    (c.settle turn outcome).turns.length = c.turns.length :=
  List.length_modify _ _ _

theorem done_settle (turn : Nat) (outcome : Future) {other : Nat}
    (isDone : (c.turn other).future.done = true) :
    ((c.settle turn outcome).turn other).future.done = true := by
  rw [turn_settle]
  split
  · unfold Future.settle
    rw [if_pos isDone]
    exact isDone
  · exact isDone

/-- A settled turn is done. -/
theorem done_settle_self {turn : Nat} (known : turn < c.turns.length) {outcome : Future}
    (isOutcome : outcome.done = true) :
    ((c.settle turn outcome).turn turn).future.done = true := by
  rw [turn_settle, if_pos ⟨rfl, known⟩]
  unfold Future.settle
  dsimp only
  split
  · rename_i isDone
    exact isDone
  · exact isOutcome

/-- A new turn leaves the others as they are. -/
theorem getD_append (turns : List PendingTurn) (new : PendingTurn) {other : Nat}
    (known : other < turns.length) : (turns ++ [new]).getD other default =
      turns.getD other default := by
  rw [List.getD_eq_getElem?_getD, List.getD_eq_getElem?_getD, List.getElem?_append_left known]

theorem getD_append_self (turns : List PendingTurn) (new : PendingTurn) :
    (turns ++ [new]).getD turns.length default = new := by
  rw [List.getD_eq_getElem?_getD, List.getElem?_append_right (Nat.le_refl _), Nat.sub_self]
  rfl

end Turns

/-! ### A new turn -/

section Enqueue

variable (c : Coordinator) (index : Nat) (call : Submitter) (claimToken : String)

theorem enqueue_eq : c.enqueue index call claimToken =
    { c with
      turns := c.turns ++ [call.pendingTurn claimToken]
      pendingByRequest := Function.update c.pendingByRequest call.requestId (some c.turns.length)
      queues := Function.update c.queues call.conversationRef
        (c.queues call.conversationRef ++ [c.turns.length])
      workers := if (c.workers call.conversationRef).isNone then
          Function.update c.workers call.conversationRef (some .created) else c.workers
      submitLocks := c.submitLocks.erase call.requestId
      submitters := c.submitters.modify index fun call =>
        { call with stage := .joined c.turns.length } } := by
  unfold enqueue
  dsimp only
  split
  · rfl
  · rfl

theorem queues_enqueue : (c.enqueue index call claimToken).queues = Function.update c.queues
    call.conversationRef (c.queues call.conversationRef ++ [c.turns.length]) := by
  rw [enqueue_eq]

theorem turn_enqueue {turn : Nat} (isOld : turn < c.turns.length) :
    (c.enqueue index call claimToken).turn turn = c.turn turn := by
  rw [enqueue_eq]
  exact getD_append c.turns _ isOld

theorem turn_enqueue_self :
    (c.enqueue index call claimToken).turn c.turns.length = call.pendingTurn claimToken := by
  rw [enqueue_eq]
  exact getD_append_self c.turns _

/-- A worker that is created holds no turn. -/
theorem stage_enqueue {view : WorkerStage → Option Nat} (idle : view .created = none)
    (other : String) : ((c.enqueue index call claimToken).workers other).bind view =
      (c.workers other).bind view := by
  rw [enqueue_eq]
  dsimp only
  split
  · rename_i absent
    by_cases same : other = call.conversationRef
    · subst same
      rw [Function.update_self, Option.isNone_iff_eq_none.1 absent]
      exact idle
    · rw [Function.update_of_ne same]
  · rfl

end Enqueue

/-! ### The order of turns -/

/-- Turns start in the order of their positions. -/
structure OrderSound (c : Coordinator) : Prop where
  sorted : ∀ conversation, (c.line conversation).Pairwise (· < ·)
  homed : ∀ conversation, ∀ turn ∈ c.line conversation,
    turn < c.turns.length ∧ c.home turn = conversation
  held : ∀ conversation turn, c.held? conversation = some turn →
    turn < c.turns.length ∧ c.home turn = conversation
  known : ∀ turn ∈ c.starts, turn < c.turns.length
  ordered : c.starts.Pairwise fun earlier later => c.home earlier = c.home later → earlier < later
  behind : ∀ conversation, ∀ turn ∈ c.line conversation, ∀ earlier ∈ c.starts,
    c.home earlier = conversation → earlier < turn

namespace OrderSound

variable {c c' : Coordinator}

/-- No turn starts, and the lines lose turns at most. -/
theorem shrink (sound : c.OrderSound) (length : c'.turns.length = c.turns.length)
    (homes : ∀ turn, c'.home turn = c.home turn) (starts : c'.starts = c.starts)
    (lines : ∀ conversation, (c'.line conversation).Sublist (c.line conversation))
    (helds : ∀ conversation turn, c'.held? conversation = some turn →
      c.held? conversation = some turn ∨ turn ∈ c.line conversation) : c'.OrderSound := by
  refine ⟨fun conversation => (sound.sorted conversation).sublist (lines conversation), ?_, ?_, ?_,
    ?_, ?_⟩
  · intro conversation turn member
    rw [length, homes]
    exact sound.homed conversation turn ((lines conversation).subset member)
  · intro conversation turn isHeld
    rw [length, homes]
    rcases helds conversation turn isHeld with wasHeld | member
    · exact sound.held conversation turn wasHeld
    · exact sound.homed conversation turn member
  · rw [starts, length]
    exact sound.known
  · rw [starts]
    simp only [homes]
    exact sound.ordered
  · intro conversation turn member
    rw [starts]
    simp only [homes]
    exact sound.behind conversation turn ((lines conversation).subset member)

/-- Only the worker of one conversation moves on. -/
theorem moveOn (sound : c.OrderSound) (conversation : String) (stage : Option WorkerStage)
    (length : c'.turns.length = c.turns.length) (homes : ∀ turn, c'.home turn = c.home turn)
    (starts : c'.starts = c.starts) (queues : c'.queues = c.queues)
    (workers : c'.workers = Function.update c.workers conversation stage)
    (nexts : (stage.bind WorkerStage.next?).toList.Sublist
      ((c.workers conversation).bind WorkerStage.next?).toList)
    (helds : ∀ turn, stage.bind WorkerStage.holds? = some turn →
      c.held? conversation = some turn) : c'.OrderSound := by
  refine sound.shrink length homes starts (fun other => ?_) fun other turn isHeld => Or.inl ?_
  · unfold line
    rw [queues, workers]
    by_cases same : other = conversation
    · subst same
      rw [Function.update_self]
      exact nexts.append_right _
    · rw [Function.update_of_ne same]
  · unfold held? at isHeld ⊢
    rw [workers] at isHeld
    by_cases same : other = conversation
    · subst same
      rw [Function.update_self] at isHeld
      exact helds turn isHeld
    · rwa [Function.update_of_ne same] at isHeld

theorem leave (sound : c.OrderSound) (conversation : String) (raised : Bool)
    (idle : (c.workers conversation).bind WorkerStage.next? = none) :
    (c.leave conversation raised).OrderSound := by
  refine sound.shrink ?_ ?_ ?_ (fun other => ?_) fun other turn isHeld => ?_
  · rw [leave_eq]
  · intro turn
    rw [leave_eq]
    rfl
  · rw [leave_eq]
    rfl
  · rw [line_leave c conversation raised idle]
  · rw [leave_eq] at isHeld
    unfold held? at isHeld
    dsimp only at isHeld
    by_cases same : other = conversation
    · subst same
      rw [Function.update_self] at isHeld
      right
      unfold following at isHeld
      split at isHeld
      · cases isHeld
      · cases queue : c.queues other with
        | nil =>
            rw [queue] at isHeld
            cases isHeld
        | cons first rest =>
            rw [queue] at isHeld
            cases isHeld
            unfold line
            rw [queue]
            exact List.mem_append_right _ List.mem_cons_self
    · rw [Function.update_of_ne same] at isHeld
      exact Or.inl isHeld

/-- A turn at the end of its queue. -/
theorem enqueue (sound : c.OrderSound) (index : Nat) (call : Submitter) (claimToken : String) :
    (c.enqueue index call claimToken).OrderSound := by
  have length : (c.enqueue index call claimToken).turns.length = c.turns.length + 1 := by
    rw [enqueue_eq]
    exact List.length_append
  have starts : (c.enqueue index call claimToken).starts = c.starts := by
    rw [enqueue_eq]
    rfl
  have homes : ∀ turn < c.turns.length,
      (c.enqueue index call claimToken).home turn = c.home turn := by
    intro turn isOld
    unfold home
    rw [turn_enqueue c index call claimToken isOld]
  have newHome : (c.enqueue index call claimToken).home c.turns.length = call.conversationRef := by
    unfold home
    rw [turn_enqueue_self]
    rfl
  have lines : ∀ other, (c.enqueue index call claimToken).line other =
      c.line other ++ if other = call.conversationRef then [c.turns.length] else [] := by
    intro other
    unfold line
    rw [stage_enqueue c index call claimToken rfl, queues_enqueue]
    by_cases same : other = call.conversationRef
    · subst same
      rw [Function.update_self, if_pos rfl, List.append_assoc]
    · rw [Function.update_of_ne same, if_neg same, List.append_nil]
  have members : ∀ other turn, turn ∈ (c.enqueue index call claimToken).line other →
      turn ∈ c.line other ∨ turn = c.turns.length ∧ other = call.conversationRef := by
    intro other turn member
    rw [lines] at member
    rcases List.mem_append.1 member with isOld | isNew
    · exact Or.inl isOld
    · split at isNew
      · rename_i same
        exact Or.inr ⟨List.mem_singleton.1 isNew, same⟩
      · cases isNew
  refine ⟨?_, ?_, ?_, ?_, ?_, ?_⟩
  · intro other
    rw [lines]
    refine List.pairwise_append.2 ⟨sound.sorted other, ?_, ?_⟩
    · split
      · exact List.pairwise_singleton _ _
      · exact List.Pairwise.nil
    · intro earlier isOld turn isNew
      split at isNew
      · rw [List.mem_singleton.1 isNew]
        exact (sound.homed other earlier isOld).1
      · cases isNew
  · intro other turn member
    rw [length]
    rcases members other turn member with isOld | ⟨rfl, rfl⟩
    · obtain ⟨isKnown, isHome⟩ := sound.homed other turn isOld
      exact ⟨by omega, (homes turn isKnown).trans isHome⟩
    · exact ⟨Nat.lt_succ_self _, newHome⟩
  · intro other turn isHeld
    unfold held? at isHeld
    rw [stage_enqueue c index call claimToken rfl] at isHeld
    obtain ⟨isKnown, isHome⟩ := sound.held other turn isHeld
    rw [length]
    exact ⟨by omega, (homes turn isKnown).trans isHome⟩
  · rw [starts, length]
    intro turn member
    have isKnown := sound.known turn member
    omega
  · rw [starts]
    refine sound.ordered.imp_of_mem ?_
    intro earlier later isEarlier isLater before sameHome
    rw [homes earlier (sound.known earlier isEarlier),
      homes later (sound.known later isLater)] at sameHome
    exact before sameHome
  · intro other turn member earlier isEarlier isHome
    rw [starts] at isEarlier
    have isKnown := sound.known earlier isEarlier
    rw [homes earlier isKnown] at isHome
    rcases members other turn member with isOld | ⟨rfl, rfl⟩
    · exact sound.behind other turn isOld earlier isEarlier isHome
    · exact isKnown

/-- The first turn of a line starts. -/
theorem activate (sound : c.OrderSound) {conversation : String} {turn : Nat}
    (stage : c.workers conversation = some (.begins turn)) :
    (c.activate conversation turn).OrderSound := by
  have starts : (c.activate conversation turn).starts = c.starts ++ [turn] := by
    unfold Coordinator.starts Coordinator.activate
    rw [List.filterMap_append]
    rfl
  have whole : c.line conversation = turn :: c.queues conversation := by
    unfold line
    rw [stage]
    rfl
  have rest : (c.activate conversation turn).line conversation = c.queues conversation := by
    unfold line Coordinator.activate
    dsimp only
    rw [Function.update_self]
    rfl
  have others : ∀ other, other ≠ conversation →
      (c.activate conversation turn).line other = c.line other := by
    intro other differs
    unfold line Coordinator.activate
    dsimp only
    rw [Function.update_of_ne differs]
  have sublist : ∀ other, ((c.activate conversation turn).line other).Sublist (c.line other) := by
    intro other
    by_cases same : other = conversation
    · subst same
      rw [rest, whole]
      exact List.sublist_cons_self _ _
    · rw [others other same]
  have isFirst := sound.homed conversation turn (by rw [whole]; exact List.mem_cons_self)
  refine ⟨fun other => (sound.sorted other).sublist (sublist other),
    fun other member isIn => sound.homed other member ((sublist other).subset isIn), ?_, ?_, ?_, ?_⟩
  · intro other taken isHeld
    unfold held? Coordinator.activate at isHeld
    dsimp only at isHeld
    by_cases same : other = conversation
    · subst same
      rw [Function.update_self] at isHeld
      cases isHeld
      exact isFirst
    · rw [Function.update_of_ne same] at isHeld
      exact sound.held other taken isHeld
  · rw [starts]
    intro earlier member
    rcases List.mem_append.1 member with isOld | isNew
    · exact sound.known earlier isOld
    · rw [List.mem_singleton.1 isNew]
      exact isFirst.1
  · rw [starts]
    refine List.pairwise_append.2 ⟨sound.ordered, List.pairwise_singleton _ _, ?_⟩
    intro earlier isOld later isNew sameHome
    rw [List.mem_singleton.1 isNew] at sameHome ⊢
    refine sound.behind conversation turn ?_ earlier isOld (sameHome.trans isFirst.2)
    rw [whole]
    exact List.mem_cons_self
  · intro other later member earlier isStarted isHome
    rw [starts] at isStarted
    rcases List.mem_append.1 isStarted with isOld | isNew
    · exact sound.behind other later ((sublist other).subset member) earlier isOld isHome
    · rw [List.mem_singleton.1 isNew] at isHome ⊢
      have same : other = conversation := isHome.symm.trans isFirst.2
      subst same
      rw [rest] at member
      have sorted := sound.sorted other
      rw [whole] at sorted
      exact (List.pairwise_cons.1 sorted).1 later member

theorem atom (sound : c.OrderSound) (atom : Atom c c') : c'.OrderSound := by
  have same : ∀ {after : Coordinator}, after.turns = c.turns → after.log = c.log →
      after.queues = c.queues → after.workers = c.workers → after.OrderSound := by
    intro after turns log queues workers
    have homes : ∀ turn, after.home turn = c.home turn := by
      intro turn
      unfold home Coordinator.turn
      rw [turns]
    refine sound.shrink (congrArg List.length turns) homes ?_ (fun other => ?_)
      fun other turn isHeld => Or.inl ?_
    · unfold starts
      rw [log]
    · unfold line
      rw [queues, workers]
    · unfold held? at isHeld ⊢
      rwa [workers] at isHeld
  cases atom with
  | passive active interrupters driverEpoch => exact same rfl rfl rfl rfl
  | arrives call locking => exact same rfl rfl rfl rfl
  | answers index call stage found locking fits => exact same rfl rfl rfl rfl
  | resolves index call turn stage found joined outcome => exact same rfl rfl rfl rfl
  | claims index call token found locking free unpending uncached clear =>
      exact same rfl rfl rfl rfl
  | unclaims index call token stage completed found claiming isOver cached =>
      exact same rfl rfl rfl rfl
  | enqueues index call token claimToken found claiming => exact sound.enqueue index call claimToken
  | takes conversation idle =>
      rw [nextTurn_eq]
      refine sound.leave conversation false ?_
      rw [idle]
      rfl
  | enters conversation turn stage free =>
      refine sound.moveOn conversation (some (.begins turn)) rfl (fun _ => rfl) rfl rfl rfl ?_ ?_
      · rw [stage]
        exact List.Sublist.refl _
      · intro taken isTaken
        unfold held?
        rw [stage]
        exact isTaken
  | activates conversation turn stage => exact sound.activate stage
  | concludes conversation turn raised outcome stage done shut =>
      refine sound.moveOn conversation (some (.ends turn raised)) (length_settle c turn outcome)
        (fun _ => home_settle c turn _ outcome) rfl rfl rfl (List.nil_sublist _) ?_
      intro taken isTaken
      unfold held?
      rcases stage with stage | stage
      · rw [stage]
        exact isTaken
      · rw [stage]
        exact isTaken
  | succeeds conversation turn result stage isResult =>
      refine sound.moveOn conversation (some (.ends turn false))
        (length_settle c turn (.result result)) (fun _ => home_settle c turn _ (.result result)) ?_
        rfl rfl (List.nil_sublist _) ?_
      · change (c.log ++ [TurnEvent.succeeded turn]).filterMap started? = _
        rw [List.filterMap_append]
        exact List.append_nil _
      · intro taken isTaken
        unfold held?
        rw [stage]
        exact isTaken
  | finishes conversation turn raised stage =>
      have released : (c.release conversation turn).OrderSound := by
        rw [release_eq]
        exact same rfl rfl rfl rfl
      refine released.leave conversation raised ?_
      rw [release_eq]
      dsimp only
      rw [stage]
      rfl
  | abandons conversation turn raised stage shut =>
      exact sound.moveOn conversation none rfl (fun _ => rfl) rfl rfl rfl (List.nil_sublist _)
        fun taken isTaken => by cases isTaken
  | drops conversation stage isStage isOutside shut =>
      exact sound.moveOn conversation none rfl (fun _ => rfl) rfl rfl rfl (List.nil_sublist _)
        fun taken isTaken => by cases isTaken
  | interruptsQueued conversation turn rest value inactive queue =>
      refine sound.shrink (length_settle _ turn (.result value))
        (fun _ => home_settle _ turn _ (.result value)) ?_ (fun other => ?_)
        fun other taken isHeld => Or.inl isHeld
      · change (c.log ++ [TurnEvent.interrupted turn]).filterMap started? = _
        rw [List.filterMap_append]
        exact List.append_nil _
      · change (_ ++ Function.update c.queues conversation rest other).Sublist (_ ++ c.queues other)
        refine List.Sublist.append_left ?_ _
        by_cases isHere : other = conversation
        · subst isHere
          rw [Function.update_self, queue]
          exact List.sublist_cons_self _ _
        · rw [Function.update_of_ne isHere]
  | interruptsWaiting conversation turn value inactive empty waiting =>
      have homes : ∀ other, (Coordinator.home { c with
          turns := c.turns.modify turn fun pending => { pending with cancelled := true }
          waiting := Function.update c.waiting conversation none } other) = c.home other := by
        intro other
        change ((c.turns.modify turn _).getD other default).conversationRef = _
        rw [getD_modify]
        split
        · rfl
        · rfl
      refine sound.shrink ((length_settle _ turn (.result value)).trans (List.length_modify _ _ _))
        (fun other => (home_settle _ turn other (.result value)).trans (homes other)) ?_
        (fun other => List.Sublist.refl _) fun other taken isHeld => Or.inl isHeld
      change (c.log ++ [TurnEvent.interrupted turn]).filterMap started? = _
      rw [List.filterMap_append]
      exact List.append_nil _
  | shutsDown => exact same rfl rfl rfl rfl

end OrderSound

end Coordinator

end Loom
