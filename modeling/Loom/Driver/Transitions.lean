import Loom.Driver.Coordinator
import Mathlib.Logic.Relation

/-!
# What a move of the coordinator does

Every permitted move is a sequence of elementary transitions (`Coordinator.Atom`): a worker takes
the next turn, enters the lane, activates a turn, concludes it and finishes it; a call of `submit`
is answered, claims and enqueues; `interrupt` removes a queued turn or cancels a waiting one.
`CoordinatorMove.atoms` decomposes the moves once; the invariants are proved for the transitions.
-/

namespace Loom

namespace WorkerStage

/-- The turn that a worker has taken from its queue. -/
def holds? : WorkerStage → Option Nat
  | .created => none
  | .lane turn | .begins turn | .executes turn | .ends turn _ => some turn

/-- The worker holds the lane. -/
def inLane : WorkerStage → Bool
  | .created | .lane _ => false
  | .begins _ | .executes _ | .ends _ _ => true

/-- The turn that a worker has taken and that has not started. -/
def next? : WorkerStage → Option Nat
  | .lane turn | .begins turn => some turn
  | .created | .executes _ | .ends _ _ => none

/-- The turn that a worker has taken and that is not over. -/
def due? : WorkerStage → Option Nat
  | .lane turn | .begins turn | .executes turn => some turn
  | .created | .ends _ _ => none

end WorkerStage

namespace Coordinator

/-- No worker holds an interrupted turn of the request. -/
def isClear (coordinator : Coordinator) (requestId : String) : Bool :=
  coordinator.turns.zipIdx.all fun entry =>
    !(entry.1.cancelled && entry.1.requestId == requestId &&
      ((coordinator.workers entry.1.conversationRef).bind WorkerStage.holds? == some entry.2))

/-- The request has a result or a turn that waits for one. -/
def isKnown (coordinator : Coordinator) (requestId : String) : Bool :=
  (coordinator.completed requestId).any (fun value => value != .null) ||
    (coordinator.pendingByRequest requestId).isSome

/-- The worker's next turn on the way out of a turn, and what is left of the queue. -/
def following (coordinator : Coordinator) (conversation : String) (raised : Bool) : Option Nat :=
  if raised || coordinator.isShutdown then none else (coordinator.queues conversation).head?

def remaining (coordinator : Coordinator) (conversation : String) (raised : Bool) : List Nat :=
  if raised || coordinator.isShutdown then coordinator.queues conversation
  else (coordinator.queues conversation).tail

/-- A call of `submit` is over. -/
def isOver : SubmitStage → Bool
  | .returned _ | .raised _ => true
  | .locking | .claiming _ | .joined _ => false

/-- The elementary transitions. -/
inductive Atom (c : Coordinator) : Coordinator → Prop where
  | passive (active : String → Option TurnContext) (interrupters : List Interrupter)
      (driverEpoch : Int) : Atom c { c with active, interrupters, driverEpoch }
  | arrives (call : Submitter) (locking : call.stage = .locking) :
      Atom c { c with submitters := c.submitters ++ [call] }
  | answers (index : Nat) (call : Submitter) (stage : SubmitStage)
      (found : c.submitters[index]? = some call) (locking : call.stage = .locking)
      (fits : isOver stage = true ∨
        ∃ turn, c.pendingByRequest call.requestId = some turn ∧ stage = .joined turn) :
      Atom c (c.setSubmitter index stage)
  | resolves (index : Nat) (call : Submitter) (turn : Nat) (stage : SubmitStage)
      (found : c.submitters[index]? = some call) (joined : call.stage = .joined turn)
      (outcome : (c.turn turn).future.outcome? = some stage) : Atom c (c.setSubmitter index stage)
  | claims (index : Nat) (call : Submitter) (token : String)
      (found : c.submitters[index]? = some call) (locking : call.stage = .locking)
      (free : call.requestId ∉ c.submitLocks)
      (unpending : c.pendingByRequest call.requestId = none)
      (uncached : ∀ value, c.completed call.requestId = some value → value = .null)
      (clear : c.isClear call.requestId = true) :
      Atom c ({ c with submitLocks := call.requestId :: c.submitLocks }.setSubmitter index
        (.claiming token))
  | unclaims (index : Nat) (call : Submitter) (token : String) (stage : SubmitStage)
      (completed : String → Option Json) (found : c.submitters[index]? = some call)
      (claiming : call.stage = .claiming token) (isOver : isOver stage = true)
      (cached : completed = c.completed ∨ ∃ value, value ≠ .null ∧
        completed = Function.update c.completed call.requestId (some value)) :
      Atom c (({ c with completed }.unlock call.requestId).setSubmitter index stage)
  | enqueues (index : Nat) (call : Submitter) (token claimToken : String)
      (found : c.submitters[index]? = some call) (claiming : call.stage = .claiming token) :
      Atom c (c.enqueue index call claimToken)
  | takes (conversation : String) (idle : c.workers conversation = some .created) :
      Atom c (c.nextTurn conversation)
  | enters (conversation : String) (turn : Nat) (stage : c.workers conversation = some (.lane turn))
      (free : c.laneHeld = false) :
      Atom c ({ c with laneHeld := true }.setWorker conversation (some (.begins turn)))
  | activates (conversation : String) (turn : Nat)
      (stage : c.workers conversation = some (.begins turn)) :
      Atom c (c.activate conversation turn)
  | concludes (conversation : String) (turn : Nat) (raised : Bool) (outcome : Future)
      (stage : c.workers conversation = some (.begins turn) ∨
        c.workers conversation = some (.executes turn))
      (done : outcome.done = true ∨ (c.turn turn).cancelled = true)
      (shut : raised = true → c.isShutdown = true) :
      Atom c ((c.settle turn outcome).setWorker conversation (some (.ends turn raised)))
  | succeeds (conversation : String) (turn : Nat) (result : Json)
      (stage : c.workers conversation = some (.executes turn)) (isResult : result ≠ .null) :
      Atom c (({ c with
        completed := Function.update c.completed (c.turn turn).requestId (some result)
        log := c.log ++ [TurnEvent.succeeded turn] }.settle turn (.result result)).setWorker
          conversation (some (.ends turn false)))
  | finishes (conversation : String) (turn : Nat) (raised : Bool)
      (stage : c.workers conversation = some (.ends turn raised)) :
      Atom c ((c.release conversation turn).leave conversation raised)
  | abandons (conversation : String) (turn : Nat) (raised : Bool)
      (stage : c.workers conversation = some (.ends turn raised)) (shut : c.isShutdown = true) :
      Atom c ({ c with laneHeld := false }.setWorker conversation none)
  | drops (conversation : String) (stage : WorkerStage)
      (isStage : c.workers conversation = some stage) (outside : stage.inLane = false)
      (shut : c.isShutdown = true) : Atom c (c.setWorker conversation none)
  | interruptsQueued (conversation : String) (turn : Nat) (rest : List Nat) (value : Json)
      (inactive : c.active conversation = none) (queue : c.queues conversation = turn :: rest) :
      Atom c { (({ c with queues := Function.update c.queues conversation rest }.settle turn
          (.result value)).popRequest (c.turn turn).requestId) with
        log := c.log ++ [TurnEvent.interrupted turn] }
  | interruptsWaiting (conversation : String) (turn : Nat) (value : Json)
      (inactive : c.active conversation = none) (empty : c.queues conversation = [])
      (waiting : c.waiting conversation = some turn) :
      Atom c { (({ c with
          turns := c.turns.modify turn fun pending => { pending with cancelled := true }
          waiting := Function.update c.waiting conversation none }.settle turn
            (.result value)).popRequest (c.turn turn).requestId) with
        log := c.log ++ [TurnEvent.interrupted turn] }
  | shutsDown : Atom c { c with isShutdown := true }

/-- A sequence of elementary transitions. -/
abbrev Atoms : Coordinator → Coordinator → Prop := Relation.ReflTransGen Atom

end Coordinator

/-- The executor returns a result, nothing is cancelled before the shutdown, and no request is
submitted again while a worker still holds an interrupted turn of it. -/
def Coordinator.permits (coordinator : Coordinator) : CoordinatorMove → Bool
  | .executed _ (.ok result) => result != .null
  | .executed _ (.error .cancelled) | .begun _ (.error .cancelled)
  | .ended _ (.error .cancelled) => coordinator.isShutdown
  | .checkIn index _ =>
      match coordinator.submitters[index]? with
      | some call => coordinator.isKnown call.requestId || coordinator.isClear call.requestId
      | none => true
  | _ => true

namespace Coordinator

variable {setup : CoordinatorSetup} {c : Coordinator} {conversation : String} {turn : Nat}

/-! ### Moves are sequences of transitions -/

theorem settle_pending (c : Coordinator) (turn : Nat) : c.settle turn .pending = c := by
  have unsettled : ∀ future : Future, future.settle .pending = future := by
    intro future
    cases future <;> rfl
  have same : (fun pending : PendingTurn =>
      { pending with future := pending.future.settle .pending }) = id := by
    funext pending
    rw [unsettled]
    rfl
  unfold settle
  rw [same, List.modify_id]

theorem leave_setWorker (c : Coordinator) (conversation : String) (stage : Option WorkerStage)
    (raised : Bool) :
    (c.setWorker conversation stage).leave conversation raised = c.leave conversation raised := by
  unfold leave nextTurn
  cases raised with
  | true =>
      unfold setWorker
      simp only [if_true, Function.update_idem]
  | false =>
      simp only [Bool.false_eq_true, if_false]
      unfold setWorker
      dsimp only
      split
      · rw [Function.update_idem]
      · cases c.queues conversation with
        | nil => simp only [Function.update_idem]
        | cons first rest => simp only [Function.update_idem]

theorem release_setWorker (c : Coordinator) (conversation : String) (stage : Option WorkerStage)
    (turn : Nat) :
    (c.setWorker conversation stage).release conversation turn =
      (c.release conversation turn).setWorker conversation stage := by
  unfold release setWorker popRequest popWaiting Coordinator.turn
  dsimp only
  split
  · rfl
  · rfl

/-- A turn is finished wherever its worker has been put before. -/
theorem finish_setWorker (c : Coordinator) (conversation : String) (stage : Option WorkerStage)
    (turn : Nat) (raised : Bool) :
    ((c.setWorker conversation stage).release conversation turn).leave conversation raised =
      (c.release conversation turn).leave conversation raised := by
  rw [release_setWorker, leave_setWorker]

/-- A turn that is concluded without `end_turn` is finished at once. -/
theorem finish_atom (c : Coordinator) (conversation : String) (turn : Nat) (raised : Bool) :
    Atom (c.setWorker conversation (some (.ends turn raised)))
      ((c.release conversation turn).leave conversation raised) := by
  rw [← finish_setWorker c conversation (some (.ends turn raised))]
  exact .finishes conversation turn raised (Function.update_self _ _ _)

theorem close_atoms (c : Coordinator) (conversation : String) (turn : Nat) (raised : Bool) :
    Atoms (c.setWorker conversation (some (.ends turn raised)))
      (c.close setup conversation turn raised) := by
  have inactive : Atom (c.setWorker conversation (some (.ends turn raised)))
      ({ c with active := Function.update c.active conversation none }.setWorker conversation
        (some (.ends turn raised))) :=
    .passive (Function.update c.active conversation none) c.interrupters c.driverEpoch
  unfold close
  dsimp only
  split
  · exact .single inactive
  · exact .tail (.single inactive) (finish_atom _ conversation turn raised)

theorem activate_setWorker (c : Coordinator) (conversation : String) (stage : Option WorkerStage)
    (turn : Nat) :
    (c.setWorker conversation stage).activate conversation turn =
      c.activate conversation turn := by
  unfold activate setWorker Coordinator.turn
  simp only [Function.update_idem]

theorem enterLane_atoms (stage : c.workers conversation = some (.lane turn))
    (free : c.laneHeld = false) : Atoms c (c.enterLane setup conversation turn) := by
  have entered :
    Atom c ({ c with laneHeld := true }.setWorker conversation (some (.begins turn))) :=
    .enters conversation turn stage free
  have begins : ({ c with laneHeld := true }.setWorker conversation
      (some (.begins turn))).workers conversation = some (.begins turn) :=
    Function.update_self _ _ _
  unfold enterLane
  dsimp only
  split
  · rename_i isCancelled
    have concluded := Atom.concludes conversation turn false .pending (Or.inl begins)
      (Or.inr isCancelled) fun impossible => by cases impossible
    rw [settle_pending] at concluded
    refine .tail (.tail (.single entered) concluded) ?_
    rw [← finish_setWorker { c with laneHeld := true } conversation (some (.begins turn))]
    exact finish_atom _ conversation turn false
  · split
    · exact .single entered
    · rw [← activate_setWorker { c with laneHeld := true } conversation (some (.begins turn))]
      exact .tail (.single entered) (.activates conversation turn begins)

theorem afterBegin_atoms {answer : Except Fault Unit}
    (stage : c.workers conversation = some (.begins turn))
    (permitted : c.permits (.begun conversation answer) = true) :
    Atoms c (c.afterBegin conversation turn answer) := by
  cases answer with
  | ok value => exact .single (.activates conversation turn stage)
  | error fault =>
      cases fault with
      | error exception =>
          refine .tail (.single (.concludes conversation turn false (.exception exception)
            (Or.inl stage) (Or.inl rfl) fun impossible => by cases impossible)) ?_
          exact finish_atom _ conversation turn false
      | cancelled =>
          refine .tail (.single (.concludes conversation turn true .cancelled (Or.inl stage)
            (Or.inl rfl) fun _ => permitted)) ?_
          exact finish_atom _ conversation turn true

theorem afterExecute_atoms {answer : Except Fault Json}
    (stage : c.workers conversation = some (.executes turn))
    (permitted : c.permits (.executed conversation answer) = true) :
    Atoms c (c.afterExecute setup conversation turn answer) := by
  cases answer with
  | ok result =>
      have isResult : result ≠ .null := by
        simpa [permits] using permitted
      exact .head (.succeeds conversation turn result stage isResult) (close_atoms _ _ _ _)
  | error fault =>
      cases fault with
      | error exception =>
          refine .head (.concludes conversation turn false (.exception exception) (Or.inr stage)
            (Or.inl rfl) fun impossible => by cases impossible) ?_
          exact close_atoms _ _ _ _
      | cancelled =>
          refine .head (.concludes conversation turn true .cancelled (Or.inr stage) (Or.inl rfl)
            fun _ => permitted) ?_
          exact close_atoms _ _ _ _

theorem afterEnd_atoms {raised : Bool} {answer : Except Fault Unit}
    (stage : c.workers conversation = some (.ends turn raised))
    (permitted : c.permits (.ended conversation answer) = true) :
    Atoms c (c.afterEnd conversation turn raised answer) := by
  cases answer with
  | ok value => exact .single (.finishes conversation turn raised stage)
  | error fault =>
      cases fault with
      | error exception => exact .single (.finishes conversation turn raised stage)
      | cancelled => exact .single (.abandons conversation turn raised stage permitted)

/-! ### Calls -/

section Submit

variable {index : Nat} {call : Submitter} {token : String}

/-- A call that is not controlled claims for itself. -/
theorem enqueue_setSubmitter (c : Coordinator) (index : Nat) (call : Submitter)
    (token claimToken : String) :
    (c.setSubmitter index (.claiming token)).enqueue index { call with stage := .claiming token }
      claimToken = c.enqueue index call claimToken := by
  have twice : ∀ stage : SubmitStage, (c.submitters.modify index fun call =>
        { call with stage := .claiming token }).modify index
          (fun call => { call with stage }) =
      c.submitters.modify index fun call => { call with stage } := by
    intro stage
    rw [List.modify_modify_eq]
    rfl
  unfold enqueue setSubmitter unlock setWorker Submitter.pendingTurn
  dsimp only
  split
  · simp only [twice]
  · simp only [twice]

theorem getElem?_setSubmitter (found : c.submitters[index]? = some call) (stage : SubmitStage) :
    (c.setSubmitter index stage).submitters[index]? = some { call with stage } := by
  change (c.submitters.modify index _)[index]? = _
  rw [List.getElem?_modify_eq, found]
  rfl

theorem unlock_cons (c : Coordinator) (requestId : String) :
    { c with submitLocks := requestId :: c.submitLocks }.unlock requestId = c := by
  unfold unlock
  dsimp only
  rw [List.erase_cons_head]

theorem afterCache_atoms (found : c.submitters[index]? = some call)
    (locking : call.stage = .locking) (free : call.requestId ∉ c.submitLocks)
    (uncached : ∀ value, c.completed call.requestId = some value → value = .null)
    (permitted : c.permits (.checkIn index token) = true) :
    Atoms c ({ c with submitLocks := call.requestId :: c.submitLocks }.afterCache setup index call
      token) := by
  unfold afterCache
  dsimp only
  cases pending : c.pendingByRequest call.requestId with
  | some turn =>
      dsimp only
      rw [unlock_cons]
      exact .single (.answers index call (.joined turn) found locking
        (Or.inr ⟨turn, pending, rfl⟩))
  | none =>
      dsimp only
      have clear : c.isClear call.requestId = true := by
        have unknown : c.isKnown call.requestId = false := by
          unfold isKnown
          rw [pending]
          cases cached : c.completed call.requestId with
          | none => rfl
          | some value => rw [uncached value cached]; rfl
        simpa [permits, found, unknown] using permitted
      have claimed := Atom.claims index call token found locking free pending uncached clear
      split
      · exact .single claimed
      · rw [← enqueue_setSubmitter _ index call token token]
        refine .tail (.single claimed) (.enqueues index _ token token ?_ rfl)
        exact getElem?_setSubmitter
          (c := { c with submitLocks := call.requestId :: c.submitLocks }) found (.claiming token)

theorem checkIn_atoms (found : c.submitters[index]? = some call) (locking : call.stage = .locking)
    (free : call.requestId ∉ c.submitLocks)
    (permitted : c.permits (.checkIn index token) = true) :
    Atoms c (c.checkIn setup index call token) := by
  unfold checkIn
  dsimp only
  cases cached : c.completed call.requestId with
  | none =>
      refine afterCache_atoms found locking free (fun value impossible => ?_) permitted
      rw [cached] at impossible
      cases impossible
  | some value =>
      dsimp only
      split
      · rename_i isNull
        refine afterCache_atoms found locking free (fun other same => ?_) permitted
        rw [cached] at same
        cases same
        exact isNull
      · rw [unlock_cons]
        exact .single (.answers index call (.returned value) found locking (Or.inl rfl))

theorem afterClaim_atoms {answer : Except Fault Dict} (found : c.submitters[index]? = some call)
    (claiming : call.stage = .claiming token) :
    Atoms c (c.afterClaim setup index call token answer) := by
  cases answer with
  | error fault =>
      exact .single (.unclaims index call token (.raised fault) c.completed found claiming rfl
        (Or.inl rfl))
  | ok claim =>
      unfold afterClaim
      dsimp only
      split
      · exact .single (.unclaims index call token (.returned (.obj claim)) _ found claiming rfl
          (Or.inr ⟨.obj claim, by simp, rfl⟩))
      · split
        · exact .single (.unclaims index call token (.returned (.obj claim)) c.completed found
            claiming rfl (Or.inl rfl))
        · exact .single (.enqueues index call token _ found claiming)

end Submit

theorem getD_modify (turns : List PendingTurn) (change : PendingTurn → PendingTurn)
    (index other : Nat) :
    (turns.modify index change).getD other default =
      if index = other ∧ other < turns.length then change (turns.getD other default)
      else turns.getD other default := by
  rw [List.getD_eq_getElem?_getD, List.getD_eq_getElem?_getD, List.getElem?_modify]
  by_cases known : other < turns.length
  · rw [List.getElem?_eq_getElem known]
    by_cases same : index = other
    · simp [same, known]
    · simp [same]
  · rw [List.getElem?_eq_none (Nat.le_of_not_lt known)]
    simp [known]

theorem interrupt_atoms : Atoms c (c.interrupt setup conversation) := by
  unfold interrupt
  cases isActive : c.active conversation with
  | some context =>
      dsimp only
      split
      · exact .single (.passive c.active _ c.driverEpoch)
      · exact .single (.passive _ _ c.driverEpoch)
  | none =>
      dsimp only
      cases queue : c.queues conversation with
      | cons turn rest =>
          dsimp only
          refine .tail (.single (.interruptsQueued conversation turn rest
            (interruptedResult (c.turn turn) conversation) isActive queue)) ?_
          exact .passive _ _ _
      | nil =>
          dsimp only
          cases isWaiting : c.waiting conversation with
          | some turn =>
              dsimp only
              refine .tail (.single (.interruptsWaiting conversation turn
                (interruptedResult (c.turn turn) conversation) isActive queue isWaiting)) ?_
              have same : ({ c with
                  turns := c.turns.modify turn fun pending => { pending with cancelled := true }
                  waiting := Function.update c.waiting conversation none }.turn turn).requestId =
                    (c.turn turn).requestId := by
                change ((c.turns.modify turn _).getD turn default).requestId = _
                rw [getD_modify]
                split
                · rfl
                · rfl
              unfold interruptPending interruptedResult
              simp only [same]
              exact .passive _ _ _
          | none => exact .single (.passive c.active _ c.driverEpoch)

end Coordinator

/-- A permitted move is a sequence of elementary transitions. -/
theorem CoordinatorMove.atoms {setup : CoordinatorSetup} {move : CoordinatorMove}
    {c c' : Coordinator} (permitted : c.permits move = true)
    (goes : move.step setup c = some c') : Coordinator.Atoms c c' := by
  cases move with
  | submit requestId conversationRef prompt =>
      cases goes
      exact .single (.arrives _ rfl)
  | checkIn index token =>
      unfold step at goes
      dsimp only at goes
      split at goes
      · rename_i call found
        split at goes
        · rename_i able
          cases goes
          exact Coordinator.checkIn_atoms found able.1 able.2 permitted
        · cases goes
      · cases goes
  | claimed index answer =>
      unfold step at goes
      dsimp only at goes
      split at goes
      · rename_i call found
        split at goes
        · rename_i token claiming
          cases goes
          exact Coordinator.afterClaim_atoms found claiming
        · cases goes
      · cases goes
  | resolved index =>
      unfold step at goes
      dsimp only at goes
      split at goes
      · rename_i call found
        split at goes
        · rename_i turn joined
          obtain ⟨stage, outcome, rfl⟩ := Option.map_eq_some_iff.1 goes
          exact .single (.resolves index call turn stage found joined outcome)
        · cases goes
      · cases goes
  | workerStarts conversation =>
      unfold step at goes
      dsimp only at goes
      split at goes
      · rename_i idle
        cases goes
        exact .single (.takes conversation idle)
      · cases goes
  | laneAcquired conversation =>
      unfold step at goes
      dsimp only at goes
      split at goes
      · rename_i turn stage
        split at goes
        · cases goes
        · rename_i free
          cases goes
          exact Coordinator.enterLane_atoms stage (by simpa using free)
      · cases goes
  | begun conversation answer =>
      unfold step at goes
      dsimp only at goes
      split at goes
      · rename_i turn stage
        cases goes
        exact Coordinator.afterBegin_atoms stage permitted
      · cases goes
  | executed conversation answer =>
      unfold step at goes
      dsimp only at goes
      split at goes
      · rename_i turn stage
        cases goes
        exact Coordinator.afterExecute_atoms stage permitted
      · cases goes
  | ended conversation answer =>
      unfold step at goes
      dsimp only at goes
      split at goes
      · rename_i turn raised stage
        cases goes
        exact Coordinator.afterEnd_atoms stage permitted
      · cases goes
  | workerCancelled conversation =>
      unfold step at goes
      dsimp only at goes
      split at goes
      · rename_i idle
        split at goes
        · rename_i shut
          cases goes
          exact .single (.drops conversation .created idle rfl shut)
        · cases goes
      · rename_i turn stage
        split at goes
        · rename_i shut
          cases goes
          exact .single (.drops conversation (.lane turn) stage rfl shut)
        · cases goes
      · cases goes
  | interrupt conversation =>
      cases goes
      exact Coordinator.interrupt_atoms
  | interruptAnswered index answer =>
      unfold step at goes
      dsimp only at goes
      split at goes
      · rename_i call found
        split at goes
        · cases goes
          have settled : ∀ stage, Coordinator.Atoms c
              (Coordinator.afterInterrupt.settled c index stage) :=
            fun stage => .single (.passive c.active _ c.driverEpoch)
          rcases answer with fault | _
          · rcases fault with exception | _
            · exact settled _
            · exact settled _
          · exact settled _
        · cases goes
      · cases goes
  | newEpoch epoch =>
      cases goes
      exact .single (.passive c.active c.interrupters epoch)
  | shutdown =>
      cases goes
      exact .single .shutsDown

end Loom
