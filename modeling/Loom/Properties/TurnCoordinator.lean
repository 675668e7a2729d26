import Loom.Driver.Claims

/-!
# Safety of the turn coordinator

In every run whose moves `Coordinator.permits` allows, one turn executes at a time, the turns of a
conversation start in order, no request succeeds twice, the submitters of a request that wait at the
same time get the same outcome, and a queue has a worker.
-/

namespace Loom

namespace Coordinator

/-! ### Submitters of one turn -/

/-- A call waits for a turn, or has got its outcome. -/
def Follows (c : Coordinator) (index turn : Nat) : Prop :=
  ∃ call, c.submitters[index]? = some call ∧ turn < c.turns.length ∧
    (call.stage = .joined turn ∨ (c.turn turn).future.outcome? = some call.stage)

theorem Future.done_of_outcome {future : Future} {stage : SubmitStage}
    (outcome : future.outcome? = some stage) : future.done = true := by
  cases future with
  | pending => cases outcome
  | result value => rfl
  | exception error => rfl
  | cancelled => rfl

theorem isOver_of_outcome {future : Future} {stage : SubmitStage}
    (outcome : future.outcome? = some stage) : isOver stage = true := by
  cases future with
  | pending => cases outcome
  | result value =>
      cases outcome
      rfl
  | exception error =>
      cases outcome
      rfl
  | cancelled =>
      cases outcome
      rfl

/-- A settled future stays as it is. -/
theorem future_settle (c : Coordinator) (turn other : Nat) (outcome : Future)
    (isDone : (c.turn other).future.done = true) :
    ((c.settle turn outcome).turn other).future = (c.turn other).future := by
  rw [turn_settle]
  split
  · unfold Future.settle
    rw [if_pos isDone]
  · rfl

/-- Turns are kept, and so are their futures once they are done. -/
theorem Atom.future {c c' : Coordinator} (atom : Atom c c') {turn : Nat}
    (isKnown : turn < c.turns.length) :
    turn < c'.turns.length ∧ ((c.turn turn).future.done = true →
      (c'.turn turn).future = (c.turn turn).future) := by
  have same : ∀ {after : Coordinator}, after.turns = c.turns → turn < after.turns.length ∧
      ((c.turn turn).future.done = true → (after.turn turn).future = (c.turn turn).future) := by
    intro after turns
    unfold Coordinator.turn
    rw [turns]
    exact ⟨isKnown, fun _ => rfl⟩
  have settled : ∀ {before after : Coordinator} {other : Nat} {outcome : Future},
      after.turns = (before.settle other outcome).turns → before.turns.length = c.turns.length →
      (before.turn turn).future = (c.turn turn).future → turn < after.turns.length ∧
      ((c.turn turn).future.done = true → (after.turn turn).future = (c.turn turn).future) := by
    intro before after other outcome turns length future
    have isSame : after.turn turn = (before.settle other outcome).turn turn := by
      unfold Coordinator.turn
      rw [turns]
    refine ⟨?_, fun isDone => ?_⟩
    · rw [turns, length_settle, length]
      exact isKnown
    · rw [isSame, future_settle before other turn outcome (by rw [future]; exact isDone), future]
  cases atom with
  | passive active interrupters driverEpoch => exact same rfl
  | arrives call locking => exact same rfl
  | answers index call stage found locking fits => exact same rfl
  | resolves index call turn stage found joined outcome => exact same rfl
  | claims index call token found locking free unpending uncached clear => exact same rfl
  | unclaims index call token stage completed found claiming isOver cached => exact same rfl
  | enqueues index call token claimToken found claiming =>
      refine ⟨?_, fun _ => ?_⟩
      · rw [enqueue_eq]
        exact Nat.lt_of_lt_of_le isKnown (by rw [List.length_append]; omega)
      · rw [turn_enqueue c index call claimToken isKnown]
  | takes conversation idle =>
      rw [nextTurn_eq, leave_eq]
      exact same rfl
  | enters conversation turn' stage free => exact same rfl
  | activates conversation turn' stage => exact same rfl
  | concludes conversation turn' raised outcome stage done shut => exact settled rfl rfl rfl
  | succeeds conversation turn' result stage isResult =>
      exact @settled { c with
        completed := Function.update c.completed (c.turn turn').requestId (some result)
        log := c.log ++ [TurnEvent.succeeded turn'] } _ _ _ rfl rfl rfl
  | finishes conversation turn' raised stage =>
      rw [leave_eq, release_eq]
      exact same rfl
  | abandons conversation turn' raised stage shut => exact same rfl
  | drops conversation stage isStage isOutside shut => exact same rfl
  | interruptsQueued conversation turn' rest value inactive queue =>
      exact @settled { c with
        queues := Function.update c.queues conversation rest } _ _ _ rfl rfl rfl
  | interruptsWaiting conversation turn' value inactive empty waiting =>
      refine @settled { c with
        turns := c.turns.modify turn' fun pending => { pending with cancelled := true }
        waiting := Function.update c.waiting conversation none } _ _ _ rfl
        (List.length_modify _ _ _) ?_
      change ((c.turns.modify turn' _).getD turn default).future = _
      rw [getD_modify]
      split
      · rfl
      · rfl
  | shutsDown => exact same rfl

/-- A call that has joined a turn gets the outcome of that turn and of no other. -/
theorem Follows.atom {c c' : Coordinator} {index turn : Nat} (follows : c.Follows index turn)
    (atom : Atom c c') : c'.Follows index turn := by
  obtain ⟨call, found, isKnown, stands⟩ := follows
  obtain ⟨stillKnown, future⟩ := atom.future isKnown
  have stays : (c.turn turn).future.outcome? = some call.stage →
      (c'.turn turn).future.outcome? = some call.stage := by
    intro outcome
    rw [future (Future.done_of_outcome outcome)]
    exact outcome
  have same : c'.submitters[index]? = some call → c'.Follows index turn := by
    intro isCall
    refine ⟨call, isCall, stillKnown, ?_⟩
    rcases stands with isJoined | outcome
    · exact Or.inl isJoined
    · exact Or.inr (stays outcome)
  -- The call itself moves only when it is resolved.
  have changed : ∀ {index' : Nat} {call' : Submitter} {stage : SubmitStage},
      c.submitters[index']? = some call' → c'.submitters =
        (c.setSubmitter index' stage).submitters →
      call'.stage = .locking ∨ (∃ token, call'.stage = .claiming token) ∨
        (∃ turn', call'.stage = .joined turn' ∧ (c.turn turn').future.outcome? = some stage) →
      c'.Follows index turn := by
    intro index' call' stage found' submitters kind
    by_cases isSame : index = index'
    · subst isSame
      rw [found] at found'
      cases found'
      rcases stands with isJoined | outcome
      · rw [isJoined] at kind
        rcases kind with impossible | ⟨token, impossible⟩ | ⟨turn', sameTurn, outcome⟩
        · cases impossible
        · cases impossible
        · cases sameTurn
          refine ⟨{ call with stage }, ?_, stillKnown, Or.inr ?_⟩
          · rw [submitters]
            exact getElem?_setSubmitter found stage
          · rw [future (Future.done_of_outcome outcome)]
            exact outcome
      · have isOver := isOver_of_outcome outcome
        rcases kind with isLocking | ⟨token, isClaiming⟩ | ⟨turn', isJoined, _⟩
        · rw [isLocking] at isOver
          cases isOver
        · rw [isClaiming] at isOver
          cases isOver
        · rw [isJoined] at isOver
          cases isOver
    · refine same ?_
      rw [submitters]
      change (c.submitters.modify index' _)[index]? = _
      rw [List.getElem?_modify]
      simpa [Ne.symm isSame] using found
  cases atom with
  | passive active interrupters driverEpoch => exact same found
  | arrives call' locking =>
      refine same ?_
      have isOld := (List.getElem?_eq_some_iff.1 found).1
      exact (List.getElem?_append_left isOld).trans found
  | answers index' call' stage found' locking fits => exact changed found' rfl (Or.inl locking)
  | resolves index' call' turn' stage found' joined outcome =>
      exact changed found' rfl (Or.inr (Or.inr ⟨turn', joined, outcome⟩))
  | claims index' call' token found' locking free unpending uncached clear =>
      exact changed found' rfl (Or.inl locking)
  | unclaims index' call' token stage completed found' claiming isOver cached =>
      exact changed found' rfl (Or.inr (Or.inl ⟨token, claiming⟩))
  | enqueues index' call' token claimToken found' claiming =>
      refine @changed _ _ (.joined c.turns.length) found' ?_ (Or.inr (Or.inl ⟨token, claiming⟩))
      rw [enqueue_eq]
      rfl
  | takes conversation idle =>
      refine same ?_
      rw [nextTurn_eq, leave_eq]
      exact found
  | enters conversation turn' stage free => exact same found
  | activates conversation turn' stage => exact same found
  | concludes conversation turn' raised outcome stage done shut => exact same found
  | succeeds conversation turn' result stage isResult => exact same found
  | finishes conversation turn' raised stage =>
      refine same ?_
      rw [leave_eq, release_eq]
      exact found
  | abandons conversation turn' raised stage shut => exact same found
  | drops conversation stage isStage isOutside shut => exact same found
  | interruptsQueued conversation turn' rest value inactive queue => exact same found
  | interruptsWaiting conversation turn' value inactive empty waiting => exact same found
  | shutsDown => exact same found

theorem Follows.atoms {c c' : Coordinator} {index turn : Nat} (follows : c.Follows index turn)
    (atoms : Atoms c c') : c'.Follows index turn := by
  induction atoms with
  | refl => exact follows
  | tail _ atom ih => exact ih.atom atom

/-! ### Safety -/

/-- What the coordinator promises, with the runs that its moves are taken from. -/
structure Coordinated (setup : CoordinatorSetup) (permits : Coordinator → CoordinatorMove → Prop)
    (c : Coordinator) : Prop where
  /-- At most one turn executes. -/
  alone : ∀ first second one two, c.workers first = some (.executes one) →
    c.workers second = some (.executes two) → first = second ∧ one = two
  /-- The turns of a conversation have started in the order in which they were enqueued. -/
  ordered : c.starts.Pairwise fun earlier later => c.home earlier = c.home later → earlier < later
  /-- No request has been executed to success twice. -/
  once : c.successes.Pairwise fun earlier later => c.request earlier ≠ c.request later
  /-- Submitters of one request that wait now get the same outcome later. -/
  together : ∀ (first second : Nat) (one two : Submitter) (turn other : Nat),
    c.submitters[first]? = some one → c.submitters[second]? = some two →
    one.requestId = two.requestId → one.stage = .joined turn → two.stage = .joined other →
    (c.turn turn).future.done = false → (c.turn other).future.done = false →
    ∀ (moves : List CoordinatorMove) (later : Coordinator),
      Machine.Run (CoordinatorMove.step setup) permits c moves later →
      ∀ one' two' : Submitter, later.submitters[first]? = some one' →
        later.submitters[second]? = some two' → isOver one'.stage = true →
        isOver two'.stage = true → one'.stage = two'.stage
  /-- A conversation with queued turns has a worker. -/
  served : ∀ conversation, c.isShutdown = false → c.queues conversation ≠ [] →
    (c.workers conversation).isSome = true

theorem Sound.alone {c : Coordinator} (sound : c.Sound) {first second : String} {one two : Nat}
    (isFirst : c.workers first = some (.executes one))
    (isSecond : c.workers second = some (.executes two)) : first = second ∧ one = two := by
  have inLane : ∀ {conversation turn}, c.workers conversation = some (.executes turn) →
      c.inLane conversation = true := by
    intro conversation turn stage
    unfold Coordinator.inLane
    rw [stage]
    rfl
  have same := sound.lane.alone first second (inLane isFirst) (inLane isSecond)
  subst same
  rw [isFirst] at isSecond
  cases isSecond
  exact ⟨rfl, rfl⟩

/-- Submitters of one request that wait at the same time have joined the same turn. -/
theorem Sound.sameTurn {c : Coordinator} (sound : c.Sound) {first second : Nat}
    {one two : Submitter} {turn other : Nat} (isFirst : c.submitters[first]? = some one)
    (isSecond : c.submitters[second]? = some two) (sameRequest : one.requestId = two.requestId)
    (firstJoined : one.stage = .joined turn) (secondJoined : two.stage = .joined other)
    (firstWaits : (c.turn turn).future.done = false)
    (secondWaits : (c.turn other).future.done = false) : turn = other := by
  obtain ⟨firstKnown, firstRequest⟩ := sound.claims.joined first one turn isFirst firstJoined
  obtain ⟨secondKnown, secondRequest⟩ := sound.claims.joined second two other isSecond secondJoined
  have firstPending := sound.requests.unresolved turn firstKnown firstWaits
  have secondPending := sound.requests.unresolved other secondKnown secondWaits
  rw [firstRequest, sameRequest, ← secondRequest, secondPending] at firstPending
  exact (Option.some.inj firstPending).symm

/-- A call that follows a turn and is over has the outcome of the turn. -/
theorem Follows.outcome {c : Coordinator} {index turn : Nat} (follows : c.Follows index turn)
    {call : Submitter} (found : c.submitters[index]? = some call)
    (isOver : Coordinator.isOver call.stage = true) :
    (c.turn turn).future.outcome? = some call.stage := by
  obtain ⟨call', found', _, stands⟩ := follows
  rw [found] at found'
  cases found'
  rcases stands with isJoined | outcome
  · rw [isJoined] at isOver
    cases isOver
  · exact outcome

/-- Where the executor returns a result, nothing is cancelled before the shutdown and no interrupted
request is submitted again while a worker holds its turn, the coordinator keeps its promises in
every state of every run. -/
theorem coordinator_safe {setup : CoordinatorSetup} {driverEpoch : Int}
    {moves : List CoordinatorMove} {c : Coordinator}
    (run : Machine.Run (CoordinatorMove.step setup) (fun c move => c.permits move = true)
      (Coordinator.empty driverEpoch) moves c) :
    c.Coordinated setup fun c move => c.permits move = true := by
  have sound : c.Sound := by
    refine run.invariant (Sound.empty driverEpoch) ?_
    intro before after move permitted goes holds
    exact holds.atoms (move.atoms permitted goes)
  refine ⟨fun _ _ _ _ => sound.alone, sound.order.ordered, sound.claims.once, ?_,
    sound.served.served⟩
  intro first second one two turn other isFirst isSecond sameRequest firstJoined secondJoined
    firstWaits secondWaits moves later more one' two' isOne isTwo oneOver twoOver
  have same := sound.sameTurn isFirst isSecond sameRequest firstJoined secondJoined firstWaits
    secondWaits
  subst same
  have follows : ∀ {index : Nat} {call : Submitter}, c.submitters[index]? = some call →
      call.stage = .joined turn → later.Follows index turn := by
    intro index call found isJoined
    refine @Machine.Run.invariant _ _ _ _ _ _ _ (fun c => c.Follows index turn) more ?_ ?_
    · exact ⟨call, found, (sound.claims.joined index call turn found isJoined).1, Or.inl isJoined⟩
    · intro before after move permitted goes holds
      exact holds.atoms (move.atoms permitted goes)
  have firstOutcome := (follows isFirst firstJoined).outcome isOne oneOver
  have secondOutcome := (follows isSecond secondJoined).outcome isTwo twoOver
  rw [firstOutcome] at secondOutcome
  exact Option.some.inj secondOutcome

/-- A coordinator without Observer and without provider contexts. -/
def plainSetup : CoordinatorSetup where
  controlled := false
  managed := false
  canInterrupt := false
  canEnd := false
  text _ := ""

/-- Two calls submit one request, and two requests wait in another conversation, of which one is
interrupted while it is queued. -/
def plainRun : List CoordinatorMove :=
  [.submit "r" "A" "", .checkIn 0 "t", .submit "r" "A" "", .checkIn 1 "t",
    .submit "s" "B" "", .checkIn 2 "t", .submit "q" "B" "", .checkIn 3 "t",
    .workerStarts "A", .workerStarts "B", .laneAcquired "A", .interrupt "B",
    .executed "A" (.ok (.str "done")), .laneAcquired "B", .executed "B" (.ok (.str "more")),
    .resolved 0, .resolved 1, .resolved 2, .resolved 3]

/-- What the calls of the run return. -/
def plainReturns : List SubmitStage :=
  [.returned (.str "done"), .returned (.str "done"), .returned (.str "more"),
    .returned (.obj [("conversation_ref", .str "B"), ("request_id", .str "q"),
      ("status", .str "interrupted")])]

theorem plainRun_permitted :
    ∃ c, Machine.Run (CoordinatorMove.step plainSetup) (fun c move => c.permits move = true)
        (Coordinator.empty 0) plainRun c ∧
      c.successes.map c.request = ["r", "s"] ∧
      c.submitters.map Submitter.stage = plainReturns ∧
      c.Coordinated plainSetup fun c move => c.permits move = true := by
  have plays : ((Machine.playWhere (CoordinatorMove.step plainSetup) Coordinator.permits plainRun
      (Coordinator.empty 0)).map fun c =>
        (c.successes.map c.request, c.submitters.map Submitter.stage)) =
      some (["r", "s"], plainReturns) := by decide +kernel
  obtain ⟨c, played, ends⟩ := Option.map_eq_some_iff.1 plays
  obtain ⟨successes, returns⟩ := Prod.mk.inj ends
  have run : Machine.Run (CoordinatorMove.step plainSetup) (fun c move => c.permits move = true)
      (Coordinator.empty 0) plainRun c := Machine.Run.of_playWhere .nil played
  exact ⟨c, run, successes, returns, coordinator_safe run⟩

/-- The request is interrupted while its turn waits for the lane, and submitted again: when the
worker drops the interrupted turn, it also forgets the new one, and a third call enqueues it once
more. -/
def doubledRun : List CoordinatorMove :=
  [.submit "a" "A" "", .checkIn 0 "t", .workerStarts "A", .laneAcquired "A",
    .submit "r" "B" "", .checkIn 1 "t", .workerStarts "B", .interrupt "B",
    .submit "r" "B" "", .checkIn 2 "t", .executed "A" (.ok (.str "done")),
    .laneAcquired "B", .laneAcquired "B", .submit "r" "B" "", .checkIn 3 "t",
    .executed "B" (.ok (.str "done")), .laneAcquired "B", .executed "B" (.ok (.str "done"))]

theorem doubledRun_succeeds_twice :
    ¬∀ (setup : CoordinatorSetup) (driverEpoch : Int) (moves : List CoordinatorMove)
      (c : Coordinator), Machine.Run (CoordinatorMove.step setup) (fun _ _ => True)
        (Coordinator.empty driverEpoch) moves c → c.Coordinated setup fun _ _ => True := by
  intro safe
  have plays : ((Machine.playWhere (CoordinatorMove.step plainSetup) (fun _ _ => true) doubledRun
      (Coordinator.empty 0)).map fun c => c.successes.map c.request) = some ["a", "r", "r"] := by
    decide +kernel
  obtain ⟨c, played, successes⟩ := Option.map_eq_some_iff.1 plays
  have run : Machine.Run (CoordinatorMove.step plainSetup) (fun _ _ => true = true)
      (Coordinator.empty 0) doubledRun c := Machine.Run.of_playWhere .nil played
  have once := (safe plainSetup 0 _ c (run.mono fun _ _ _ => trivial)).once
  have distinct : (c.successes.map c.request).Pairwise (· ≠ ·) := List.pairwise_map.2 once
  rw [successes] at distinct
  exact absurd distinct (by decide)

end Coordinator

end Loom
