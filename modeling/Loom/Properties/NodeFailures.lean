import Loom.Observer.Boards
import Loom.Observer.Execution
import Loom.Observer.SingleCalls

/-!
# Failing a node

`fail_dynamic_node` writes the node and its attempts before it checks the transition, and with a
null attempt id it does not look at the state of the node.  The calls that go wrong are those on a
run that is not running, and those on a node that is completed or waits for a decision
(`Repo.failsInOrder`).  In every history without such calls a node that reached a terminal state
keeps it, and a call of `fail_dynamic_node` that raises has changed nothing.
-/

namespace Loom

open Coroutine

/-- `fail_dynamic_node` finds the node and passes its checks of the arguments. -/
def RunRecord.admitsFailure (record : RunRecord) (nodeId : String) (attemptId : Option String)
    (error : Option Json) : Bool :=
  (firstIndex? (fun node => node.nodeId = nodeId) record.dynamicNodes).isSome &&
    isErrorObject error && record.canFailAttempt nodeId attemptId

/-- There is nothing left to fail: the node has failed and so have its attempts. -/
def RunRecord.failureIsVoid (record : RunRecord) (nodeId : String) (attemptId : Option String) :
    Bool :=
  record.board.stateOf nodeId = some .failed &&
    record.attempts.all fun attempt =>
      !(attempt.matches (some nodeId) attemptId && attempt.state.isActive)

/-- A call of `fail_dynamic_node` is refused by its checks, has nothing left to fail, or finds
the run running, its orchestration package resolvable and the node neither completed nor waiting
for a decision. -/
def Repo.failsInOrder (repo : Repo) (env : Env) : Call → Bool
  | .failDynamicNode runId nodeId attemptId error =>
      match repo.run? runId with
      | none => true
      | some record =>
          !record.admitsFailure nodeId attemptId error ||
            (record.state ≠ .running && record.failureIsVoid nodeId attemptId) ||
            (record.state = .running && (repo.provenance env record none).isOk &&
              record.board.stateOf nodeId ≠ some .completed &&
              record.board.stateOf nodeId ≠ some .decisionRequired)
  | _ => true

/-- The nodes and attempts of a record are in order. -/
structure Tracked (env : Env) (view : View) : Prop where
  sound : view.record.board.Sound
  identified : view.record.board.Identified env view.uuids

namespace Board

namespace Sound

variable {board : Board}

theorem appendTask (sound : board.Sound) {attempt : Attempt} (unnamed : attempt.nodeId = none) :
    (board.after (.appendAttempt attempt)).Sound := by
  have old : ∀ nodeId index, (board.after (.appendAttempt attempt)).Active nodeId index →
      board.Active nodeId index := by
    intro nodeId index active
    rcases (active_appendAttempt attempt).1 active with active | ⟨-, named, -⟩
    · exact active
    · rw [unnamed] at named
      cases named
  exact ⟨fun nodeId index active => sound.dispatched nodeId index (old _ _ active),
    fun nodeId index other active active' =>
      sound.single nodeId index other (old _ _ active) (old _ _ active')⟩

theorem failActive (sound : board.Sound) (failed attemptId : Option String) (reason : Json) :
    (board.after (.failActive failed attemptId reason)).Sound := by
  have old : ∀ nodeId index, (board.after (.failActive failed attemptId reason)).Active nodeId
      index → board.Active nodeId index := by
    intro nodeId index active
    obtain ⟨attempt, isAttempt, named, isActive, -⟩ := active_failActive active
    exact ⟨attempt, isAttempt, named, isActive⟩
  exact ⟨fun nodeId index active => sound.dispatched nodeId index (old _ _ active),
    fun nodeId index other active active' =>
      sound.single nodeId index other (old _ _ active) (old _ _ active')⟩

end Sound

/-- After all active attempts have failed none is active. -/
theorem idle_of_failAll (board : Board) (reason : Json) (nodeId : String) (index : Nat) :
    ¬ (board.after (.failActive none none reason)).Active nodeId index := by
  intro active
  obtain ⟨attempt, -, -, -, spared⟩ := active_failActive active
  simp [Attempt.matches] at spared

end Board

section Steps

variable {env : Env} {ok : (query : Query) → Answer query → Prop} {site : Site} {call : Call}
  {updates : List RecordWrite} {fate : Fate}

/-- A report settles the only active attempt of a dispatched node. -/
theorem settles {record : RunRecord} {nodeId : String} {result : Json} {report : NodeReport}
    {change : AttemptUpdate} {state : NodeState} (sound : record.board.Sound)
    (fenced : NodeFenced env record nodeId result report)
    (inactive : change.state.isActive = false) :
    ((record.board.after (.updateAttempt report.attemptIndex change)).after
        (.setNodeState report.nodeIndex state)).Sound ∧
      record.board.Absorbs ((record.board.after (.updateAttempt report.attemptIndex change)).after
        (.setNodeState report.nodeIndex state)) := by
  have active : record.board.Active nodeId report.attemptIndex :=
    ⟨report.attempt, fenced.found, fenced.attemptNode, fenced.active⟩
  refine ⟨?_, ?_⟩
  · exact (sound.updateAttempt inactive).setNodeState state fenced.nodeFound
      (sound.free_of_update inactive active)
  · refine Board.Absorbs.setNodeState fun node isNode terminal => ?_
    have dispatched := sound.dispatched nodeId _ active
    rw [Board.stateOf_firstIndex? fenced.nodeFound isNode] at dispatched
    rw [Option.some.inj dispatched] at terminal
    cases terminal

/-- An accepted node has no active attempt when it gets one. -/
theorem dispatches {record : RunRecord} {nodeId : String} {nodeIndex : Nat} {attempt : Attempt}
    (sound : record.board.Sound)
    (found : firstIndex? (fun node => node.nodeId = nodeId) record.dynamicNodes = some nodeIndex)
    (accepted : (record.dynamicNodes.getD nodeIndex default).state = .accepted)
    (named : attempt.nodeId = some (record.dynamicNodes.getD nodeIndex default).nodeId) :
    ((record.board.after (.appendAttempt attempt)).after
        (.setNodeState nodeIndex .dispatched)).Sound ∧
      record.board.Absorbs ((record.board.after (.appendAttempt attempt)).after
        (.setNodeState nodeIndex .dispatched)) := by
  obtain ⟨node, isNode, isNamed⟩ := firstIndex?_some found
  simp only [decide_eq_true_eq] at isNamed
  rw [List.getD_eq_getElem?_getD, isNode, Option.getD_some] at accepted named
  have state : record.board.stateOf nodeId = some .accepted := by
    rw [Board.stateOf_firstIndex? found isNode, accepted]
  refine ⟨sound.dispatch (named.trans (congrArg some isNamed)) found fun index active => ?_, ?_⟩
  · rw [sound.dispatched nodeId index active] at state
    cases state
  · refine Board.Absorbs.setNodeState fun other isOther terminal => ?_
    obtain rfl : node = other := Option.some.inj (isNode.symm.trans isOther)
    rw [accepted] at terminal
    cases terminal

/-- The attempt that a reassignment replaces is the one that it names. -/
theorem reassigned_attempt {uuids : Nat} {args : ReassignArgs} {node : DynamicNode}
    {lost : Attempt} {record : RunRecord} {attemptIndex : Nat}
    (identified : record.board.Identified env uuids)
    (fenced : ReassignFenced record args node lost)
    (attemptFound : firstIndex? (fun attempt => attempt.attemptId = args.lostAttemptId)
      record.attempts = some attemptIndex) :
    record.attempts[attemptIndex]? = some lost ∧ lost.nodeId = some args.nodeId ∧
      lost.state.isActive := by
  obtain ⟨attempt, isAttempt, isLost⟩ := firstIndex?_some attemptFound
  obtain ⟨position, atLost⟩ := List.getElem?_of_mem (List.mem_of_find?_eq_some fenced.found)
  have matched := List.find?_some fenced.found
  simp only [decide_eq_true_eq] at matched isLost
  have same : attemptIndex = position :=
    identified.same_position isAttempt atLost (isLost.trans matched.1.symm)
  subst same
  refine ⟨atLost, matched.2, ?_⟩
  have member : lost ∈ record.activeAttempts args.nodeId := by
    rw [fenced.active]
    exact List.mem_singleton_self lost
  have isActive := (List.mem_filter.1 member).2
  simp only [decide_eq_true_eq] at isActive
  exact isActive.2

/-- A reassignment replaces the only active attempt of a dispatched node. -/
theorem reassigns {uuids : Nat} {args : ReassignArgs} {node : DynamicNode} {lost : Attempt}
    {record : RunRecord} {attemptIndex nodeIndex : Nat} {change : AttemptUpdate}
    {replacement : Attempt} (sound : record.board.Sound)
    (identified : record.board.Identified env uuids)
    (fenced : ReassignFenced record args node lost)
    (attemptFound : firstIndex? (fun attempt => attempt.attemptId = args.lostAttemptId)
      record.attempts = some attemptIndex)
    (nodeFound : firstIndex? (fun node => node.nodeId = args.nodeId) record.dynamicNodes =
      some nodeIndex)
    (inactive : change.state.isActive = false)
    (named : replacement.nodeId = some args.nodeId) :
    (((record.board.after (.updateAttempt attemptIndex change)).after
        (.appendAttempt replacement)).after (.setNodeState nodeIndex .dispatched)).Sound ∧
      record.board.Absorbs (((record.board.after (.updateAttempt attemptIndex change)).after
        (.appendAttempt replacement)).after (.setNodeState nodeIndex .dispatched)) := by
  obtain ⟨isLost, ofNode, isActive⟩ := reassigned_attempt identified fenced attemptFound
  have active : record.board.Active args.nodeId attemptIndex := ⟨lost, isLost, ofNode, isActive⟩
  refine ⟨?_, ?_⟩
  · exact (sound.updateAttempt inactive).dispatch named nodeFound
      (sound.free_of_update inactive active)
  · refine Board.Absorbs.setNodeState fun other isOther terminal => ?_
    have isNode := fenced.nodeFound
    rw [Board.find?_of_firstIndex? nodeFound] at isNode
    obtain rfl : node = other := Option.some.inj (isNode.symm.trans isOther)
    rw [fenced.dispatched] at terminal
    cases terminal

/-- After a node and its attempts have failed no attempt of the node is active. -/
theorem free_of_failure {record : RunRecord} {nodeId : String} {attemptId : Option String}
    {reason : Json} (sound : record.board.Sound)
    (current : record.canFailAttempt nodeId attemptId) (index : Nat) :
    ¬ (record.board.after (.failActive (some nodeId) attemptId reason)).Active nodeId index := by
  intro active
  obtain ⟨attempt, isAttempt, named, isActive, spared⟩ := Board.active_failActive active
  cases attemptId with
  | none => simp [Attempt.matches, named] at spared
  | some wanted =>
      unfold RunRecord.canFailAttempt at current
      dsimp only at current
      split at current
      · cases current
      · rename_i other isOther
        obtain ⟨position, atOther⟩ := List.getElem?_of_mem (List.mem_of_find?_eq_some isOther)
        have matched := List.find?_some isOther
        simp only [decide_eq_true_eq] at matched
        have same : index = position := by
          refine sound.single nodeId index position ⟨attempt, isAttempt, named, isActive⟩
            ⟨other, atOther, matched.2, ?_⟩
          simp only [decide_eq_true_eq] at current
          exact current.2
        subst same
        obtain rfl : attempt = other := Option.some.inj (isAttempt.symm.trans atOther)
        simp [Attempt.matches, matched] at spared

/-- The record that the call was made with passes its checks. -/
theorem failure_in_order {runId nodeId : String} {attemptId : Option String} {error : Option Json}
    {nodeIndex : Nat}
    (permitted : Permitted (fun call repo => repo.failsInOrder env call)
      (.failDynamicNode runId nodeId attemptId error) site)
    (found : firstIndex? (fun node => node.nodeId = nodeId) site.record.dynamicNodes =
      some nodeIndex)
    (isObject : isErrorObject error) (current : site.record.canFailAttempt nodeId attemptId) :
    site.record.state ≠ .running ∧ site.record.failureIsVoid nodeId attemptId ∨
      site.record.state = .running ∧
        (site.start.provenance env site.record none).isOk ∧
        site.record.board.stateOf nodeId ≠ some .completed ∧
        site.record.board.stateOf nodeId ≠ some .decisionRequired := by
  obtain ⟨start, inOrder, alike, record⟩ := permitted.record rfl
  have provenance : start.provenance env site.record none =
      site.start.provenance env site.record none := provenance_alike alike site.record
  have admitted : site.record.admitsFailure nodeId attemptId error := by
    simp [RunRecord.admitsFailure, found, isObject, current]
  simp only [Repo.failsInOrder, record, provenance, admitted, Bool.not_true, Bool.false_or,
    Bool.or_eq_true, Bool.and_eq_true, decide_eq_true_eq] at inOrder
  rcases inOrder with ⟨notRunning, isVoid⟩ | ⟨⟨⟨running, resolved⟩, notCompleted⟩, decided⟩
  · exact .inl ⟨notRunning, isVoid⟩
  · exact .inr ⟨running, resolved, notCompleted, decided⟩

/-- Failing a node and its attempts leaves the board sound. -/
theorem fails_sound {record : RunRecord} {nodeId : String} {attemptId : Option String}
    {nodeIndex : Nat} {reason : Json} (sound : record.board.Sound)
    (found : firstIndex? (fun node => node.nodeId = nodeId) record.dynamicNodes = some nodeIndex)
    (current : record.canFailAttempt nodeId attemptId) :
    ((record.board.after (.setNodeState nodeIndex .failed)).after
      (.failActive (some nodeId) attemptId reason)).Sound := by
  show ((record.board.after (.failActive (some nodeId) attemptId reason)).after
    (.setNodeState nodeIndex .failed)).Sound
  exact (sound.failActive _ _ _).setNodeState .failed found (free_of_failure sound current)

/-- A call that is in order fails a node that is not terminal. -/
theorem fails_absorbs {runId nodeId : String} {attemptId : Option String} {error : Option Json}
    {nodeIndex : Nat} {reason : Json}
    (permitted : Permitted (fun call repo => repo.failsInOrder env call)
      (.failDynamicNode runId nodeId attemptId error) site)
    (found : firstIndex? (fun node => node.nodeId = nodeId) site.record.dynamicNodes =
      some nodeIndex)
    (isObject : isErrorObject error) (current : site.record.canFailAttempt nodeId attemptId) :
    site.record.board.Absorbs ((site.record.board.after (.setNodeState nodeIndex .failed)).after
      (.failActive (some nodeId) attemptId reason)) := by
  refine Board.Absorbs.trans (Board.Absorbs.setNodeState fun node isNode terminal => ?_)
    (.of_eq rfl)
  have state := Board.stateOf_firstIndex? found isNode
  rcases failure_in_order permitted found isObject current with
    ⟨-, isVoid⟩ | ⟨-, -, notCompleted, decided⟩
  · simp only [RunRecord.failureIsVoid, state, Bool.and_eq_true, decide_eq_true_eq,
      Option.some.injEq] at isVoid
    exact isVoid.1
  · rw [state] at notCompleted decided
    cases isState : node.state with
    | accepted => simp [isState, NodeState.isTerminal] at terminal
    | dispatched => simp [isState, NodeState.isTerminal] at terminal
    | completed => exact absurd (congrArg some isState) notCompleted
    | failed => rfl
    | decisionRequired => exact absurd (congrArg some isState) decided

/-- Write blocks keep the board sound, and in order they keep the terminal nodes as they are. -/
theorem Change.absorbs (change : Change env ok Repo.Still site call updates fate)
    (undisturbed : site.Undisturbed) (sound : site.record.board.Sound) :
    (applyAll updates site.record).board.Sound ∧
      ((call.isSingle → Permitted (fun call repo => repo.failsInOrder env call) call site) →
        site.record.board.Absorbs (applyAll updates site.record).board) := by
  have same : site.record.board = site.loaded.board :=
    Board.board_still (undisturbed.still.record site.address)
  have nodes : site.record.dynamicNodes = site.loaded.dynamicNodes := congrArg Board.nodes same
  have closes : ∀ {index : Nat} {change : AttemptUpdate}, change.state.isActive = false →
      (site.record.board.after (.updateAttempt index change)).Sound ∧
        site.record.board.Absorbs (site.record.board.after (.updateAttempt index change)) :=
    fun inactive => ⟨sound.updateAttempt inactive, .of_eq rfl⟩
  have reported : ∀ {nodeId : String} {result : Json} {report : NodeReport}
      {change : AttemptUpdate} {state : NodeState},
      fenceNodeReport env site.loaded nodeId result = .ok report →
      change.state.isActive = false →
      ((site.record.board.after (.updateAttempt report.attemptIndex change)).after
          (.setNodeState report.nodeIndex state)).Sound ∧
        site.record.board.Absorbs ((site.record.board.after
          (.updateAttempt report.attemptIndex change)).after
            (.setNodeState report.nodeIndex state)) := by
    intro nodeId result report change state fenced inactive
    rw [same] at sound ⊢
    exact settles sound (fenceNodeReport_ok fenced) inactive
  have always : ∀ {board : Board}, board.Sound ∧ site.record.board.Absorbs board →
      board.Sound ∧ ((call.isSingle → Permitted (fun call repo => repo.failsInOrder env call)
        call site) → site.record.board.Absorbs board) :=
    fun both => ⟨both.1, fun _ => both.2⟩
  rw [Board.board_applyAll]
  cases change
  case message | signal | refined | inspected | cancelled | failed | closed | accepted | abandoned |
      commitBlocked | committed | commitLate | startBlocked | startedOrchestration |
      startUnresolved | startLate | requested | finalRejected | finalUndecided |
      finalCompleted => exact always ⟨sound, .of_eq rfl⟩
  case replayed =>
      refine always ⟨.of_idle fun nodeId index => ?_, .releaseNodes site.record.board⟩
      exact Board.idle_of_failAll site.record.board replayReason nodeId index
  case restarted =>
      refine always ⟨.of_idle fun nodeId index => ?_, .of_eq rfl⟩
      exact Board.idle_of_failAll site.record.board site.record.restartReason nodeId index
  case startedTask => exact always ⟨sound.appendTask rfl, .of_eq rfl⟩
  case rejected | rejectedLate | settledUnreadable => exact always (closes rfl)
  case settled settled reason phase error resourceRef evidenceId running =>
      exact always (closes settled.terminalState.attemptState_inactive)
  case settledLate settled illegal =>
    exact always (closes settled.terminalState.attemptState_inactive)
  case installed => exact always ⟨sound.appendNode _, .appendNode _ _⟩
  case installUnresolved => exact always ⟨sound.appendNode _, .appendNode _ _⟩
  case dispatched found accepted budget drawn =>
      rw [← nodes] at found accepted
      exact always (dispatches sound found accepted (by rw [nodes]; rfl))
  case dispatchUnresolved found accepted budget drawn =>
      rw [← nodes] at found accepted
      exact always (dispatches sound found accepted (by rw [nodes]; rfl))
  case nodeCompleted fenced settled provenance completed =>
      exact always (reported fenced settled.terminalState.attemptState_inactive)
  case nodeCompletedUnresolved fenced settled error completed unresolved =>
      exact always (reported fenced settled.terminalState.attemptState_inactive)
  case nodeUndecided fenced settled provenance reason undecided running =>
      exact always (reported fenced settled.terminalState.attemptState_inactive)
  case nodeUndecidedUnresolved fenced settled reason error undecided running unresolved =>
      exact always (reported fenced settled.terminalState.attemptState_inactive)
  case nodeLate fenced settled undecided illegal =>
      exact always (reported fenced settled.terminalState.attemptState_inactive)
  case nodeFailed found isObject current running =>
      exact ⟨fails_sound sound found current, fun permitted =>
        fails_absorbs (permitted rfl) found isObject current⟩
  case nodeFailedUnresolved found isObject current running unresolved =>
      exact ⟨fails_sound sound found current, fun permitted =>
        fails_absorbs (permitted rfl) found isObject current⟩
  case nodeFailedLate found isObject current illegal =>
      exact ⟨fails_sound sound found current, fun permitted =>
        fails_absorbs (permitted rfl) found isObject current⟩

/-- What a reassignment checked when it loaded the record holds when it copies it. -/
theorem Reassignment.fenced_now {args : ReassignArgs}
    (move : Reassignment env Repo.Still site args) (undisturbed : site.Undisturbed) :
    ReassignFenced site.record args move.node move.lost := by
  have fenced := fenceReassign_ok move.fenced
  obtain ⟨events, packages, -, still⟩ := undisturbed.still.record site.address
  have record : site.record = { site.loaded with
    events := site.loaded.events ++ events
    capabilityPackages := site.loaded.capabilityPackages ++ packages } := still
  rw [record]
  exact ⟨fenced.running, fenced.execution, fenced.epoch, fenced.nodeFound, fenced.found,
    fenced.dispatched, fenced.active, fenced.attemptEpoch⟩

theorem Reassignment.absorbs {args : ReassignArgs} (move : Reassignment env Repo.Still site args)
    (undisturbed : site.Undisturbed) (tracked : Tracked env ⟨site.start.uuids, site.record⟩) :
    (applyAll move.updates site.record).board.Sound ∧
      site.record.board.Absorbs (applyAll move.updates site.record).board := by
  rw [Board.board_applyAll]
  exact reassigns tracked.sound tracked.identified (move.fenced_now undisturbed)
    move.attemptFound move.nodeFound rfl rfl

/-! ### One call -/

theorem modify_failed {nodes : List DynamicNode} {index : Nat}
    (failed : ∀ node, nodes[index]? = some node → node.state = .failed) :
    (nodes.modify index fun node => { node with state := .failed }) = nodes := by
  refine List.ext_getElem? fun position => ?_
  rw [List.getElem?_modify]
  cases isNode : nodes[position]? with
  | none => rfl
  | some node =>
      show some _ = some node
      split
      · rename_i same
        subst same
        rw [← failed node isNode]
      · rfl

/-- Failing a failed node without active attempts writes what is there already. -/
theorem failure_void {record : RunRecord} {nodeId : String} {attemptId : Option String}
    {nodeIndex : Nat} (reason : Json)
    (found : firstIndex? (fun node => node.nodeId = nodeId) record.dynamicNodes = some nodeIndex)
    (isVoid : record.failureIsVoid nodeId attemptId) :
    applyAll [RecordWrite.setNodeState nodeIndex .failed,
      .failActive (some nodeId) attemptId reason] record = record := by
  simp only [RunRecord.failureIsVoid, Bool.and_eq_true, decide_eq_true_eq, List.all_eq_true,
    Bool.not_eq_true', Bool.and_eq_false_iff] at isVoid
  obtain ⟨failed, finished⟩ := isVoid
  have nodes : (record.dynamicNodes.modify nodeIndex fun node =>
      { node with state := NodeState.failed }) = record.dynamicNodes := by
    refine modify_failed fun node isNode => ?_
    rw [Board.stateOf_firstIndex? found isNode] at failed
    exact Option.some.inj failed
  have attempts : (record.attempts.map fun attempt =>
      attempt.failIfActive (some nodeId) attemptId reason) = record.attempts := by
    refine (List.map_congr_left fun attempt member => ?_).trans (List.map_id' record.attempts)
    unfold Attempt.failIfActive
    rw [if_neg]
    rintro ⟨matched, active⟩
    rcases finished attempt member with unmatched | inactive
    · rw [matched] at unmatched
      cases unmatched
    · rw [active] at inactive
      cases inactive
  show { record with
    dynamicNodes := record.dynamicNodes.modify nodeIndex _, attempts := record.attempts.map _ } = _
  rw [nodes, attempts]

/-- A call in order that raises has changed nothing, where storage accepts records. -/
theorem failure_atomic {runId nodeId : String} {attemptId : Option String} {error : Option Json}
    {answers : (query : Query) → Answer query → Prop} {before after : Repo} {raised : Exc}
    (inOrder : before.failsInOrder env (.failDynamicNode runId nodeId attemptId error))
    (accepts : StorageAccepts answers)
    (runs : ((Call.failDynamicNode runId nodeId attemptId error).prog env).Runs answers before
      after (.error raised)) (other : String) : after.run? other = before.run? other := by
  cases Call.performed rfl runs with
  | idle same =>
      unfold Repo.run? Repo.address?
      rw [same.heap, same.runs]
  | wrote site updates fate performs ends =>
      have permitted : Permitted (fun call repo => repo.failsInOrder env call)
          (.failDynamicNode runId nodeId attemptId error) site :=
        ⟨before, inOrder, performs.start, performs.named⟩
      have running : ∀ {nodeIndex : Nat},
          firstIndex? (fun node => node.nodeId = nodeId) site.record.dynamicNodes =
            some nodeIndex → isErrorObject error → site.record.canFailAttempt nodeId attemptId →
          site.record.state = .running → (site.start.provenance env site.record none).isOk := by
        intro nodeIndex found isObject current isRunning
        rcases failure_in_order permitted found isObject current with
          ⟨notRunning, -⟩ | ⟨-, resolved, -, -⟩
        · exact absurd isRunning notRunning
        · exact resolved
      have change := performs.change
      cases change with
      | nodeFailed nodeIndex target provenance found isObject current isRunning =>
          exact absurd (ends rfl raised rfl) (accepts _ _)
      | nodeFailedUnresolved nodeIndex unknown found isObject current isRunning unresolved =>
          have resolved := running found isObject current isRunning
          rw [unresolved] at resolved
          cases resolved
      | nodeFailedLate nodeIndex found isObject current illegal =>
          have same : applyAll (writesAt site.address
              [.setNodeState nodeIndex .failed,
                .failActive (some nodeId) attemptId (failureReason error)]) site.start =
              site.start := by
            rw [applyAll_writesAt]
            rcases failure_in_order permitted found isObject current with
              ⟨-, isVoid⟩ | ⟨isRunning, -⟩
            · have unchanged := failure_void (failureReason error) found isVoid
              unfold Site.record at unchanged
              rw [unchanged, Function.update_eq_self]
            · exact absurd isRunning illegal
          have final := performs.final
          rw [same] at final
          unfold Repo.run? Repo.address?
          rw [final.heap, final.runs, performs.start.heap, performs.start.runs]

end Steps

section Histories

variable {env : Env} {ok : (query : Query) → Answer query → Prop}

theorem absorbs_rule (injective : Function.Injective env.hex) :
    Rule env ok (fun call repo => repo.failsInOrder env call) fun before after =>
      Tracked env before → Tracked env after ∧ before.record.board.Absorbs after.record.board where
  still later still tracked := by
    have same := Board.board_still still
    refine ⟨⟨?_, ?_⟩, .of_eq (congrArg Board.nodes same)⟩
    · rw [same]
      exact tracked.sound
    · rw [same]
      exact tracked.identified.mono later
  trans one two tracked := by
    obtain ⟨tracked', absorbs⟩ := one tracked
    obtain ⟨tracked'', absorbs'⟩ := two tracked'
    exact ⟨tracked'', absorbs.trans absorbs'⟩
  change change undisturbed _ permitted tracked := by
    obtain ⟨sound, absorbs⟩ := change.absorbs undisturbed tracked.sound
    exact ⟨⟨sound, tracked.identified.changed injective undisturbed.later change.newAttempts⟩,
      absorbs permitted⟩
  reassign {site args} move undisturbed tracked := by
    obtain ⟨sound, absorbs⟩ := move.absorbs undisturbed tracked
    refine ⟨⟨sound, ?_⟩, absorbs⟩
    exact tracked.identified.changed injective undisturbed.later
      (.inr ⟨move.replacement, move.number, rfl, rfl, move.drawn⟩)
  draft {site operations draft record} change undisturbed _ packed tracked := by
    have same : (applyAll draft record).board = record.board := by
      rw [Board.board_applyAll]
      cases change <;> rfl
    refine ⟨⟨?_, ?_⟩, .of_eq (congrArg Board.nodes same)⟩
    · rw [same]
      exact tracked.sound
    · rw [same]
      exact tracked.identified.mono undisturbed.later

/-- In a history whose calls of `fail_dynamic_node` are in order, a node that reached a terminal
state keeps it for ever, and a call of `fail_dynamic_node` that raises has changed no record,
where storage accepts records. -/
theorem terminal_nodes_absorbing (injective : Function.Injective env.hex)
    {entries more : List (Entry Repo Exc Answer Reply Call)} {repo repo' : Repo}
    (history : Observed env ok entries repo)
    (later : History (Call.prog env) ok repo more repo')
    (inOrder : ∀ entry ∈ entries ++ more, entry.before.failsInOrder env entry.label)
    (fresh : ∀ entry ∈ more, entry.before.isFresh env entry.label) :
    (∀ runId record, repo.run? runId = some record →
      ∀ (index : Nat) (node : DynamicNode), record.dynamicNodes[index]? = some node →
        node.state.isTerminal →
        ∃ (record' : RunRecord) (node' : DynamicNode), repo'.run? runId = some record' ∧
          record'.dynamicNodes[index]? = some node' ∧ node'.nodeId = node.nodeId ∧
          node'.state = node.state) ∧
    ∀ entry ∈ entries ++ more, ∀ runId nodeId attemptId error raised,
      entry.label = .failDynamicNode runId nodeId attemptId error →
      StorageAccepts entry.answers → entry.result = .error raised →
      ∀ other, entry.after.run? other = entry.before.run? other := by
  have rule : Rule env ok _ _ := absorbs_rule injective
  obtain ⟨all, -⟩ := rule.invariant (fun before after moves tracked => (moves tracked).1)
    (fun args drawn runId record uuids isNew => by
      obtain ⟨contract, draft, createdAt, -, rfl⟩ := isNew.isNew
      refine ⟨.of_idle ?_, ⟨List.nodup_nil, fun attemptId member => by cases member⟩⟩
      rintro nodeId index ⟨attempt, isAttempt, -⟩
      cases isAttempt) history
    fun entry member => inOrder entry (List.mem_append_left _ member)
  refine ⟨fun runId record installed index node isNode terminal => ?_, ?_⟩
  · obtain ⟨record', installed', moves⟩ := rule.lasts later all.allocated
      (fun entry member => inOrder entry (List.mem_append_right _ member)) fresh installed
    obtain ⟨-, absorbs⟩ := moves (all.record runId record installed)
    obtain ⟨node', isNode', named, kept⟩ := absorbs index node isNode
    exact ⟨record', node', installed', isNode', named, kept terminal⟩
  · intro entry member runId nodeId attemptId error raised isFail accepts isRaised
    have runs : (entry.label.prog env).Runs entry.answers entry.before entry.after
      entry.result := by
      rcases List.mem_append.1 member with member | member
      · exact (history.runs_answered entry member).1
      · exact (later.runs_answered entry member).1
    rw [isRaised, isFail] at runs
    have ordered := inOrder entry member
    rw [isFail] at ordered
    exact failure_atomic ordered accepts runs

/-- A dispatched node fails; a second call is refused and the run is cancelled. -/
def failedCalls : List (Call × World) :=
  Demo.usually [.failDynamicNode "run" Demo.firstNode (some "attempt-7") none]

def refusedCalls : List (Call × World) :=
  Demo.usually [.failDynamicNode "run" Demo.firstNode (some "attempt-7") none,
    .cancelRun "run" (.str "stop")]

/-- What is checked of the calls after the setup. -/
def refusedEntries : List (Entry Repo Exc Answer Reply Call) :=
  (play (Call.prog Demo.env) refusedCalls (Demo.goOn failedCalls).2).1

theorem terminal_nodes_absorbing_failed :
    ∃ (record : RunRecord) (node : DynamicNode),
      (play (Call.prog Demo.env) refusedCalls (Demo.goOn failedCalls).2).2.run? "run" =
        some record ∧ record.dynamicNodes[0]? = some node ∧ node.nodeId = Demo.firstNode ∧
      node.state = .failed := by
  have launch : ∀ entry ∈ Demo.launch, entry.before.failsInOrder Demo.env entry.label := by
    refine Demo.launch_all fun entry isCall => ?_
    rcases entry with ⟨label, answers, before, after, result⟩
    simp only [Demo.orchestrated, Demo.dispatched, List.cons_append, List.nil_append,
      List.mem_cons, List.not_mem_nil, or_false] at isCall
    rcases isCall with rfl | rfl | rfl | rfl | rfl | rfl <;> rfl
  have played : ((Demo.goOn failedCalls).1 ++ refusedEntries).all (fun entry =>
      entry.before.failsInOrder Demo.env entry.label) := by decide +kernel
  have fresh : refusedEntries.all (fun entry => entry.before.isFresh Demo.env entry.label) := by
    decide +kernel
  have failed : ((Demo.goOn failedCalls).2.run? "run").map (fun record =>
      record.dynamicNodes[0]?.map fun node => (node.nodeId, node.state)) =
        some (some (Demo.firstNode, .failed)) := by decide +kernel
  obtain ⟨record, found, isFirst⟩ := Option.map_eq_some_iff.1 failed
  obtain ⟨node, isNode, same⟩ := Option.map_eq_some_iff.1 isFirst
  obtain ⟨named, state⟩ := Prod.mk.inj same
  obtain ⟨absorbing, -⟩ := terminal_nodes_absorbing Demo.hex_injective
    (Demo.observed_goOn failedCalls) (Observed.later_of_play Demo.env refusedCalls _)
    (fun entry member => by
      rw [List.append_assoc] at member
      rcases List.mem_append.1 member with member | member
      · exact launch entry member
      · exact List.all_eq_true.1 played entry member)
    (fun entry member => List.all_eq_true.1 fresh entry member)
  obtain ⟨record', node', found', isNode', named', state'⟩ :=
    absorbing "run" record found 0 node isNode (by rw [state]; rfl)
  exact ⟨record', node', found', isNode', named'.trans named, state'.trans state⟩

/-- A cancelled run whose dispatched node is failed. -/
def lateFailure : List (Call × World) :=
  Demo.usually [.cancelRun "run" (.str "stop"), .failDynamicNode "run" Demo.firstNode none none]

/-- A completed node that is failed without naming an attempt. -/
def secondVerdict : List (Call × World) :=
  Demo.usually [.recordDynamicNodeResult "run" Demo.firstNode (Demo.nodeResult "attempt-7" []),
    .failDynamicNode "run" Demo.firstNode none none]

/-- The state of the first node of the run. -/
def firstState (repo : Repo) : Option NodeState :=
  (repo.run? "run").bind fun record => record.board.stateOf Demo.firstNode

/-- Failing the node of a cancelled run raises `illegal_state_transition` and has failed the node;
failing a completed node without naming an attempt turns it from completed to failed. -/
theorem failure_not_atomic :
    (∃ entries repo, Observed Demo.env (fun _ _ => True) entries repo ∧ ∃ entry ∈ entries,
      entry.label = .failDynamicNode "run" Demo.firstNode none none ∧
        entry.result = .error illegalTransition ∧
        entry.after.run? "run" ≠ entry.before.run? "run") ∧
    ∃ entries repo, Observed Demo.env (fun _ _ => True) entries repo ∧ ∃ entry ∈ entries,
      firstState entry.before = some .completed ∧ firstState entry.after = some .failed := by
  refine ⟨⟨_, _, Demo.observed_goOn lateFailure, ?_⟩, ⟨_, _, Demo.observed_goOn secondVerdict, ?_⟩⟩
  · have facts : (Demo.goOn lateFailure).1.any (fun entry =>
        entry.label = .failDynamicNode "run" Demo.firstNode none none ∧
          raised? entry.result = some illegalTransition ∧
          firstState entry.before = some .dispatched ∧ firstState entry.after = some .failed) := by
      decide +kernel
    obtain ⟨entry, member, isEntry⟩ := List.any_eq_true.1 facts
    simp only [decide_eq_true_eq] at isEntry
    obtain ⟨label, raised, before, after⟩ := isEntry
    refine ⟨entry, List.mem_append_right _ member, label, eq_of_raised? raised, fun same => ?_⟩
    unfold firstState at before after
    rw [same, before] at after
    cases after
  · have facts : (Demo.goOn secondVerdict).1.any (fun entry =>
        firstState entry.before = some .completed ∧ firstState entry.after = some .failed) := by
      decide +kernel
    obtain ⟨entry, member, isEntry⟩ := List.any_eq_true.1 facts
    simp only [decide_eq_true_eq] at isEntry
    exact ⟨entry, List.mem_append_right _ member, isEntry⟩

end Histories

end Loom
