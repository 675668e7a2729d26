import Loom.Observer.Fences
import Loom.Observer.Histories

/-!
# Nodes and attempts

The attempts and the dynamic nodes of a record are its `Board`.  A node is looked up by its id,
an attempt is addressed by its position.  `Board.stateOf` and `Board.Active` are what the
operations see of a board, and the lemmas of this module say how each update changes them.
-/

namespace Loom

open Coroutine

structure Board where
  attempts : List Attempt
  nodes : List DynamicNode

def RunRecord.board (record : RunRecord) : Board := ⟨record.attempts, record.dynamicNodes⟩

/-- The attempt that an update adds. -/
def RecordWrite.newAttempt? : RecordWrite → Option Attempt
  | .appendAttempt attempt => some attempt
  | _ => none

theorem TerminalState.attemptState_inactive (state : TerminalState) :
    state.attemptState.isActive = false := by
  cases state <;> rfl

namespace Board

/-- What an update does to the board of a record. -/
def after (board : Board) : RecordWrite → Board
  | .appendAttempt attempt => { board with attempts := board.attempts ++ [attempt] }
  | .updateAttempt index change =>
      { board with attempts := board.attempts.modify index fun attempt => attempt.update change }
  | .failActive nodeId attemptId reason =>
      { board with
        attempts := board.attempts.map fun attempt =>
          attempt.failIfActive nodeId attemptId reason }
  | .appendNode node => { board with nodes := board.nodes ++ [node] }
  | .setNodeState index state =>
      { board with nodes := board.nodes.modify index fun node => { node with state } }
  | .releaseNodes => { board with nodes := board.nodes.map DynamicNode.release }
  | _ => board

theorem board_apply (update : RecordWrite) (record : RunRecord) :
    (apply update record).board = record.board.after update := by
  cases update with
  | transition event reason =>
      show (RecordWrite.apply (.transition event reason) record).board = _
      unfold RecordWrite.apply
      dsimp only
      split <;> rfl
  | _ => rfl

theorem board_applyAll (updates : List RecordWrite) (record : RunRecord) :
    (applyAll updates record).board = updates.foldl after record.board := by
  induction updates generalizing record with
  | nil => rfl
  | cons update updates ih => rw [applyAll_cons, ih, board_apply, List.foldl_cons]

theorem board_still {before after : RunRecord} (still : before.Still after) :
    after.board = before.board := by
  obtain ⟨events, packages, -, rfl⟩ := still
  rfl

/-! ### Nodes -/

/-- The state of the node with an id. -/
def stateOf (board : Board) (nodeId : String) : Option NodeState :=
  (board.nodes.find? fun node => node.nodeId = nodeId).map fun node => node.state

theorem find?_of_firstIndex? {nodes : List DynamicNode} {nodeId : String} {index : Nat}
    (found : firstIndex? (fun node => node.nodeId = nodeId) nodes = some index) :
    nodes.find? (fun node => node.nodeId = nodeId) = nodes[index]? := by
  unfold firstIndex? at found
  obtain ⟨bound, -, -⟩ := List.findIdx?_eq_some_iff_getElem.1 found
  rw [List.find?_eq_getElem?_findIdx, List.findIdx_eq_getD_findIdx?, found]
  rfl

theorem stateOf_firstIndex? {board : Board} {nodeId : String} {index : Nat} {node : DynamicNode}
    (found : firstIndex? (fun node => node.nodeId = nodeId) board.nodes = some index)
    (isNode : board.nodes[index]? = some node) : board.stateOf nodeId = some node.state := by
  unfold stateOf
  rw [find?_of_firstIndex? found, isNode]
  rfl

theorem find?_modify {nodes : List DynamicNode} {nodeId : String} {index : Nat}
    (state : NodeState) (other : String)
    (found : firstIndex? (fun node => node.nodeId = nodeId) nodes = some index) :
    ((nodes.modify index fun node => { node with state }).find? fun node => node.nodeId = other) =
      if other = nodeId then
        (nodes.find? fun node => node.nodeId = nodeId).map fun node => { node with state }
      else nodes.find? fun node => node.nodeId = other := by
  induction nodes generalizing index with
  | nil => cases found
  | cons node nodes ih =>
      unfold firstIndex? at found
      rw [List.findIdx?_cons] at found
      by_cases here : node.nodeId = nodeId
      · simp only [here, decide_true, if_true] at found
        cases found
        by_cases same : other = nodeId
        · subst same
          simp [here]
        · have apart : ¬ node.nodeId = other := fun equal => same (equal.symm.trans here)
          simp [same, apart]
      · simp only [here, decide_false] at found
        obtain ⟨rest, foundRest, rfl⟩ := Option.map_eq_some_iff.1 found
        have later := ih foundRest
        rw [List.modify_succ_cons, List.find?_cons, List.find?_cons, List.find?_cons, later]
        by_cases same : other = nodeId
        · subst same
          simp [here]
        · simp [same]

/-- Setting the state of the node with an id leaves the other ids alone. -/
theorem stateOf_setNodeState {board : Board} {nodeId : String} {index : Nat} (state : NodeState)
    (found : firstIndex? (fun node => node.nodeId = nodeId) board.nodes = some index)
    (other : String) :
    (board.after (.setNodeState index state)).stateOf other =
      if other = nodeId then some state else board.stateOf other := by
  show (List.find? _ (board.nodes.modify index _)).map _ = _
  rw [find?_modify state other found]
  split
  · obtain ⟨node, isNode, -⟩ := firstIndex?_some found
    rw [find?_of_firstIndex? found, isNode]
    rfl
  · rfl

theorem stateOf_appendNode {board : Board} {nodeId : String} {state : NodeState}
    (node : DynamicNode) (known : board.stateOf nodeId = some state) :
    (board.after (.appendNode node)).stateOf nodeId = some state := by
  unfold stateOf at known ⊢
  obtain ⟨other, isOther, same⟩ := Option.map_eq_some_iff.1 known
  show (List.find? _ (board.nodes ++ [node])).map _ = _
  rw [List.find?_append, isOther]
  simp [same]

/-! ### Attempts -/

/-- The attempt at a position is an active attempt of a node. -/
def Active (board : Board) (nodeId : String) (index : Nat) : Prop :=
  ∃ attempt, board.attempts[index]? = some attempt ∧ attempt.nodeId = some nodeId ∧
    attempt.state.isActive

theorem active_appendAttempt {board : Board} {nodeId : String} {index : Nat} (attempt : Attempt) :
    (board.after (.appendAttempt attempt)).Active nodeId index ↔
      board.Active nodeId index ∨ index = board.attempts.length ∧
        attempt.nodeId = some nodeId ∧ attempt.state.isActive := by
  show (∃ found, (board.attempts ++ [attempt])[index]? = some found ∧ _) ↔ _
  constructor
  · rintro ⟨found, isFound, named, active⟩
    rw [List.getElem?_append] at isFound
    split at isFound
    · exact .inl ⟨found, isFound, named, active⟩
    · rw [List.getElem?_singleton] at isFound
      split at isFound
      · cases isFound
        exact .inr ⟨by omega, named, active⟩
      · cases isFound
  · rintro (⟨found, isFound, named, active⟩ | ⟨rfl, named, active⟩)
    · refine ⟨found, ?_, named, active⟩
      rw [List.getElem?_append_left (List.getElem?_eq_some_iff.1 isFound).1]
      exact isFound
    · exact ⟨attempt, by simp, named, active⟩

theorem active_updateAttempt {board : Board} {nodeId : String} {index position : Nat}
    {change : AttemptUpdate} (inactive : change.state.isActive = false) :
    (board.after (.updateAttempt position change)).Active nodeId index ↔
      board.Active nodeId index ∧ index ≠ position := by
  show (∃ found, (board.attempts.modify position _)[index]? = some found ∧ _) ↔ _
  constructor
  · rintro ⟨found, isFound, named, active⟩
    rw [List.getElem?_modify] at isFound
    obtain ⟨attempt, isAttempt, same⟩ := Option.map_eq_some_iff.1 isFound
    by_cases here : position = index
    · simp only [here, if_true] at same
      subst same
      rw [Attempt.update_state, inactive] at active
      cases active
    · simp only [here, if_false] at same
      subst same
      exact ⟨⟨_, isAttempt, named, active⟩, fun equal => here equal.symm⟩
  · rintro ⟨⟨attempt, isAttempt, named, active⟩, apart⟩
    refine ⟨attempt, ?_, named, active⟩
    rw [List.getElem?_modify, isAttempt]
    simp [Ne.symm apart]

theorem active_failActive {board : Board} {nodeId : String} {index : Nat}
    {failed attemptId : Option String} {reason : Json}
    (active : (board.after (.failActive failed attemptId reason)).Active nodeId index) :
    ∃ attempt, board.attempts[index]? = some attempt ∧ attempt.nodeId = some nodeId ∧
      attempt.state.isActive ∧ attempt.matches failed attemptId = false := by
  obtain ⟨found, isFound, named, isActive⟩ := active
  have isFound : (board.attempts.map fun attempt =>
    attempt.failIfActive failed attemptId reason)[index]? = some found := isFound
  rw [List.getElem?_map] at isFound
  obtain ⟨attempt, isAttempt, same⟩ := Option.map_eq_some_iff.1 isFound
  subst same
  unfold Attempt.failIfActive at named isActive
  split at isActive
  · cases isActive
  · rename_i spared
    simp only [spared, if_false] at named
    refine ⟨attempt, isAttempt, named, isActive, ?_⟩
    by_contra matched
    exact spared ⟨by simpa using matched, isActive⟩

/-! ### Attempt ids -/

def attemptIds (board : Board) : List String := board.attempts.map fun attempt => attempt.attemptId

theorem attemptIds_after (board : Board) (update : RecordWrite) :
    (board.after update).attemptIds =
      board.attemptIds ++ update.newAttempt?.toList.map fun attempt => attempt.attemptId := by
  cases update with
  | appendAttempt attempt =>
      simp [attemptIds, after, RecordWrite.newAttempt?]
  | updateAttempt index change =>
      show (board.attempts.modify index _).map _ = _
      refine List.ext_getElem? fun position => ?_
      simp only [attemptIds, RecordWrite.newAttempt?, Option.toList_none, List.map_nil,
        List.append_nil, List.getElem?_map, List.getElem?_modify]
      cases board.attempts[position]? with
      | none => rfl
      | some attempt =>
          show some _ = some _
          congr 1
          split <;> rfl
  | failActive nodeId attemptId reason =>
      show (board.attempts.map _).map _ = _
      simp only [attemptIds, RecordWrite.newAttempt?, Option.toList_none, List.map_nil,
        List.append_nil, List.map_map]
      congr 1
      funext attempt
      simp only [Function.comp, Attempt.failIfActive]
      split <;> rfl
  | _ => simp [attemptIds, after, RecordWrite.newAttempt?]

theorem attemptIds_foldl (board : Board) (updates : List RecordWrite) :
    (updates.foldl after board).attemptIds = board.attemptIds ++
      (updates.filterMap RecordWrite.newAttempt?).map fun attempt => attempt.attemptId := by
  induction updates generalizing board with
  | nil => simp
  | cons update updates ih =>
      rw [List.foldl_cons, ih, attemptIds_after, List.filterMap_cons]
      cases update.newAttempt? <;> simp

/-- The attempts have different ids, which come from uuids drawn so far. -/
structure Identified (env : Env) (uuids : Nat) (board : Board) : Prop where
  distinct : board.attemptIds.Nodup
  drawn : ∀ attemptId ∈ board.attemptIds, ∃ number < uuids, attemptId = "attempt-" ++ env.hex number

namespace Identified

variable {env : Env} {uuids : Nat} {board : Board}

theorem mono {more : Nat} (identified : board.Identified env uuids) (later : uuids ≤ more) :
    board.Identified env more := by
  refine ⟨identified.distinct, fun attemptId member => ?_⟩
  obtain ⟨number, earlier, same⟩ := identified.drawn attemptId member
  exact ⟨number, by omega, same⟩

theorem same_position (identified : board.Identified env uuids) {index other : Nat}
    {attempt attempt' : Attempt} (isAttempt : board.attempts[index]? = some attempt)
    (isOther : board.attempts[other]? = some attempt')
    (same : attempt.attemptId = attempt'.attemptId) : index = other := by
  have bound : index < board.attemptIds.length := by
    simpa [attemptIds] using (List.getElem?_eq_some_iff.1 isAttempt).1
  refine (List.getElem?_inj bound identified.distinct).1 ?_
  simp [attemptIds, isAttempt, isOther, same]

end Identified

/-! ### Dispatched nodes -/

/-- A node has an active attempt only while it is dispatched, and then only one. -/
structure Sound (board : Board) : Prop where
  dispatched : ∀ nodeId index, board.Active nodeId index →
    board.stateOf nodeId = some .dispatched
  single : ∀ nodeId index other, board.Active nodeId index → board.Active nodeId other →
    index = other

namespace Sound

variable {board : Board} {nodeId : String} {nodeIndex attemptIndex : Nat}
variable {change : AttemptUpdate}

theorem of_idle (idle : ∀ nodeId index, ¬ board.Active nodeId index) : board.Sound :=
  ⟨fun nodeId index active => absurd active (idle nodeId index),
    fun nodeId index _ active => absurd active (idle nodeId index)⟩

theorem appendNode (sound : board.Sound) (node : DynamicNode) :
    (board.after (.appendNode node)).Sound :=
  ⟨fun nodeId index active => stateOf_appendNode node (sound.dispatched nodeId index active),
    sound.single⟩

theorem updateAttempt (sound : board.Sound) (inactive : change.state.isActive = false) :
    (board.after (.updateAttempt attemptIndex change)).Sound := by
  refine ⟨fun nodeId index active => ?_, fun nodeId index other active active' => ?_⟩
  · exact sound.dispatched nodeId index ((active_updateAttempt inactive).1 active).1
  · exact sound.single nodeId index other ((active_updateAttempt inactive).1 active).1
      ((active_updateAttempt inactive).1 active').1

/-- The state of a node without active attempts may become anything. -/
theorem setNodeState (sound : board.Sound) (state : NodeState)
    (found : firstIndex? (fun node => node.nodeId = nodeId) board.nodes = some nodeIndex)
    (free : ∀ index, ¬ board.Active nodeId index) :
    (board.after (.setNodeState nodeIndex state)).Sound := by
  refine ⟨fun other index active => ?_, sound.single⟩
  have active : board.Active other index := active
  rw [stateOf_setNodeState state found, if_neg]
  · exact sound.dispatched other index active
  · rintro rfl
    exact free index active

/-- A node without active attempts gets one and is dispatched. -/
theorem dispatch (sound : board.Sound) {attempt : Attempt} (named : attempt.nodeId = some nodeId)
    (found : firstIndex? (fun node => node.nodeId = nodeId) board.nodes = some nodeIndex)
    (free : ∀ index, ¬ board.Active nodeId index) :
    ((board.after (.appendAttempt attempt)).after (.setNodeState nodeIndex .dispatched)).Sound := by
  have old : ∀ other index, (board.after (.appendAttempt attempt)).Active other index →
      board.Active other index ∨ other = nodeId ∧ index = board.attempts.length := by
    intro other index active
    rcases (active_appendAttempt attempt).1 active with active | ⟨rfl, isNode, -⟩
    · exact .inl active
    · rw [named] at isNode
      cases isNode
      exact .inr ⟨rfl, rfl⟩
  refine ⟨fun other index active => ?_, fun other index index' active active' => ?_⟩
  · rw [stateOf_setNodeState .dispatched (by exact found)]
    split
    · rfl
    · rename_i apart
      rcases old other index active with active | ⟨same, -⟩
      · exact sound.dispatched other index active
      · exact absurd same apart
  · rcases old other index active with active | ⟨rfl, rfl⟩
    · rcases old other index' active' with active' | ⟨rfl, rfl⟩
      · exact sound.single other index index' active active'
      · exact absurd active (free index)
    · rcases old other index' active' with active' | ⟨-, rfl⟩
      · exact absurd active' (free index')
      · rfl

/-- The only active attempt of a node is over. -/
theorem free_of_update (sound : board.Sound) (inactive : change.state.isActive = false)
    (active : board.Active nodeId attemptIndex) (index : Nat) :
    ¬ (board.after (.updateAttempt attemptIndex change)).Active nodeId index := by
  intro remains
  obtain ⟨active', apart⟩ := (active_updateAttempt inactive).1 remains
  exact apart (sound.single nodeId index attemptIndex active' active)

end Sound

/-! ### Terminal nodes -/

/-- The nodes keep their positions and ids, and the terminal ones their state. -/
def Absorbs (before after : Board) : Prop :=
  ∀ (index : Nat) (node : DynamicNode), before.nodes[index]? = some node →
    ∃ node' : DynamicNode, after.nodes[index]? = some node' ∧ node'.nodeId = node.nodeId ∧
      (node.state.isTerminal → node'.state = node.state)

namespace Absorbs

variable {before after : Board}

theorem of_eq (same : after.nodes = before.nodes) : Absorbs before after := by
  intro index node isNode
  exact ⟨node, by rw [same]; exact isNode, rfl, fun _ => rfl⟩

theorem trans {first second third : Board} (one : Absorbs first second)
    (two : Absorbs second third) : Absorbs first third := by
  intro index node isNode
  obtain ⟨node', isNode', named, kept⟩ := one index node isNode
  obtain ⟨node'', isNode'', named', kept'⟩ := two index node' isNode'
  refine ⟨node'', isNode'', named'.trans named, fun terminal => ?_⟩
  have same := kept terminal
  rw [← same] at terminal ⊢
  exact kept' terminal

theorem appendNode (board : Board) (node : DynamicNode) :
    Absorbs board (board.after (.appendNode node)) := by
  intro index other isOther
  refine ⟨other, ?_, rfl, fun _ => rfl⟩
  show (board.nodes ++ [node])[index]? = _
  rw [List.getElem?_append_left (List.getElem?_eq_some_iff.1 isOther).1]
  exact isOther

theorem setNodeState {board : Board} {index : Nat} {state : NodeState}
    (kept : ∀ node, board.nodes[index]? = some node → node.state.isTerminal → node.state = state) :
    Absorbs board (board.after (.setNodeState index state)) := by
  intro position node isNode
  refine ⟨if index = position then { node with state } else node, ?_, ?_, ?_⟩
  · show (board.nodes.modify index _)[position]? = _
    rw [List.getElem?_modify, isNode]
    rfl
  · split <;> rfl
  · intro terminal
    split
    · rename_i same
      subst same
      exact (kept node isNode terminal).symm
    · rfl

theorem releaseNodes (board : Board) : Absorbs board (board.after .releaseNodes) := by
  intro index node isNode
  refine ⟨node.release, ?_, ?_, ?_⟩
  · show (board.nodes.map DynamicNode.release)[index]? = _
    rw [List.getElem?_map, isNode]
    rfl
  · unfold DynamicNode.release
    split <;> rfl
  · intro terminal
    unfold DynamicNode.release
    split
    · rename_i dispatched
      rw [dispatched] at terminal
      cases terminal
    · rfl

end Absorbs

end Board

section NewAttempts

variable {env : Env} {ok : (query : Query) → Answer query → Prop} {rely : Repo → Repo → Prop}
  {site : Site} {call : Call} {updates : List RecordWrite} {fate : Fate}

/-- A write block adds at most one attempt, under an id that it has drawn. -/
theorem Change.newAttempts (change : Change env ok rely site call updates fate) :
    updates.filterMap RecordWrite.newAttempt? = [] ∨
      ∃ attempt number, updates.filterMap RecordWrite.newAttempt? = [attempt] ∧
        attempt.attemptId = "attempt-" ++ env.hex number ∧ site.Drawn number := by
  cases change
  case startedTask attemptNumber _ _ _ _ _ _ drawn => exact .inr ⟨_, attemptNumber, rfl, rfl, drawn⟩
  case dispatched number _ _ _ _ _ _ _ _ drawn => exact .inr ⟨_, number, rfl, rfl, drawn⟩
  case dispatchUnresolved number _ _ _ _ _ _ _ _ _ drawn =>
      exact .inr ⟨_, number, rfl, rfl, drawn⟩
  all_goals exact .inl rfl

/-- Write blocks keep the ids of the attempts apart. -/
theorem Board.Identified.changed (injective : Function.Injective env.hex)
    (identified : site.record.board.Identified env site.start.uuids)
    (later : site.start.uuids ≤ site.uuids)
    (added : updates.filterMap RecordWrite.newAttempt? = [] ∨
      ∃ attempt number, updates.filterMap RecordWrite.newAttempt? = [attempt] ∧
        attempt.attemptId = "attempt-" ++ env.hex number ∧ site.Drawn number) :
    (applyAll updates site.record).board.Identified env site.uuids := by
  rw [board_applyAll]
  rcases added with none | ⟨attempt, number, one, named, drawn⟩
  · have same : (updates.foldl after site.record.board).attemptIds =
        site.record.board.attemptIds := by
      rw [attemptIds_foldl, none]
      simp
    refine ⟨by rw [same]; exact identified.distinct, ?_⟩
    rw [same]
    exact (identified.mono later).drawn
  · have ids : (updates.foldl after site.record.board).attemptIds =
        site.record.board.attemptIds ++ ["attempt-" ++ env.hex number] := by
      rw [attemptIds_foldl, one, List.map_singleton, named]
    refine ⟨?_, ?_⟩
    · rw [ids, List.nodup_append]
      refine ⟨identified.distinct, by simp, ?_⟩
      rintro attemptId member other isNew rfl
      rw [List.mem_singleton] at isNew
      obtain ⟨earlier, before, same⟩ := identified.drawn attemptId member
      rw [isNew] at same
      have equal := injective ((String.append_right_inj _).1 same)
      have := drawn.1
      omega
    · intro attemptId member
      rw [ids] at member
      rcases List.mem_append.1 member with member | member
      · exact (identified.mono later).drawn attemptId member
      · rw [List.mem_singleton] at member
        exact ⟨number, drawn.2, member⟩

end NewAttempts

end Loom
