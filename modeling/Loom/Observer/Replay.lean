import Loom.Keyed
import Loom.Observer.Boards

/-!
# Nodes from the event log

`_dynamic_nodes_from_events` of `loom_v2/observer/repository.py` rebuilds the dynamic nodes of a
run from its log.  A `NodeLog` sets the nodes so rebuilt beside those that the record stores, and
the lemmas say what the updates make of the two.
-/

namespace Loom

open Coroutine

/-- `nodes[node_id].state = state`, for the id of a known node. -/
def setReplayed (nodes : List DynamicNode) (nodeId : String) (state : NodeState) :
    List DynamicNode :=
  if nodeId = "" then nodes
  else nodes.map fun node => if node.nodeId = nodeId then { node with state } else node

/-- What the loop of `_dynamic_nodes_from_events` makes of an event.  An event holds the dump of
validated references, which validate to them again. -/
def replayEvent (nodes : List DynamicNode) : Event → List DynamicNode
  | .nodeAccepted _ executionId _ nodeId intentId packageRef capabilityDescriptorRef inputRefs
      _ _ =>
      -- a `DynamicNode` has no empty texts: the loop skips an event that would make one
      if nodeId = "" ∨ executionId.getD "" = "" ∨ intentId = "" then nodes
      else
        Keyed.put DynamicNode.nodeId nodes
          { nodeId, parentExecutionRef := executionId.getD "", intentId, packageRef
            capabilityDescriptorRef, inputRefs, state := .accepted }
  | .nodeReassigned _ _ _ nodeId _ _ _ _ _ _ _ _ _ => setReplayed nodes nodeId .dispatched
  | .nodeDispatched _ _ _ nodeId _ _ _ _ _ => setReplayed nodes nodeId .dispatched
  | .nodeCompleted _ _ nodeId _ _ _ _ _ _ terminalState _ _ _ =>
      setReplayed nodes nodeId terminalState.nodeState
  | _ => nodes

/-- `_dynamic_nodes_from_events`. -/
def dynamicNodesFromEvents (events : List Event) : List DynamicNode :=
  events.foldl replayEvent []

theorem dynamicNodesFromEvents_append (events : List Event) (event : Event) :
    dynamicNodesFromEvents (events ++ [event]) =
      replayEvent (dynamicNodesFromEvents events) event := by
  unfold dynamicNodesFromEvents
  rw [List.foldl_append]
  rfl

/-! ### Node ids -/

/-- The node at each position has the id that was made for its position. -/
def Counted (nodes : List DynamicNode) : Prop :=
  ∀ (index : Nat) (node : DynamicNode), nodes[index]? = some node →
    ∃ executionId, node.nodeId = "node-" ++ executionId ++ "-" ++ toString (index + 1)

/-- The digits behind the last hyphen. -/
theorem trailing_digits (front : List Char) (number : Nat) :
    ((front ++ '-' :: Nat.toDigits 10 number).reverse.takeWhile fun char => char != '-').reverse =
      Nat.toDigits 10 number := by
  have digits : ∀ char ∈ (Nat.toDigits 10 number).reverse, (char != '-') = true := by
    intro char member
    have isDigit := Nat.isDigit_of_mem_toDigits (by decide) (by decide) (List.mem_reverse.1 member)
    rw [bne_iff_ne]
    rintro rfl
    cases isDigit
  rw [List.reverse_append, List.reverse_cons, List.append_assoc,
    List.takeWhile_append_of_pos digits]
  simp

theorem nodeId_injective {executionId other : String} {number number' : Nat}
    (same : "node-" ++ executionId ++ "-" ++ toString number =
      "node-" ++ other ++ "-" ++ toString number') : number = number' := by
  have chars : ∀ (executionId : String) (number : Nat),
      ("node-" ++ executionId ++ "-" ++ toString number).toList =
        ("node-" ++ executionId).toList ++ '-' :: Nat.toDigits 10 number := by
    intro executionId number
    have digits : (toString number).toList = Nat.toDigits 10 number := by
      change (String.ofList (Nat.toDigits 10 number)).toList = _
      simp
    rw [String.toList_append, String.toList_append, digits, List.append_assoc]
    rfl
  have lists := congrArg String.toList same
  rw [chars, chars] at lists
  have digits := trailing_digits ("node-" ++ executionId).toList number
  rw [lists, trailing_digits] at digits
  have read := congrArg (fun chars => Nat.ofDigitChars 10 chars 0) digits
  simpa [Nat.ofDigitChars_toDigits] using read.symm

namespace Counted

variable {nodes : List DynamicNode}

theorem nil : Counted [] := fun index node isNode => by simp at isNode

theorem position (counted : Counted nodes) {index other : Nat} {node node' : DynamicNode}
    (isNode : nodes[index]? = some node) (isOther : nodes[other]? = some node')
    (same : node.nodeId = node'.nodeId) : index = other := by
  obtain ⟨executionId, named⟩ := counted index node isNode
  obtain ⟨otherId, otherNamed⟩ := counted other node' isOther
  have numbers := nodeId_injective (named.symm.trans (same.trans otherNamed))
  omega

theorem nonempty (counted : Counted nodes) {index : Nat} {node : DynamicNode}
    (isNode : nodes[index]? = some node) : node.nodeId ≠ "" := by
  obtain ⟨executionId, named⟩ := counted index node isNode
  intro empty
  rw [empty] at named
  have length := congrArg String.length named
  simp only [String.length_append] at length
  change 0 = 5 + _ + 1 + _ at length
  omega

theorem append (counted : Counted nodes) (intent : NodeIntent) (executionId : String) :
    Counted (nodes ++ [intent.node executionId (nodes.length + 1)]) := by
  intro index node isNode
  rw [List.getElem?_append] at isNode
  split at isNode
  · exact counted index node isNode
  · rw [List.getElem?_singleton] at isNode
    split at isNode
    · cases isNode
      have last : index = nodes.length := by omega
      subst last
      exact ⟨executionId, rfl⟩
    · cases isNode

/-- A change that keeps the ids. -/
theorem modify (counted : Counted nodes) (index : Nat) (state : NodeState) :
    Counted (nodes.modify index fun node => { node with state }) := by
  intro position node isNode
  rw [List.getElem?_modify] at isNode
  obtain ⟨old, isOld, rfl⟩ := Option.map_eq_some_iff.1 isNode
  obtain ⟨executionId, named⟩ := counted position old isOld
  refine ⟨executionId, ?_⟩
  split
  · exact named
  · exact named

theorem release (counted : Counted nodes) : Counted (nodes.map DynamicNode.release) := by
  intro position node isNode
  rw [List.getElem?_map] at isNode
  obtain ⟨old, isOld, rfl⟩ := Option.map_eq_some_iff.1 isNode
  obtain ⟨executionId, named⟩ := counted position old isOld
  refine ⟨executionId, ?_⟩
  unfold DynamicNode.release
  split
  · exact named
  · exact named

/-- The new node has a new id. -/
theorem isNew (counted : Counted nodes) (intent : NodeIntent) (executionId : String) :
    Keyed.find? DynamicNode.nodeId nodes
      (intent.node executionId (nodes.length + 1)).nodeId = none := by
  rw [Keyed.find?_eq_none]
  intro node member same
  obtain ⟨index, isNode⟩ := List.getElem?_of_mem member
  obtain ⟨otherId, named⟩ := counted index node isNode
  have bound := (List.getElem?_eq_some_iff.1 isNode).1
  have numbers := nodeId_injective (named.symm.trans same)
  omega

/-- Setting the state of the node with an id is setting it at the position of that node. -/
theorem setReplayed_eq (counted : Counted nodes) {nodeId : String} {index : Nat}
    (state : NodeState)
    (found : firstIndex? (fun node => node.nodeId = nodeId) nodes = some index) :
    setReplayed nodes nodeId state = nodes.modify index fun node => { node with state } := by
  obtain ⟨node, isNode, named⟩ := firstIndex?_some found
  simp only [decide_eq_true_eq] at named
  unfold setReplayed
  rw [if_neg (named ▸ counted.nonempty isNode)]
  refine List.ext_getElem? fun position => ?_
  rw [List.getElem?_map, List.getElem?_modify]
  cases isOther : nodes[position]? with
  | none => rfl
  | some other =>
      change some _ = some _
      congr 1
      dsimp only
      by_cases same : other.nodeId = nodeId
      · have here := counted.position isNode isOther (named.trans same.symm)
        rw [if_pos same, if_pos here]
      · have elsewhere : index ≠ position := by
          rintro rfl
          rw [isNode] at isOther
          cases isOther
          exact same named
        rw [if_neg same, if_neg elsewhere]

end Counted

/-! ### The log and the record -/

/-- The nodes rebuilt from the log and the nodes of the record. -/
structure NodeLog where
  replayed : List DynamicNode
  stored : List DynamicNode

def RunRecord.nodeLog (record : RunRecord) : NodeLog :=
  ⟨dynamicNodesFromEvents record.events, record.dynamicNodes⟩

namespace NodeLog

/-- What an update makes of the two. -/
def after (log : NodeLog) : RecordWrite → NodeLog
  | .appendEvent event => { log with replayed := replayEvent log.replayed event }
  | .appendNode node => { log with stored := log.stored ++ [node] }
  | .setNodeState index state =>
      { log with stored := log.stored.modify index fun node => { node with state } }
  | .releaseNodes => { log with stored := log.stored.map DynamicNode.release }
  | _ => log

theorem nodeLog_apply (update : RecordWrite) (record : RunRecord) :
    (apply update record).nodeLog = record.nodeLog.after update := by
  cases update with
  | transition event reason =>
      change (RecordWrite.apply (.transition event reason) record).nodeLog = record.nodeLog
      unfold RecordWrite.apply
      dsimp only
      split
      · change NodeLog.mk (dynamicNodesFromEvents (_ ++ [_])) _ = _
        rw [dynamicNodesFromEvents_append]
        rfl
      · rfl
  | appendEvent event =>
      change NodeLog.mk (dynamicNodesFromEvents (record.events ++ [event])) _ = _
      rw [dynamicNodesFromEvents_append]
      rfl
  | _ => rfl

theorem nodeLog_applyAll (updates : List RecordWrite) (record : RunRecord) :
    (applyAll updates record).nodeLog = updates.foldl after record.nodeLog := by
  induction updates generalizing record with
  | nil => rfl
  | cons update updates ih => rw [applyAll_cons, ih, nodeLog_apply, List.foldl_cons]

theorem replayEvent_light (nodes : List DynamicNode) {event : Event} (isLight : event.isLight) :
    replayEvent nodes event = nodes := by
  cases event <;> first | rfl | cases isLight

theorem nodeLog_still {before after : RunRecord} (still : before.Still after) :
    after.nodeLog = before.nodeLog := by
  obtain ⟨events, packages, light, rfl⟩ := still
  change NodeLog.mk (dynamicNodesFromEvents (before.events ++ events)) _ = NodeLog.mk _ _
  congr 1
  unfold dynamicNodesFromEvents
  rw [List.foldl_append]
  generalize before.events.foldl replayEvent [] = nodes
  induction events with
  | nil => rfl
  | cons event events ih =>
      rw [List.foldl_cons, replayEvent_light nodes (light event List.mem_cons_self)]
      exact ih fun other member => light other (List.mem_cons_of_mem _ member)

/-- The log rebuilds the nodes of the record, which have the ids of their positions. -/
structure Agrees (log : NodeLog) : Prop where
  replayed : log.replayed = log.stored
  counted : Counted log.stored

namespace Agrees

variable {log : NodeLog}

/-- A node is accepted and logged. -/
theorem accept (agrees : log.Agrees) {intent : NodeIntent} {executionId : String}
    (intended : intent.intentId ≠ "") (executed : executionId ≠ "") {runId target : String}
    {executionEpoch : Nat} {provenance : Provenance} :
    ((log.after (.appendNode (intent.node executionId (log.stored.length + 1)))).after
      (.appendEvent (.nodeAccepted runId (some executionId) executionEpoch
        (intent.node executionId (log.stored.length + 1)).nodeId intent.intentId intent.packageRef
        intent.capabilityDescriptorRef intent.inputRefs target provenance))).Agrees := by
  have counted := agrees.counted.append intent executionId
  have last :
    (log.stored ++ [intent.node executionId (log.stored.length + 1)])[log.stored.length]? =
      some (intent.node executionId (log.stored.length + 1)) := by simp
  have named := counted.nonempty last
  refine ⟨?_, counted⟩
  simp only [after]
  rw [agrees.replayed]
  unfold replayEvent
  dsimp only [Option.getD_some]
  rw [if_neg (by simp [named, executed, intended])]
  unfold Keyed.put
  rw [if_neg]
  · rfl
  · have absent := agrees.counted.isNew intent executionId
    exact Option.not_isSome_iff_eq_none.2 absent

/-- A node gets a state that is logged. -/
theorem set (agrees : log.Agrees) {nodeId : String} {index : Nat} (state : NodeState)
    (found : firstIndex? (fun node => node.nodeId = nodeId) log.stored = some index) :
    NodeLog.Agrees ⟨setReplayed log.replayed nodeId state,
      log.stored.modify index fun node => { node with state }⟩ := by
  refine ⟨?_, agrees.counted.modify index state⟩
  change setReplayed log.replayed nodeId state = _
  rw [agrees.replayed]
  exact agrees.counted.setReplayed_eq state found

/-- No node is dispatched when all are released. -/
theorem release (agrees : log.Agrees) (idle : ∀ node ∈ log.stored, node.state ≠ .dispatched) :
    (log.after .releaseNodes).Agrees := by
  refine ⟨?_, agrees.counted.release⟩
  change log.replayed = log.stored.map DynamicNode.release
  rw [agrees.replayed]
  refine ((List.map_congr_left fun node member => ?_).trans (List.map_id' log.stored)).symm
  unfold DynamicNode.release
  rw [if_neg (idle node member)]

end Agrees

end NodeLog

end Loom
