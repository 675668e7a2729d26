import Mathlib.Data.List.Nodup
import Loom.Chains
import Loom.Properties.NodeFailures

/-!
# Lineage of attempts

`reassign_dynamic_node` links the attempt that lost its worker to its replacement.  The attempts of
a node, in the order in which they were made, are a concatenation of chains of replacements
(`Board.Linked`), and an attempt that is lost is never touched again (`Board.KeepsLost`).  A
repeated reassignment creates nothing; it answers with the replacement only where the run still
executes under the execution id and epoch that the call names.
-/

namespace Loom

open Coroutine Chains

namespace Attempt

/-- An attempt is replaced by another, on another target in the same execution epoch. -/
structure ReplacedBy (lost replacement : Attempt) : Prop where
  replaced : lost.replacedByAttemptId = some replacement.attemptId
  replaces : replacement.replacesAttemptId = some lost.attemptId
  elsewhere : replacement.target ≠ lost.target
  epoch : replacement.executionEpoch = lost.executionEpoch

def IsFirst (attempt : Attempt) : Prop := attempt.replacesAttemptId = none

def IsLast (attempt : Attempt) : Prop := attempt.replacedByAttemptId = none

/-- No result was recorded for an attempt. -/
structure Unreported (attempt : Attempt) : Prop where
  resultRef : attempt.resultRef = none
  value : attempt.value = .null
  evidence : attempt.validationEvidence = []

/-- Two states of one attempt agree in what lineage is about. -/
structure Alike (before after : Attempt) : Prop where
  attemptId : after.attemptId = before.attemptId
  nodeId : after.nodeId = before.nodeId
  target : after.target = before.target
  epoch : after.executionEpoch = before.executionEpoch
  replaces : after.replacesAttemptId = before.replacesAttemptId
  replacedBy : after.replacedByAttemptId = before.replacedByAttemptId

/-- An attempt is left alone, or it was active and has ended without being replaced. -/
def Settles (before after : Attempt) : Prop :=
  after = before ∨
    before.state.isActive ∧ after.state.isActive = false ∧ after.state ≠ .lost

/-- The update of the attempt with an id. -/
def updateNamed (attempt : Attempt) (attemptId : String) (change : AttemptUpdate) : Attempt :=
  if attempt.attemptId = attemptId then attempt.update change else attempt

theorem Alike.updateNamed (attempt : Attempt) (attemptId : String) {change : AttemptUpdate}
    (unlinked : change.replacedByAttemptId = none) :
    attempt.Alike (attempt.updateNamed attemptId change) := by
  unfold Attempt.updateNamed
  split
  · refine ⟨rfl, rfl, rfl, rfl, rfl, ?_⟩
    simp [update, unlinked]
  · exact ⟨rfl, rfl, rfl, rfl, rfl, rfl⟩

theorem Alike.failIfActive (attempt : Attempt) (nodeId attemptId : Option String) (reason : Json) :
    attempt.Alike (attempt.failIfActive nodeId attemptId reason) := by
  unfold Attempt.failIfActive
  split <;> exact ⟨rfl, rfl, rfl, rfl, rfl, rfl⟩

theorem Settles.failIfActive (attempt : Attempt) (nodeId attemptId : Option String)
    (reason : Json) : attempt.Settles (attempt.failIfActive nodeId attemptId reason) := by
  unfold Attempt.failIfActive
  split
  · rename_i hit
    exact .inr ⟨hit.2, rfl, by simp⟩
  · exact .inl rfl

theorem ReplacedBy.alike {lost lost' replacement replacement' : Attempt}
    (link : lost.ReplacedBy replacement) (before : lost.Alike lost')
    (after : replacement.Alike replacement') : lost'.ReplacedBy replacement' := by
  refine ⟨?_, ?_, ?_, ?_⟩
  · rw [before.replacedBy, after.attemptId, link.replaced]
  · rw [after.replaces, before.attemptId, link.replaces]
  · rw [after.target, before.target]
    exact link.elsewhere
  · rw [after.epoch, before.epoch, link.epoch]

end Attempt

namespace Board

/-- The attempts of a node, in the order in which they were made. -/
def attemptsOf (board : Board) (nodeId : String) : List Attempt :=
  board.attempts.filter fun attempt => attempt.nodeId = some nodeId

/-- The attempts of every node are chains of replacements.  Exactly the replaced attempts are lost,
only the last attempt of the newest chain can be active, and lost attempts have no result. -/
structure Linked (board : Board) : Prop where
  known : ∀ attempt ∈ board.attempts, ∀ nodeId, attempt.nodeId = some nodeId →
    ∃ node ∈ board.nodes, node.nodeId = nodeId
  lineage : ∀ nodeId,
    Lineage Attempt.ReplacedBy Attempt.IsFirst Attempt.IsLast (board.attemptsOf nodeId)
  lost : ∀ attempt ∈ board.attempts,
    attempt.state = .lost ↔ attempt.replacedByAttemptId ≠ none
  newest : ∀ nodeId, ∀ attempt ∈ board.attemptsOf nodeId, attempt.state.isActive →
    (board.attemptsOf nodeId).getLast? = some attempt
  unreported : ∀ attempt ∈ board.attempts, attempt.state = .lost ∨ attempt.state.isActive →
    attempt.Unreported

/-- The lost attempts stay as they are. -/
def KeepsLost (before after : Board) : Prop :=
  ∀ (index : Nat) (attempt : Attempt), before.attempts[index]? = some attempt →
    attempt.state = .lost → after.attempts[index]? = some attempt

theorem mem_attemptsOf {board : Board} {nodeId : String} {attempt : Attempt} :
    attempt ∈ board.attemptsOf nodeId ↔
      attempt ∈ board.attempts ∧ attempt.nodeId = some nodeId := by
  simp [attemptsOf]

theorem idle_of_free {board : Board} {nodeId : String}
    (free : ∀ index, ¬ board.Active nodeId index) {attempt : Attempt}
    (member : attempt ∈ board.attemptsOf nodeId) : attempt.state.isActive = false := by
  obtain ⟨member, named⟩ := mem_attemptsOf.1 member
  obtain ⟨index, isAttempt⟩ := List.getElem?_of_mem member
  by_contra active
  exact free index ⟨attempt, isAttempt, named, by simpa using active⟩

/-- The update of the attempt at a position is one of all attempts, by their ids. -/
theorem update_eq_map {board : Board} (distinct : board.attemptIds.Nodup) {index : Nat}
    {attempt : Attempt} (isAttempt : board.attempts[index]? = some attempt)
    (change : AttemptUpdate) :
    board.after (.updateAttempt index change) = { board with
      attempts := board.attempts.map fun other => other.updateNamed attempt.attemptId change } := by
  refine congrArg (fun attempts => { board with attempts }) ?_
  refine List.ext_getElem? fun position => ?_
  rw [List.getElem?_modify, List.getElem?_map]
  cases isOther : board.attempts[position]? with
  | none => rfl
  | some other =>
      show some _ = some _
      unfold Attempt.updateNamed
      by_cases here : index = position
      · subst here
        obtain rfl : attempt = other := Option.some.inj (isAttempt.symm.trans isOther)
        simp
      · have apart : other.attemptId ≠ attempt.attemptId := by
          intro same
          have bound : index < board.attemptIds.length := by
            simpa [attemptIds] using (List.getElem?_eq_some_iff.1 isAttempt).1
          refine here ((List.getElem?_inj bound distinct).1 ?_)
          simp [attemptIds, isAttempt, isOther, same]
        simp [here, apart]

theorem attemptsOf_map {board : Board} {change : Attempt → Attempt}
    (named : ∀ attempt, (change attempt).nodeId = attempt.nodeId) (nodeId : String) :
    ({ board with attempts := board.attempts.map change } : Board).attemptsOf nodeId =
      (board.attemptsOf nodeId).map change := by
  show (board.attempts.map change).filter _ = (board.attempts.filter _).map change
  rw [List.filter_map]
  congr 2
  funext attempt
  simp [named attempt]

theorem attemptsOf_append (board : Board) (attempt : Attempt) (nodeId : String) :
    (board.after (.appendAttempt attempt)).attemptsOf nodeId =
      board.attemptsOf nodeId ++ if attempt.nodeId = some nodeId then [attempt] else [] := by
  show (board.attempts ++ [attempt]).filter _ = _
  rw [List.filter_append]
  unfold attemptsOf
  congr 1
  split <;> simp_all

namespace Linked

variable {board : Board}

/-- No attempts are linked. -/
theorem of_empty (empty : board.attempts = []) : board.Linked := by
  have none : ∀ nodeId, board.attemptsOf nodeId = [] := by
    intro nodeId
    rw [attemptsOf, empty]
    rfl
  refine ⟨?_, fun nodeId => ?_, ?_, fun nodeId => ?_, ?_⟩
  · rw [empty]
    simp
  · rw [none]
    exact .nil
  · rw [empty]
    simp
  · rw [none]
    simp
  · rw [empty]
    simp

/-- Only the ids of the nodes matter. -/
theorem nodes (linked : board.Linked) {nodes : List DynamicNode}
    (kept : ∀ node ∈ board.nodes, ∃ node' ∈ nodes, node'.nodeId = node.nodeId) :
    ({ board with nodes } : Board).Linked := by
  refine ⟨fun attempt member nodeId named => ?_, linked.lineage, linked.lost, linked.newest,
    linked.unreported⟩
  obtain ⟨node, isNode, same⟩ := linked.known attempt member nodeId named
  obtain ⟨node', isNode', same'⟩ := kept node isNode
  exact ⟨node', isNode', same'.trans same⟩

theorem settle (linked : board.Linked) {change : Attempt → Attempt}
    (alike : ∀ attempt : Attempt, attempt.Alike (change attempt))
    (settles : ∀ attempt ∈ board.attempts, attempt.Settles (change attempt)) :
    ({ board with attempts := board.attempts.map change } : Board).Linked := by
  refine ⟨?_, fun nodeId => ?_, ?_, fun nodeId attempt member active => ?_, ?_⟩
  · intro attempt member nodeId named
    obtain ⟨other, isOther, rfl⟩ := List.mem_map.1 member
    rw [(alike other).nodeId] at named
    exact linked.known other isOther nodeId named
  · rw [attemptsOf_map fun attempt => (alike attempt).nodeId]
    refine (linked.lineage nodeId).map (fun _ _ link => link.alike (alike _) (alike _)) ?_ ?_
    · intro attempt isFirst
      exact (alike attempt).replaces.trans isFirst
    · intro attempt isLast
      exact (alike attempt).replacedBy.trans isLast
  · intro attempt member
    obtain ⟨other, isOther, rfl⟩ := List.mem_map.1 member
    have before := linked.lost other isOther
    rw [(alike other).replacedBy, ← before]
    rcases settles other isOther with same | ⟨active, -, kept⟩
    · rw [same]
    · refine iff_of_false kept fun lost => ?_
      rw [lost] at active
      cases active
  · rw [attemptsOf_map fun attempt => (alike attempt).nodeId] at member ⊢
    obtain ⟨other, isOther, rfl⟩ := List.mem_map.1 member
    rcases settles other (mem_attemptsOf.1 isOther).1 with same | ⟨-, inactive, -⟩
    · rw [same] at active
      rw [List.getLast?_map, linked.newest nodeId other isOther active]
      rfl
    · rw [inactive] at active
      cases active
  · intro attempt member open'
    obtain ⟨other, isOther, rfl⟩ := List.mem_map.1 member
    rcases settles other isOther with same | ⟨-, inactive, kept⟩
    · rw [same] at open' ⊢
      exact linked.unreported other isOther open'
    · rcases open' with lost | active
      · exact absurd lost kept
      · rw [inactive] at active
        cases active

/-- A new attempt without links, of a node that has no active one or of no node. -/
theorem append (linked : board.Linked) {attempt : Attempt} (isFirst : attempt.IsFirst)
    (isLast : attempt.IsLast) (notLost : attempt.state ≠ .lost) (unreported : attempt.Unreported)
    (known : ∀ nodeId, attempt.nodeId = some nodeId → ∃ node ∈ board.nodes, node.nodeId = nodeId)
    (free : ∀ nodeId, attempt.nodeId = some nodeId → ∀ index, ¬ board.Active nodeId index) :
    (board.after (.appendAttempt attempt)).Linked := by
  have split : ∀ {other : Attempt}, other ∈ board.attempts ++ [attempt] →
      other ∈ board.attempts ∨ other = attempt := by
    intro other member
    simpa using member
  refine ⟨?_, fun nodeId => ?_, ?_, fun nodeId other member active => ?_, ?_⟩
  · intro other member nodeId named
    rcases split member with member | rfl
    · exact linked.known other member nodeId named
    · exact known nodeId named
  · rw [attemptsOf_append]
    split
    · exact (linked.lineage nodeId).append isFirst isLast
    · rw [List.append_nil]
      exact linked.lineage nodeId
  · intro other member
    rcases split member with member | rfl
    · exact linked.lost other member
    · exact iff_of_false notLost fun replaced => replaced isLast
  · rw [attemptsOf_append] at member ⊢
    split at member
    · rename_i named
      rcases List.mem_append.1 member with member | member
      · rw [idle_of_free (free nodeId named) member] at active
        cases active
      · rw [if_pos named, List.mem_singleton.1 member]
        simp
    · rename_i other'
      rw [List.append_nil] at member
      rw [if_neg other', List.append_nil]
      exact linked.newest nodeId other member active
  · intro other member open'
    rcases split member with member | rfl
    · exact linked.unreported other member open'
    · exact unreported

section Replace

variable {index : Nat} {nodeId : String} {lost replacement : Attempt} {change : AttemptUpdate}

/-- The last attempt of a node is overwritten. -/
theorem attemptsOf_last (change : AttemptUpdate) (distinct : board.attemptIds.Nodup)
    (isLost : lost ∈ board.attempts)
    (last : (board.attemptsOf nodeId).getLast? = some lost) :
    ∃ earlier, lost ∉ earlier ∧ board.attemptsOf nodeId = earlier ++ [lost] ∧
      (board.attemptsOf nodeId).map (fun other => other.updateNamed lost.attemptId change) =
        earlier ++ [lost.update change] := by
  obtain ⟨earlier, isList⟩ := List.getLast?_eq_some_iff.1 last
  have apart : (earlier ++ [lost]).Nodup := by
    rw [← isList]
    exact (List.Nodup.of_map _ distinct).filter _
  have isNew : lost ∉ earlier := by
    intro member
    exact (List.nodup_append.1 apart).2.2 lost member lost (by simp) rfl
  refine ⟨earlier, isNew, isList, ?_⟩
  rw [isList, List.map_append]
  refine congrArg₂ (· ++ ·) ?_ ?_
  · refine (List.map_congr_left fun other member => ?_).trans (List.map_id' earlier)
    unfold Attempt.updateNamed
    rw [if_neg]
    intro same
    have inList : other ∈ board.attemptsOf nodeId := by
      rw [isList]
      exact List.mem_append_left _ member
    have inBoard := (mem_attemptsOf.1 inList).1
    obtain rfl : other = lost := List.inj_on_of_nodup_map distinct inBoard isLost same
    exact isNew member
  · simp [Attempt.updateNamed]

theorem replace (linked : board.Linked) (distinct : board.attemptIds.Nodup)
    (isLost : board.attempts[index]? = some lost) (named : lost.nodeId = some nodeId)
    (active : lost.state.isActive) (lose : change.state = .lost)
    (replaced : change.replacedByAttemptId = some replacement.attemptId)
    (silent : change.result = none) (replaces : replacement.replacesAttemptId = some lost.attemptId)
    (elsewhere : replacement.target ≠ lost.target)
    (epoch : replacement.executionEpoch = lost.executionEpoch)
    (sameNode : replacement.nodeId = some nodeId) (isLast : replacement.IsLast)
    (created : replacement.state = .created) (unreported : replacement.Unreported) :
    ((board.after (.updateAttempt index change)).after (.appendAttempt replacement)).Linked := by
  have member := List.mem_of_getElem? isLost
  have ofNode : lost ∈ board.attemptsOf nodeId := mem_attemptsOf.2 ⟨member, named⟩
  have isMap := update_eq_map distinct isLost change
  obtain ⟨earlier, isNew, isList, updated⟩ :=
    attemptsOf_last change distinct member (linked.newest nodeId lost ofNode active)
  have others : ∀ attempt ∈ board.attempts, attempt ≠ lost →
      attempt.updateNamed lost.attemptId change = attempt := by
    intro attempt isAttempt apart
    unfold Attempt.updateNamed
    rw [if_neg]
    exact fun same => apart (List.inj_on_of_nodup_map distinct isAttempt member same)
  have own : lost.updateNamed lost.attemptId change = lost.update change := by
    simp [Attempt.updateNamed]
  have named' : ∀ attempt : Attempt,
      (attempt.updateNamed lost.attemptId change).nodeId = attempt.nodeId := by
    intro attempt
    unfold Attempt.updateNamed
    split <;> rfl
  have attemptsOf : ∀ other, (board.after (.updateAttempt index change)).attemptsOf other =
      if other = nodeId then earlier ++ [lost.update change] else board.attemptsOf other := by
    intro other
    have same := @attemptsOf_map board _ named' other
    unfold Board.attemptsOf at same ⊢
    rw [isMap]
    refine same.trans ?_
    split
    · rename_i here
      rw [here]
      exact updated
    · rename_i apart
      refine (List.map_congr_left fun attempt isAttempt => ?_).trans (List.map_id' _)
      obtain ⟨inBoard, ofOther⟩ := (@mem_attemptsOf board _ _).1 isAttempt
      refine others attempt inBoard ?_
      rintro rfl
      rw [named] at ofOther
      exact apart (Option.some.inj ofOther).symm
  have cases' : ∀ {attempt : Attempt},
      attempt ∈ ((board.after (.updateAttempt index change)).after
        (.appendAttempt replacement)).attempts →
      (attempt ∈ board.attempts ∧ attempt ≠ lost) ∨ attempt = lost.update change ∨
        attempt = replacement := by
    intro attempt isAttempt
    have isAttempt : attempt ∈ (board.after (.updateAttempt index change)).attempts ++
        [replacement] := isAttempt
    rw [isMap] at isAttempt
    rcases List.mem_append.1 isAttempt with isAttempt | isAttempt
    · obtain ⟨before, isBefore, rfl⟩ := List.mem_map.1 isAttempt
      by_cases same : before = lost
      · subst same
        exact .inr (.inl own)
      · rw [others before isBefore same]
        exact .inl ⟨isBefore, same⟩
    · exact .inr (.inr (List.mem_singleton.1 isAttempt))
  refine ⟨?_, fun other => ?_, ?_, fun other attempt isAttempt isActive => ?_, ?_⟩
  · intro attempt isAttempt other isOther
    rcases cases' isAttempt with ⟨isAttempt, -⟩ | rfl | rfl
    · exact linked.known attempt isAttempt other isOther
    · exact linked.known lost member other isOther
    · rw [sameNode, ← named] at isOther
      exact linked.known lost member other isOther
  · rw [attemptsOf_append, attemptsOf]
    by_cases here : other = nodeId
    · subst here
      rw [if_pos rfl, if_pos sameNode, List.append_assoc]
      have lineage := linked.lineage other
      rw [isList] at lineage
      refine lineage.extend (fun before link => ?_) (fun isFirst => isFirst) ?_ isLast
      · exact ⟨link.replaced, link.replaces, link.elsewhere, link.epoch⟩
      · refine ⟨?_, replaces, elsewhere, epoch⟩
        simp [Attempt.update, replaced]
    · rw [if_neg here, if_neg, List.append_nil]
      · exact linked.lineage other
      · rw [sameNode]
        exact fun same => here (Option.some.inj same).symm
  · intro attempt isAttempt
    rcases cases' isAttempt with ⟨isAttempt, -⟩ | rfl | rfl
    · exact linked.lost attempt isAttempt
    · refine iff_of_true lose ?_
      simp [Attempt.update, replaced]
    · refine iff_of_false ?_ fun linked' => linked' isLast
      rw [created]
      simp
  · rw [attemptsOf_append, attemptsOf] at isAttempt ⊢
    by_cases here : other = nodeId
    · subst here
      rw [if_pos rfl, if_pos sameNode, List.append_assoc] at isAttempt ⊢
      rcases List.mem_append.1 isAttempt with isAttempt | isAttempt
      · have inList : attempt ∈ board.attemptsOf other := by
          rw [isList]
          exact List.mem_append_left _ isAttempt
        have isEnd := linked.newest other attempt inList isActive
        rw [isList, List.getLast?_append] at isEnd
        cases isEnd
        exact absurd isAttempt isNew
      · simp only [List.cons_append, List.nil_append, List.mem_cons, List.not_mem_nil,
          or_false] at isAttempt
        rcases isAttempt with rfl | rfl
        · rw [Attempt.update_state, lose] at isActive
          cases isActive
        · simp
    · have foreign : replacement.nodeId ≠ some other := by
        rw [sameNode]
        exact fun same => here (Option.some.inj same).symm
      rw [if_neg here, if_neg foreign, List.append_nil] at isAttempt ⊢
      exact linked.newest other attempt isAttempt isActive
  · intro attempt isAttempt open'
    rcases cases' isAttempt with ⟨isAttempt, -⟩ | rfl | rfl
    · exact linked.unreported attempt isAttempt open'
    · obtain ⟨resultRef, value, evidence⟩ := linked.unreported lost member (.inr active)
      refine ⟨?_, ?_, ?_⟩ <;> simp [Attempt.update, silent, resultRef, value, evidence]
    · exact unreported

end Replace

end Linked

theorem KeepsLost.refl (board : Board) : board.KeepsLost board := fun _ _ isAttempt _ => isAttempt

theorem KeepsLost.trans {first second third : Board} (one : first.KeepsLost second)
    (two : second.KeepsLost third) : first.KeepsLost third :=
  fun index attempt isAttempt lost => two index attempt (one index attempt isAttempt lost) lost

theorem KeepsLost.map {board : Board} {change : Attempt → Attempt}
    (kept : ∀ attempt ∈ board.attempts, attempt.state = .lost → change attempt = attempt) :
    board.KeepsLost { board with attempts := board.attempts.map change } := by
  intro index attempt isAttempt lost
  show (board.attempts.map change)[index]? = _
  rw [List.getElem?_map, isAttempt]
  exact congrArg some (kept attempt (List.mem_of_getElem? isAttempt) lost)

theorem KeepsLost.settle {board : Board} {change : Attempt → Attempt}
    (settles : ∀ attempt ∈ board.attempts, attempt.Settles (change attempt)) :
    board.KeepsLost { board with attempts := board.attempts.map change } := by
  refine .map fun attempt member lost => ?_
  rcases settles attempt member with same | ⟨active, -, -⟩
  · exact same
  · rw [lost] at active
    cases active

theorem KeepsLost.append (board : Board) (attempt : Attempt) :
    board.KeepsLost (board.after (.appendAttempt attempt)) := by
  intro index other isOther _
  show (board.attempts ++ [attempt])[index]? = _
  rw [List.getElem?_append_left (List.getElem?_eq_some_iff.1 isOther).1]
  exact isOther

/-- An active attempt ends without being replaced. -/
theorem Linked.finish {board : Board} (linked : board.Linked) {index : Nat} {attempt : Attempt}
    (change : AttemptUpdate) (distinct : board.attemptIds.Nodup)
    (isAttempt : board.attempts[index]? = some attempt) (active : attempt.state.isActive)
    (inactive : change.state.isActive = false) (kept : change.state ≠ .lost)
    (unlinked : change.replacedByAttemptId = none) :
    (board.after (.updateAttempt index change)).Linked ∧
      board.KeepsLost (board.after (.updateAttempt index change)) := by
  have settles : ∀ other ∈ board.attempts,
      other.Settles (other.updateNamed attempt.attemptId change) := by
    intro other member
    unfold Attempt.updateNamed
    split
    · rename_i same
      obtain rfl : other = attempt :=
        List.inj_on_of_nodup_map distinct member (List.mem_of_getElem? isAttempt) same
      exact .inr ⟨active, inactive, kept⟩
    · exact .inl rfl
  rw [update_eq_map distinct isAttempt change]
  exact ⟨linked.settle (fun other => .updateNamed other _ unlinked) settles, .settle settles⟩

theorem Linked.failActive {board : Board} (linked : board.Linked)
    (nodeId attemptId : Option String) (reason : Json) :
    (board.after (.failActive nodeId attemptId reason)).Linked ∧
      board.KeepsLost (board.after (.failActive nodeId attemptId reason)) :=
  ⟨linked.settle (fun attempt => .failIfActive attempt nodeId attemptId reason)
      fun attempt _ => .failIfActive attempt nodeId attemptId reason,
    .settle fun attempt _ => .failIfActive attempt nodeId attemptId reason⟩

theorem Linked.setNodeState {board : Board} (linked : board.Linked) (index : Nat)
    (state : NodeState) : (board.after (.setNodeState index state)).Linked := by
  refine linked.nodes fun node member => ?_
  obtain ⟨position, isNode⟩ := List.getElem?_of_mem member
  refine ⟨if index = position then { node with state } else node, ?_, ?_⟩
  · have isNode' : (board.nodes.modify index fun node => { node with state })[position]? =
        some (if index = position then { node with state } else node) := by
      rw [List.getElem?_modify, isNode]
      rfl
    exact List.mem_of_getElem? isNode'
  · split <;> rfl

theorem Linked.appendNode {board : Board} (linked : board.Linked) (node : DynamicNode) :
    (board.after (.appendNode node)).Linked :=
  linked.nodes fun other member => ⟨other, List.mem_append_left _ member, rfl⟩

theorem Linked.releaseNodes {board : Board} (linked : board.Linked) :
    (board.after .releaseNodes).Linked := by
  refine linked.nodes fun node member => ⟨node.release, List.mem_map_of_mem member, ?_⟩
  unfold DynamicNode.release
  split <;> rfl

/-- A node without active attempts gets a new attempt. -/
theorem Linked.dispatch {board : Board} (linked : board.Linked) {nodeId : String}
    {nodeIndex : Nat} {attempt : Attempt} (isFirst : attempt.IsFirst) (isLast : attempt.IsLast)
    (created : attempt.state = .created) (unreported : attempt.Unreported)
    (found : firstIndex? (fun node => node.nodeId = nodeId) board.nodes = some nodeIndex)
    (named : attempt.nodeId = some nodeId) (free : ∀ index, ¬ board.Active nodeId index) :
    ((board.after (.appendAttempt attempt)).after (.setNodeState nodeIndex .dispatched)).Linked ∧
      board.KeepsLost ((board.after (.appendAttempt attempt)).after
        (.setNodeState nodeIndex .dispatched)) := by
  obtain ⟨node, isNode, isNamed⟩ := firstIndex?_some found
  simp only [decide_eq_true_eq] at isNamed
  have appended := linked.append isFirst isLast (by rw [created]; simp) unreported
    (fun other isOther => by
      rw [named] at isOther
      cases isOther
      exact ⟨node, List.mem_of_getElem? isNode, isNamed⟩)
    fun other isOther => by
      rw [named] at isOther
      cases isOther
      exact free
  exact ⟨appended.setNodeState _ _, .append board attempt⟩

end Board

section Steps

variable {env : Env} {ok : (query : Query) → Answer query → Prop} {site : Site} {call : Call}
  {updates : List RecordWrite} {fate : Fate}

theorem TerminalState.attemptState_kept (state : TerminalState) : state.attemptState ≠ .lost := by
  cases state <;> simp [TerminalState.attemptState]

/-- An accepted node has no active attempts. -/
theorem free_of_accepted {record : RunRecord} {nodeId : String} {nodeIndex : Nat}
    (sound : record.board.Sound)
    (found : firstIndex? (fun node => node.nodeId = nodeId) record.dynamicNodes = some nodeIndex)
    (accepted : (record.dynamicNodes.getD nodeIndex default).state = .accepted) (index : Nat) :
    ¬ record.board.Active nodeId index := by
  intro active
  obtain ⟨node, isNode, -⟩ := firstIndex?_some found
  have state := sound.dispatched nodeId index active
  rw [Board.stateOf_firstIndex? found isNode] at state
  rw [List.getD_eq_getElem?_getD, isNode, Option.getD_some, Option.some.inj state] at accepted
  cases accepted

/-- Write blocks keep the attempts linked and the lost ones as they are. -/
theorem Change.links (change : Change env ok Repo.Still site call updates fate)
    (undisturbed : site.Undisturbed) (tracked : Tracked env ⟨site.start.uuids, site.record⟩)
    (linked : site.record.board.Linked) :
    (applyAll updates site.record).board.Linked ∧
      site.record.board.KeepsLost (applyAll updates site.record).board := by
  have same : site.record.board = site.loaded.board :=
    Board.board_still (undisturbed.still.record site.address)
  have nodes : site.record.dynamicNodes = site.loaded.dynamicNodes := congrArg Board.nodes same
  have attempts : site.record.attempts = site.loaded.attempts := congrArg Board.attempts same
  have distinct := tracked.identified.distinct
  have steady : site.record.board.Linked ∧ site.record.board.KeepsLost site.record.board :=
    ⟨linked, .refl _⟩
  have closes : ∀ {result : Dict} {report : Report} {change : AttemptUpdate},
      fenceReport env site.loaded result = .ok report → change.state.isActive = false →
      change.state ≠ .lost → change.replacedByAttemptId = none →
      (site.record.board.after (.updateAttempt report.attemptIndex change)).Linked ∧
        site.record.board.KeepsLost
          (site.record.board.after (.updateAttempt report.attemptIndex change)) := by
    intro result report change fenced inactive kept unlinked
    obtain ⟨attempt, fenced⟩ := fenceReport_ok fenced
    have found := fenced.found
    rw [← attempts] at found
    exact linked.finish _ distinct found fenced.active inactive kept unlinked
  have reported : ∀ {runId nodeId : String} {result : Json} {report : NodeReport}
      (settled : NodeSettled env ok runId report) {state : NodeState},
      fenceNodeReport env site.loaded nodeId result = .ok report →
      ((site.record.board.after (.updateAttempt report.attemptIndex settled.attemptUpdate)).after
          (.setNodeState report.nodeIndex state)).Linked ∧
        site.record.board.KeepsLost ((site.record.board.after
          (.updateAttempt report.attemptIndex settled.attemptUpdate)).after
            (.setNodeState report.nodeIndex state)) := by
    intro runId nodeId result report settled state fenced
    have fenced := fenceNodeReport_ok fenced
    have found := fenced.found
    rw [← attempts] at found
    obtain ⟨finished, kept⟩ := linked.finish settled.attemptUpdate distinct found
      fenced.active settled.terminalState.attemptState_inactive
      settled.terminalState.attemptState_kept rfl
    exact ⟨finished.setNodeState _ _, kept⟩
  have dispatches : ∀ {nodeId : String} {nodeIndex number : Nat} {target instanceId : String}
      {agentEpoch : Int},
      firstIndex? (fun node => node.nodeId = nodeId) site.loaded.dynamicNodes = some nodeIndex →
      (site.loaded.dynamicNodes.getD nodeIndex default).state = .accepted →
      ((site.record.board.after (.appendAttempt
          (site.dispatch env number nodeIndex target instanceId agentEpoch))).after
          (.setNodeState nodeIndex .dispatched)).Linked ∧
        site.record.board.KeepsLost ((site.record.board.after (.appendAttempt
          (site.dispatch env number nodeIndex target instanceId agentEpoch))).after
          (.setNodeState nodeIndex .dispatched)) := by
    intro nodeId nodeIndex number target instanceId agentEpoch found accepted
    obtain ⟨node, isNode, isNamed⟩ := firstIndex?_some found
    simp only [decide_eq_true_eq] at isNamed
    have named : (site.dispatch env number nodeIndex target instanceId agentEpoch).nodeId =
        some nodeId := by
      show some (site.loaded.dynamicNodes.getD nodeIndex default).nodeId = _
      rw [List.getD_eq_getElem?_getD, isNode, Option.getD_some, isNamed]
    rw [← nodes] at found accepted
    exact linked.dispatch rfl rfl rfl ⟨rfl, rfl, rfl⟩ found named
      (free_of_accepted tracked.sound found accepted)
  have fails : ∀ {nodeIndex : Nat} {nodeId attemptId : Option String} {reason : Json},
      ((site.record.board.after (.setNodeState nodeIndex .failed)).after
          (.failActive nodeId attemptId reason)).Linked ∧
        site.record.board.KeepsLost ((site.record.board.after
          (.setNodeState nodeIndex .failed)).after (.failActive nodeId attemptId reason)) :=
    (linked.setNodeState _ _).failActive _ _ _
  rw [Board.board_applyAll]
  cases change
  case message | signal | refined | inspected | cancelled | failed | closed | accepted | abandoned |
      commitBlocked | committed | commitLate | startBlocked | startedOrchestration |
      startUnresolved | startLate | requested | finalRejected | finalUndecided |
      finalCompleted => exact steady
  case replayed =>
      obtain ⟨finished, kept⟩ := linked.failActive none none replayReason
      exact ⟨finished.releaseNodes, kept⟩
  case restarted => exact linked.failActive none none site.record.restartReason
  case startedTask =>
      refine ⟨?_, .append _ _⟩
      exact linked.append rfl rfl (by simp) ⟨rfl, rfl, rfl⟩ (fun _ named => by cases named)
        fun _ named => by cases named
  case rejected fenced _ _ _ _ => exact closes fenced rfl (by simp) rfl
  case rejectedLate fenced _ _ _ => exact closes fenced rfl (by simp) rfl
  case settledUnreadable fenced _ _ _ _ _ _ => exact closes fenced rfl (by simp) rfl
  case settled fenced settled reason phase error resourceRef evidenceId running =>
      exact closes fenced settled.terminalState.attemptState_inactive
        settled.terminalState.attemptState_kept rfl
  case settledLate fenced settled illegal =>
      exact closes fenced settled.terminalState.attemptState_inactive
        settled.terminalState.attemptState_kept rfl
  case installed => exact ⟨linked.appendNode _, .refl _⟩
  case installUnresolved => exact ⟨linked.appendNode _, .refl _⟩
  case dispatched found accepted budget drawn => exact dispatches found accepted
  case dispatchUnresolved found accepted budget drawn => exact dispatches found accepted
  case nodeCompleted fenced settled provenance completed => exact reported settled fenced
  case nodeCompletedUnresolved fenced settled error completed unresolved =>
      exact reported settled fenced
  case nodeUndecided fenced settled provenance reason undecided running =>
      exact reported settled fenced
  case nodeUndecidedUnresolved fenced settled reason error undecided running unresolved =>
      exact reported settled fenced
  case nodeLate fenced settled undecided illegal => exact reported settled fenced
  case nodeFailed => exact fails
  case nodeFailedUnresolved => exact fails
  case nodeFailedLate => exact fails

/-- A reassignment links the lost attempt to its replacement. -/
theorem Reassignment.links {args : ReassignArgs} (move : Reassignment env Repo.Still site args)
    (undisturbed : site.Undisturbed) (tracked : Tracked env ⟨site.start.uuids, site.record⟩)
    (linked : site.record.board.Linked) :
    (applyAll move.updates site.record).board.Linked ∧
      site.record.board.KeepsLost (applyAll move.updates site.record).board := by
  have fenced := move.fenced_now undisturbed
  obtain ⟨isLost, ofNode, active⟩ :=
    reassigned_attempt tracked.identified fenced move.attemptFound
  have distinct := tracked.identified.distinct
  rw [Board.board_applyAll]
  refine ⟨?_, ?_⟩
  · refine Board.Linked.setNodeState ?_ _ _
    exact linked.replace distinct isLost ofNode active rfl rfl rfl rfl move.elsewhere
      fenced.attemptEpoch.symm rfl rfl rfl ⟨rfl, rfl, rfl⟩
  · refine Board.KeepsLost.trans ?_ (.append _ _)
    rw [Board.update_eq_map distinct isLost]
    refine .map fun attempt member isOld => ?_
    unfold Attempt.updateNamed
    rw [if_neg]
    intro same
    obtain rfl : attempt = move.lost :=
      List.inj_on_of_nodup_map distinct member (List.mem_of_getElem? isLost) same
    rw [isOld] at active
    cases active

end Steps

section Histories

variable {env : Env} {ok : (query : Query) → Answer query → Prop}

/-- The board of a record is in order and its attempts are linked. -/
structure Traced (env : Env) (view : View) : Prop where
  tracked : Tracked env view
  linked : view.record.board.Linked

theorem lineage_rule (injective : Function.Injective env.hex) :
    Rule env ok (fun _ _ => True) fun before after => Traced env before →
      Traced env after ∧ before.record.board.KeepsLost after.record.board where
  still {before after} later still traced := by
    have same := Board.board_still still
    refine ⟨⟨⟨?_, ?_⟩, ?_⟩, ?_⟩
    · rw [same]
      exact traced.tracked.sound
    · rw [same]
      exact traced.tracked.identified.mono later
    · rw [same]
      exact traced.linked
    · rw [same]
      exact .refl _
  trans one two traced := by
    obtain ⟨traced', kept⟩ := one traced
    obtain ⟨traced'', kept'⟩ := two traced'
    exact ⟨traced'', kept.trans kept'⟩
  change change undisturbed _ _ traced := by
    have tracked := traced.tracked
    obtain ⟨linked, kept⟩ := change.links undisturbed tracked traced.linked
    exact ⟨⟨⟨(change.absorbs undisturbed tracked.sound).1,
      tracked.identified.changed injective undisturbed.later change.newAttempts⟩, linked⟩, kept⟩
  reassign {site args} move undisturbed traced := by
    have tracked := traced.tracked
    obtain ⟨linked, kept⟩ := move.links undisturbed tracked traced.linked
    refine ⟨⟨⟨(move.absorbs undisturbed tracked).1, ?_⟩, linked⟩, kept⟩
    exact tracked.identified.changed injective undisturbed.later
      (.inr ⟨move.replacement, move.number, rfl, rfl, move.drawn⟩)
  draft {site operations draft record} change undisturbed _ packed traced := by
    have same : (applyAll draft record).board = record.board := by
      rw [Board.board_applyAll]
      cases change <;> rfl
    refine ⟨⟨⟨?_, ?_⟩, ?_⟩, ?_⟩
    · rw [same]
      exact traced.tracked.sound
    · rw [same]
      exact traced.tracked.identified.mono undisturbed.later
    · rw [same]
      exact traced.linked
    · rw [same]
      exact .refl _

/-- The run executes under the execution id and epoch that a reassignment names. -/
def RunRecord.executes (record : RunRecord) (args : ReassignArgs) : Prop :=
  record.state = .running ∧ record.executionId = some args.expectedExecutionId ∧
    args.expectedExecutionEpoch = record.executionEpoch

/-- What a reassignment raises that names no current execution. -/
def staleExecution : List Exc :=
  [.valueError "execution_not_running", .valueError "stale_execution_id",
    .valueError "stale_execution_epoch"]

section Again

variable {record : RunRecord} {args : ReassignArgs} {lost : Attempt}

theorem fenceReassign_stale (stale : ¬ record.executes args) :
    ∃ error ∈ staleExecution, fenceReassign record args = .error error := by
  unfold fenceReassign
  by_cases running : record.state = .running ∧ record.executionId ≠ none
  · by_cases execution : some args.expectedExecutionId = record.executionId
    · by_cases epoch : args.expectedExecutionEpoch = record.executionEpoch
      · exact absurd ⟨running.1, execution.symm, epoch⟩ stale
      · refine ⟨.valueError "stale_execution_epoch", by simp [staleExecution], ?_⟩
        rw [if_neg (not_not.2 running), if_neg (not_not.2 execution), if_pos epoch]
        rfl
    · refine ⟨.valueError "stale_execution_id", by simp [staleExecution], ?_⟩
      rw [if_neg (not_not.2 running), if_pos execution]
      rfl
  · refine ⟨.valueError "execution_not_running", by simp [staleExecution], ?_⟩
    rw [if_pos running]
    rfl

theorem find?_attempt (distinct : record.board.attemptIds.Nodup) {attempt : Attempt}
    (member : attempt ∈ record.attempts) {test : Attempt → Bool} (passes : test attempt)
    (named : ∀ other, test other → other.attemptId = attempt.attemptId) :
    record.attempts.find? test = some attempt := by
  cases found : record.attempts.find? test with
  | none => exact absurd passes (List.find?_eq_none.1 found attempt member)
  | some other =>
      have same := named other (List.find?_some found)
      exact congrArg some
        (List.inj_on_of_nodup_map distinct (List.mem_of_find?_eq_some found) member same)

/-- A lost attempt is found with its replacement. -/
theorem fenceReassign_replaced {uuids : Nat} (identified : record.board.Identified env uuids)
    (linked : record.board.Linked) (member : lost ∈ record.attempts)
    (named : lost.attemptId = args.lostAttemptId) (ofNode : lost.nodeId = some args.nodeId)
    (isLost : lost.state = .lost) (current : record.executes args) :
    ∃ replacement ∈ record.attempts, lost.ReplacedBy replacement ∧
      fenceReassign record args = .ok (.replaced replacement) := by
  have distinct := identified.distinct
  have inList : lost ∈ record.board.attemptsOf args.nodeId :=
    Board.mem_attemptsOf.2 ⟨member, ofNode⟩
  have replaced := (linked.lost lost member).1 isLost
  rcases (linked.lineage args.nodeId).next inList with isLast | ⟨replacement, isNext, link⟩
  · exact absurd isLast replaced
  have inBoard : replacement ∈ record.attempts := (Board.mem_attemptsOf.1 isNext).1
  refine ⟨replacement, inBoard, link, ?_⟩
  obtain ⟨node, isNode, nodeNamed⟩ := linked.known lost member args.nodeId ofNode
  have nodeFound : (record.dynamicNodes.find? fun node => node.nodeId = args.nodeId).isSome :=
    List.find?_isSome.2 ⟨node, isNode, by simp [nodeNamed]⟩
  obtain ⟨first, isFirst⟩ := Option.isSome_iff_exists.1 nodeFound
  have found : record.attempts.find? (fun attempt =>
      attempt.attemptId = args.lostAttemptId ∧ attempt.nodeId = some args.nodeId) = some lost :=
    find?_attempt distinct member (by simp [named, ofNode]) fun other passes => by
      simp only [decide_eq_true_eq] at passes
      exact passes.1.trans named.symm
  have next : record.attempts.find? (fun attempt =>
      some attempt.attemptId = lost.replacedByAttemptId) = some replacement :=
    find?_attempt distinct inBoard (by simp [link.replaced]) fun other passes => by
      simpa [link.replaced] using passes
  have inhabited : lost.replacedByAttemptId.getD "" ≠ "" := by
    obtain ⟨number, -, same⟩ :=
      identified.drawn replacement.attemptId (List.mem_map_of_mem inBoard)
    rw [link.replaced, Option.getD_some, same]
    intro empty
    have length := congrArg String.length empty
    simp at length
  unfold fenceReassign
  rw [if_neg (not_not.2 ⟨current.1, by rw [current.2.1]; simp⟩),
    if_neg (not_not.2 current.2.1.symm), if_neg (not_not.2 current.2.2), isFirst, found]
  dsimp only
  rw [if_pos inhabited, next]

/-- A reassignment of an attempt that is lost changes no record. -/
theorem reassign_again {uuids : Nat} {before after : Repo} {result : Except Exc Reply}
    (identified : record.board.Identified env uuids) (linked : record.board.Linked)
    (installed : before.run? args.runId = some record) (member : lost ∈ record.attempts)
    (named : lost.attemptId = args.lostAttemptId) (ofNode : lost.nodeId = some args.nodeId)
    (isLost : lost.state = .lost)
    (runs : ((Call.reassignDynamicNode args).prog env).Runs ok before after result) :
    (∀ runId, after.run? runId = before.run? runId) ∧
      (record.executes args → ∃ replacement ∈ record.attempts, lost.ReplacedBy replacement ∧
        result = .ok (.attempt replacement)) ∧
      (¬ record.executes args → ∃ error ∈ staleExecution, result = .error error) := by
  have mapped : ((Op.reassignDynamicNode env args).map Reply.attempt).Runs ok before after result :=
    runs
  obtain ⟨answer, locking, rfl⟩ := mapped.of_map
  unfold Op.reassignDynamicNode Op.withIntentLock at locking
  cases locking with
  | await _ _ locking =>
      cases locking with
      | write locking =>
          obtain ⟨middle, body, rfl⟩ := locking.of_finalize
          obtain ⟨address, atRun, rfl⟩ := Repo.run?_eq_some.1 installed
          cases body with
          | await _ _ body =>
              cases body with
              | read body =>
                  have atRun' : (apply (Write.acquire args.runId) before).address? args.runId =
                      some address := atRun
                  dsimp only at body
                  rw [atRun'] at body
                  cases body with
                  | read fenced =>
                      have same : (apply (Write.acquire args.runId) before).heap address =
                          before.heap address := rfl
                      by_cases current : (before.heap address).executes args
                      · obtain ⟨replacement, isNext, link, found⟩ :=
                          fenceReassign_replaced identified linked member named ofNode isLost
                            current
                        dsimp only [Prog.bind, bind] at fenced
                        rw [same, found] at fenced
                        cases fenced with
                        | ret =>
                            refine ⟨fun _ => rfl, fun _ => ⟨replacement, isNext, link, rfl⟩, ?_⟩
                            exact fun stale => absurd current stale
                      · obtain ⟨error, isStale, found⟩ := fenceReassign_stale current
                        dsimp only [Prog.bind, bind] at fenced
                        rw [same, found] at fenced
                        cases fenced with
                        | raise =>
                            refine ⟨fun _ => rfl, fun executes => absurd executes current, ?_⟩
                            exact fun _ => ⟨error, isStale, rfl⟩

end Again

/-- In every history the attempts of each node are chains of replacements, exactly the replaced
attempts are lost, only the last attempt of the newest chain can be active, and a lost attempt has
no result and stays as it is.  A reassignment of a lost attempt changes no record: it returns the
replacement where the run executes as the call says, and otherwise it raises. -/
theorem lineage_kept (injective : Function.Injective env.hex)
    {entries : List (Entry Repo Exc Answer Reply Call)} {repo : Repo}
    (history : Observed env ok entries repo) :
    (∀ runId record, repo.run? runId = some record →
      record.board.attemptIds.Nodup ∧ record.board.Linked) ∧
    ∀ entry ∈ entries, ∀ runId record, entry.before.run? runId = some record →
      (entry.before.isFresh env entry.label → ∃ record', entry.after.run? runId = some record' ∧
        record.board.KeepsLost record'.board) ∧
      ∀ args lost, entry.label = .reassignDynamicNode args → args.runId = runId →
        lost ∈ record.attempts → lost.attemptId = args.lostAttemptId →
        lost.nodeId = some args.nodeId → lost.state = .lost →
        (∀ other, entry.after.run? other = entry.before.run? other) ∧
          (record.executes args → ∃ replacement ∈ record.attempts, lost.ReplacedBy replacement ∧
            entry.result = .ok (.attempt replacement)) ∧
          (¬ record.executes args → ∃ error ∈ staleExecution, entry.result = .error error) := by
  have rule : Rule env ok _ _ := lineage_rule injective
  obtain ⟨all, earlier⟩ := rule.invariant (fun before after moves traced => (moves traced).1)
    (fun args drawn runId record uuids isNew => by
      obtain ⟨contract, draft, createdAt, -, rfl⟩ := isNew.isNew
      refine ⟨⟨.of_idle ?_, ⟨List.nodup_nil, fun attemptId member => by cases member⟩⟩, ?_⟩
      · rintro nodeId index ⟨attempt, isAttempt, -⟩
        cases isAttempt
      · exact .of_empty rfl) history
    fun entry member => trivial
  refine ⟨fun runId record installed => ?_, fun entry member runId record installed => ⟨?_, ?_⟩⟩
  · have traced := all.record runId record installed
    exact ⟨traced.tracked.identified.distinct, traced.linked⟩
  · intro fresh
    have before := earlier entry member
    obtain ⟨record', installed', moves⟩ :=
      rule.follows before.allocated trivial fresh (history.runs entry member) installed
    exact ⟨record', installed', (moves (before.record runId record installed)).2⟩
  · intro args lost isReassign named isLost sameId ofNode state
    have traced := (earlier entry member).record runId record installed
    have runs := history.runs entry member
    rw [isReassign] at runs
    subst named
    exact reassign_again traced.tracked.identified traced.linked installed isLost sameId ofNode
      state runs

/-- The reassignment of the first attempt of the run to a target. -/
def reassignFirst (target : String) : Call :=
  .reassignDynamicNode
    { runId := "run", nodeId := Demo.firstNode, lostAttemptId := "attempt-7"
      expectedExecutionId := "execution-6", expectedExecutionEpoch := 1, target
      reason := "worker lost" }

/-- The worker of the first attempt loses its lease, and the reassignment is repeated before and
after a recovery of the run. -/
def reassignedCalls : List (Call × World) :=
  [(reassignFirst "slave-b", Demo.world "expired" "pass"), (reassignFirst "slave-c", Demo.usual),
    (.recoverStaleRuns [], Demo.usual), (reassignFirst "slave-b", Demo.usual)]

/-- The attempt that a call returned. -/
def returnedAttempt? : Except Exc Reply → Option Attempt
  | .ok (.attempt attempt) => some attempt
  | _ => none

theorem eq_of_returnedAttempt? {result : Except Exc Reply} {attempt : Attempt}
    (returned : returnedAttempt? result = some attempt) : result = .ok (.attempt attempt) := by
  unfold returnedAttempt? at returned
  split at returned
  · cases returned
    rfl
  · cases returned

theorem lineage_kept_reassigned :
    ∃ record, (Demo.goOn reassignedCalls).2.run? "run" = some record ∧
      record.attempts.map (fun attempt => attempt.state) = [.lost, .failed] ∧
      record.board.attemptIds.Nodup ∧ record.board.Linked := by
  have states : ((Demo.goOn reassignedCalls).2.run? "run").map (fun record =>
      record.attempts.map fun attempt => attempt.state) = some [.lost, .failed] := by
    decide +kernel
  obtain ⟨record, found, isLost⟩ := Option.map_eq_some_iff.1 states
  obtain ⟨kept, -⟩ := lineage_kept Demo.hex_injective (Demo.observed_goOn reassignedCalls)
  obtain ⟨distinct, linked⟩ := kept "run" record found
  exact ⟨record, found, isLost, distinct, linked⟩

/-- A reassignment that returned a replacement is repeated after a recovery, and raises. -/
theorem reassignment_not_repeatable :
    ∃ entries repo, Observed Demo.env (fun _ _ => True) entries repo ∧
      ∃ first ∈ entries, ∃ second ∈ entries, first.label = reassignFirst "slave-b" ∧
        second.label = reassignFirst "slave-b" ∧
        (∃ replacement, first.result = .ok (.attempt replacement)) ∧
        second.result = .error (.valueError "stale_execution_epoch") := by
  refine ⟨_, _, Demo.observed_goOn reassignedCalls, ?_⟩
  have returned : (Demo.goOn reassignedCalls).1.any (fun entry =>
      entry.label = reassignFirst "slave-b" ∧ (returnedAttempt? entry.result).isSome) := by
    decide +kernel
  have raised : (Demo.goOn reassignedCalls).1.any (fun entry =>
      entry.label = reassignFirst "slave-b" ∧
        raised? entry.result = some (.valueError "stale_execution_epoch")) := by decide +kernel
  obtain ⟨first, isFirst, facts⟩ := List.any_eq_true.1 returned
  obtain ⟨second, isSecond, facts'⟩ := List.any_eq_true.1 raised
  simp only [decide_eq_true_eq] at facts facts'
  refine ⟨first, List.mem_append_right _ isFirst, second, List.mem_append_right _ isSecond,
    facts.1, facts'.1, ?_, eq_of_raised? facts'.2⟩
  obtain ⟨replacement, isAttempt⟩ := Option.isSome_iff_exists.1 facts.2
  exact ⟨replacement, eq_of_returnedAttempt? isAttempt⟩

end Histories

end Loom
