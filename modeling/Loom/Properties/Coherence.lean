import Loom.Observer.Execution
import Loom.Observer.Fences
import Mathlib.Logic.Relation

/-!
# Lifecycle coherence

In every sequential history the outcome of a record agrees with its state, the transitions that a
record has logged form a path of the transition table, and the guarded transitions happen only out
of the outcomes that ask for them.

State, outcome and logged transitions are the `Core` of a record.  Each write block either leaves
the core alone or makes one transition.
-/

namespace Loom

open Coroutine

/-- A logged transition. -/
abbrev Passage := RunEvent × RunState × RunState

def Event.passage? : Event → Option Passage
  | .runTransition event source target _ => some (event, source, target)
  | _ => none

/-- The part of a record that the lifecycle is about. -/
structure Core where
  state : RunState
  outcome : Option Dict
  passages : List Passage

namespace Core

/-- `outcome.get("decision")`, null where there is no outcome. -/
def decision (core : Core) : Json :=
  match core.outcome with
  | some outcome => Dict.get outcome "decision"
  | none => .null

/-- The core after one transition. -/
def move (core : Core) (event : RunEvent) (target : RunState) (outcome : Option Dict) : Core :=
  ⟨target, outcome, core.passages ++ [(event, core.state, target)]⟩

end Core

/-- The core of a record: its state, its outcome and its `run_transition` events in order. -/
def RunRecord.core (record : RunRecord) : Core :=
  ⟨record.state, record.outcome, record.events.filterMap Event.passage?⟩

/-- The outcome that each state other than `closed` goes with. -/
def Fits : RunState → Option Dict → Prop
  | .awaitingDecision, outcome => ∃ entries, outcome = some entries ∧
      Dict.get entries "disposition" = .str "awaiting_decision" ∧
      (Dict.get entries "decision" = .str "repair" ∨
        Dict.get entries "decision" = .str "attestation")
  | .completed, outcome => ∃ entries, outcome = some entries ∧
      Dict.get entries "disposition" = .str "completed" ∧ Dict.get entries "decision" = .null
  | .failed, outcome => ∃ entries, outcome = some entries ∧
      Dict.get entries "disposition" = .str "failed" ∧ Dict.get entries "decision" = .null
  | .cancelled, outcome => ∃ entries, outcome = some entries ∧
      Dict.get entries "disposition" = .str "cancelled" ∧ Dict.get entries "decision" = .null
  | .opened, outcome | .thinking, outcome | .committed, outcome | .running, outcome =>
      outcome = none
  | .closed, _ => False

/-- The outcome agrees with the state.  A closed record has the outcome of the terminal state it
was closed in. -/
def Core.Coherent (core : Core) : Prop :=
  Fits core.state core.outcome ∨
    core.state = .closed ∧ ∃ source,
      (source = .completed ∨ source = .failed ∨ source = .cancelled) ∧
      Fits source core.outcome ∧ core.passages.getLast? = some (.runClosed, source, .closed)

/-- The transitions form a path of `RUN_TRANSITIONS` between two states. -/
inductive IsPath (start : RunState) : List Passage → RunState → Prop where
  | nil : IsPath start [] start
  | snoc {passages : List Passage} {source target : RunState} {event : RunEvent}
      (path : IsPath start passages source) (legal : runTransitions source event = some target) :
      IsPath start (passages ++ [(event, source, target)]) target

/-- One step of the lifecycle: nothing, or one transition of the table.  A decision is accepted
only where the outcome just before asks for an attestation, a refinement starts out of
`awaiting_decision` only where it asks for a repair, and closing keeps the outcome. -/
inductive Advances (core : Core) : Core → Prop where
  | steady : Advances core core
  | moved (event : RunEvent) (target : RunState) (outcome : Option Dict)
      (legal : runTransitions core.state event = some target)
      (accepts : event = .decisionAccepted → core.decision = .str "attestation")
      (repairs : event = .refinementStarted → core.state = .awaitingDecision →
        core.decision = .str "repair")
      (closes : event = .runClosed → outcome = core.outcome) :
      Advances core (core.move event target outcome)

namespace Core

/-! ### The core under updates -/

/-- The state `_transition` moves to; `none` where it raises. -/
def target (core : Core) (event : RunEvent) : Option RunState :=
  match runTransitions core.state event with
  | none => none
  | some target =>
      if event = .refinementStarted ∧ core.state = .awaitingDecision ∧
          core.decision ≠ .str "repair" then none
      else if event = .decisionAccepted ∧ core.decision ≠ .str "attestation" then none
      else some target

/-- A transition that is made is one of the table. -/
theorem table_of_target {core : Core} {event : RunEvent} {state : RunState}
    (legal : core.target event = some state) : runTransitions core.state event = some state := by
  unfold target at legal
  cases table : runTransitions core.state event with
  | none => simp [table] at legal
  | some other =>
      simp only [table] at legal
      split at legal
      · cases legal
      · split at legal
        · cases legal
        · exact legal

/-- What an update does to the core of a record. -/
def after (core : Core) : RecordWrite → Core
  | .transition event _ =>
      match core.target event with
      | some target => core.move event target core.outcome
      | none => core
  | .setOutcome outcome => { core with outcome }
  | .appendEvent (.runTransition event source target _) =>
      { core with passages := core.passages ++ [(event, source, target)] }
  | _ => core

theorem core_apply (update : RecordWrite) (record : RunRecord) :
    (apply update record).core = record.core.after update := by
  cases update with
  | transition event reason =>
      show (RecordWrite.apply (.transition event reason) record).core = _
      have same : record.core.target event = record.transitionTarget event := rfl
      simp only [after, RecordWrite.apply, same]
      cases record.transitionTarget event with
      | none => rfl
      | some target => simp [RunRecord.core, move, Event.passage?]
  | appendEvent event =>
      show Core.mk record.state record.outcome ((record.events ++ [event]).filterMap _) = _
      cases event <;> simp [RunRecord.core, after, Event.passage?]
  | _ => rfl

theorem core_applyAll (updates : List RecordWrite) (record : RunRecord) :
    (applyAll updates record).core = updates.foldl after record.core := by
  induction updates generalizing record with
  | nil => rfl
  | cons update updates ih => rw [applyAll_cons, ih, core_apply, List.foldl_cons]

theorem core_still {before after : RunRecord} (still : before.Still after) :
    after.core = before.core := by
  obtain ⟨events, packages, plain, rfl⟩ := still
  have silent : events.filterMap Event.passage? = [] := by
    rw [List.filterMap_eq_nil_iff]
    intro event member
    have isLight := plain event member
    cases event <;> first | rfl | cases isLight
  simp [RunRecord.core, silent]

end Core

/-- A sequence of lifecycle steps that keeps the core coherent. -/
structure Lawful (before after : Core) : Prop where
  advances : Relation.ReflTransGen Advances before after
  coherent : before.Coherent → after.Coherent

namespace Lawful

theorem of_eq {before after : Core} (same : after = before) : Lawful before after := by
  subst same
  exact ⟨.refl, id⟩

theorem trans {first second third : Core} (one : Lawful first second)
    (two : Lawful second third) : Lawful first third :=
  ⟨one.advances.trans two.advances, fun coherent => two.coherent (one.coherent coherent)⟩

theorem moved {before after : Core} (event : RunEvent) (target : RunState)
    (outcome : Option Dict) (legal : before.target event = some target)
    (same : after = before.move event target outcome)
    (closes : event = .runClosed → outcome = before.outcome)
    (coherent : before.Coherent → (before.move event target outcome).Coherent) :
    Lawful before after := by
  subst same
  refine ⟨.single (.moved event target outcome (Core.table_of_target legal) ?_ ?_ closes),
    coherent⟩
  · rintro rfl
    by_contra refused
    unfold Core.target at legal
    cases table : runTransitions before.state .decisionAccepted with
    | none => simp [table] at legal
    | some other => simp [table, refused] at legal
  · rintro rfl awaiting
    by_contra refused
    unfold Core.target at legal
    simp [awaiting, refused] at legal

end Lawful

namespace Core

theorem target_ordinary {core : Core} {event : RunEvent} (notRepair : event ≠ .refinementStarted)
    (notAccepted : event ≠ .decisionAccepted) :
    core.target event = runTransitions core.state event := by
  unfold target
  cases runTransitions core.state event with
  | none => rfl
  | some target => simp [notRepair, notAccepted]

theorem after_transition {core : Core} {event : RunEvent} {target : RunState}
    (legal : core.target event = some target) (reason : Option Json) :
    core.after (.transition event reason) = core.move event target core.outcome := by
  simp [after, legal]

end Core

namespace Lawful

variable {core : Core} {event : RunEvent} {target : RunState} {outcome : Dict}

/-- A transition whose outcome is written after it. -/
theorem transition_first (target : RunState) (legal : core.target event = some target)
    (notClosing : event ≠ .runClosed) (fits : Fits target (some outcome)) (reason : Option Json) :
    Lawful core ((core.after (.transition event reason)).after (.setOutcome (some outcome))) := by
  refine .moved event target (some outcome) legal ?_ (fun closing => absurd closing notClosing)
    fun _ => .inl fits
  rw [Core.after_transition legal]
  rfl

/-- A transition whose outcome is written before it. -/
theorem outcome_first (target : RunState) {outcome : Option Dict}
    (notRepair : event ≠ .refinementStarted) (notAccepted : event ≠ .decisionAccepted)
    (legal : runTransitions core.state event = some target) (notClosing : event ≠ .runClosed)
    (fits : Fits target outcome) (reason : Option Json) :
    Lawful core ((core.after (.setOutcome outcome)).after (.transition event reason)) := by
  refine .moved event target outcome ?_ ?_ (fun closing => absurd closing notClosing)
    fun _ => .inl fits
  · rw [Core.target_ordinary notRepair notAccepted]
    exact legal
  · rw [Core.after_transition]
    · rfl
    · rw [Core.target_ordinary notRepair notAccepted]
      exact legal

/-- A transition between two states that have no outcome. -/
theorem without_outcome (target : RunState) (legal : core.target event = some target)
    (notClosing : event ≠ .runClosed) (before : ∀ outcome, Fits core.state outcome → outcome = none)
    (after : Fits target none) (open' : core.state ≠ .closed) (reason : Option Json) :
    Lawful core (core.after (.transition event reason)) := by
  refine .moved event target core.outcome legal (Core.after_transition legal reason)
    (fun closing => absurd closing notClosing) ?_
  rintro (fits | ⟨closed, -⟩)
  · refine .inl ?_
    show Fits target core.outcome
    rw [before _ fits]
    exact after
  · exact absurd closed open'

end Lawful

section Changes

variable {env : Env} {ok : (query : Query) → Answer query → Prop} {site : Site} {call : Call}
  {updates : List RecordWrite} {fate : Fate}

theorem still_state (still : site.before.Still site.start) :
    site.record.state = site.loaded.state := by
  obtain ⟨events, packages, -, same⟩ := still.record site.address
  unfold Site.record Site.loaded
  rw [same]

theorem nodeOutcome_fits (report : NodeReport) (record : RunRecord) (resultRef : ResourceRef)
    (terminalState : TerminalState) (terminalError : Json) :
    Fits .awaitingDecision
      (some (Op.nodeOutcome report record resultRef terminalState terminalError)) := by
  refine ⟨_, rfl, by simp [Op.nodeOutcome, outcomeOf], ?_⟩
  by_cases attested : terminalState = .decisionRequired
  · exact .inr (by simp [Op.nodeOutcome, outcomeOf, attested])
  · exact .inl (by simp [Op.nodeOutcome, outcomeOf, attested])

/-- Every write block is a lawful step of the lifecycle. -/
theorem Change.lawful (change : Change env ok Repo.Still site call updates fate)
    (still : site.before.Still site.start) :
    Lawful site.record.core (applyAll updates site.record).core := by
  have sameState := still_state still
  have steady : Lawful site.record.core site.record.core := .of_eq rfl
  have ordinary : ∀ {event target} (source : RunState), event ≠ .refinementStarted →
      event ≠ .decisionAccepted → site.record.state = source →
      runTransitions source event = some target →
      site.record.core.target event = some target := by
    intro event target source notRepair notAccepted isSource legal
    rw [Core.target_ordinary notRepair notAccepted]
    show runTransitions site.record.state event = _
    rw [isSource]
    exact legal
  have needs : site.record.state = .running →
      runTransitions site.record.core.state .runNeedsDecision = some .awaitingDecision := by
    intro running
    simp [RunRecord.core, running]
  have succeeds : site.record.state = .running →
      runTransitions site.record.core.state .runSucceeded = some .completed := by
    intro running
    simp [RunRecord.core, running]
  rw [Core.core_applyAll]
  cases change
  case message | signal | inspected | replayed | commitBlocked | commitLate | startBlocked |
      requested | installed | installUnresolved | dispatched | dispatchUnresolved |
      nodeCompleted | nodeCompletedUnresolved | nodeFailedLate => exact steady
  case refined opened =>
      refine .without_outcome .thinking ?_ (by simp) ?_ rfl ?_ none
      · simp [Core.target, RunRecord.core, opened]
      · intro outcome fits
        simpa [RunRecord.core, opened, Fits] using fits
      · simp [RunRecord.core, opened]
  case cancelled reason live =>
      have legal : site.record.core.target .runCancelled = some .cancelled := by
        cases state : site.record.state with
        | opened => exact ordinary .opened (by simp) (by simp) state rfl
        | thinking => exact ordinary .thinking (by simp) (by simp) state rfl
        | committed => exact ordinary .committed (by simp) (by simp) state rfl
        | running => exact ordinary .running (by simp) (by simp) state rfl
        | awaitingDecision => exact ordinary .awaitingDecision (by simp) (by simp) state rfl
        | completed => simp [state, RunState.isTerminal] at live
        | failed => simp [state, RunState.isTerminal] at live
        | cancelled => simp [state, RunState.isTerminal] at live
        | closed => simp [state, RunState.isTerminal] at live
      refine .transition_first .cancelled legal (by simp) ⟨_, rfl, ?_, ?_⟩ _
      · simp [RunRecord.cancelOutcome, outcomeOf]
      · simp [RunRecord.cancelOutcome, outcomeOf]
  case failed reason live =>
      have legal : site.record.core.target .runFailed = some .failed := by
        rcases live with thinking | running
        · exact ordinary .thinking (by simp) (by simp) thinking rfl
        · exact ordinary .running (by simp) (by simp) running rfl
      refine .transition_first .failed legal (by simp) ⟨_, rfl, ?_, ?_⟩ _
      · simp [RunRecord.failOutcome, outcomeOf]
      · simp [RunRecord.failOutcome, outcomeOf]
  case closed finished =>
      have legal : site.record.core.target .runClosed = some .closed := by
        rcases finished with completed | failed | cancelled
        · exact ordinary .completed (by simp) (by simp) completed rfl
        · exact ordinary .failed (by simp) (by simp) failed rfl
        · exact ordinary .cancelled (by simp) (by simp) cancelled rfl
      refine .moved .runClosed .closed site.record.outcome legal ?_ (fun _ => rfl) ?_
      · exact Core.after_transition legal none
      · rintro (fits | ⟨closed, -⟩)
        · exact .inr ⟨rfl, site.record.state, finished, fits, by simp [Core.move, RunRecord.core]⟩
        · rcases finished with other | other | other
          · exact absurd (other.symm.trans closed) (by simp)
          · exact absurd (other.symm.trans closed) (by simp)
          · exact absurd (other.symm.trans closed) (by simp)
  case accepted outcome awaiting reported asked =>
      have legal : site.record.core.target .decisionAccepted = some .completed := by
        simp [Core.target, Core.decision, RunRecord.core, awaiting, reported, asked]
      refine .transition_first .completed legal (by simp) ⟨_, rfl, ?_, ?_⟩ _
      · simp [acceptedOutcome]
      · simp [acceptedOutcome]
  case abandoned outcome awaiting reported =>
      have legal : site.record.core.target .decisionAbandoned = some .failed :=
        ordinary .awaitingDecision (by simp) (by simp) awaiting rfl
      refine .transition_first .failed legal (by simp) ⟨_, rfl, ?_, ?_⟩ _
      · simp [abandonedOutcome]
      · simp [abandonedOutcome]
  case restarted unowned stale =>
      have legal : site.record.core.target .runFailed = some .failed := by
        rcases stale with thinking | running
        · exact ordinary .thinking (by simp) (by simp) thinking rfl
        · exact ordinary .running (by simp) (by simp) running rfl
      refine .transition_first .failed legal (by simp) ⟨_, rfl, ?_, ?_⟩ _
      · simp [RunRecord.restartOutcome, outcomeOf]
      · simp [RunRecord.restartOutcome, outcomeOf]
  case committed legal _ _ =>
      refine .without_outcome .committed ?_ (by simp) ?_ rfl ?_ none
      · exact ordinary .thinking (by simp) (by simp) legal rfl
      · intro outcome fits
        simpa [RunRecord.core, legal, Fits] using fits
      · simp [RunRecord.core, legal]
  case startedTask legal _ _ _ _ =>
      exact .outcome_first .running (by simp) (by simp)
        (by simp [RunRecord.core, legal]) (by simp) rfl none
  case startedOrchestration legal _ _ =>
      exact .outcome_first .running (by simp) (by simp)
        (by simp [RunRecord.core, legal]) (by simp) rfl none
  case startUnresolved legal _ _ =>
      exact .outcome_first .running (by simp) (by simp)
        (by simp [RunRecord.core, legal]) (by simp) rfl none
  case startLate committed illegal => exact absurd (sameState.trans committed) illegal
  case rejected rejection running =>
      refine .outcome_first .awaitingDecision (by simp) (by simp) (needs running) (by simp)
        ⟨_, rfl, ?_, .inl ?_⟩ (some (schemaMismatch rejection.errors))
      · simp [repairOutcome]
      · simp [repairOutcome]
  case rejectedLate fenced evidence rejection illegal =>
      obtain ⟨attempt, fence⟩ := fenceReport_ok fenced
      exact absurd (sameState.trans fence.running) illegal
  case settled settled reason phase error resourceRef evidenceId running =>
      cases state : settled.terminalState with
      | failed =>
          refine .outcome_first .awaitingDecision (by simp) (by simp) (needs running) (by simp)
            ⟨_, rfl, ?_, .inl ?_⟩ reason
          · simp [resultOutcome, repairOutcome]
          · simp [resultOutcome, repairOutcome]
      | decisionRequired =>
          refine .outcome_first .awaitingDecision (by simp) (by simp) (needs running) (by simp)
            ⟨_, rfl, ?_, .inr ?_⟩ reason
          · simp [resultOutcome, attestationOutcome]
          · simp [resultOutcome, attestationOutcome]
      | completed =>
          refine .outcome_first .completed (by simp) (by simp) (succeeds running) (by simp)
            ⟨_, rfl, ?_, ?_⟩ reason
          · simp [resultOutcome, completedOutcome]
          · simp [resultOutcome, completedOutcome]
  case settledUnreadable settled reason error failed unreadable running =>
      refine .outcome_first .awaitingDecision (by simp) (by simp) (needs running) (by simp)
        ⟨_, rfl, ?_, .inl ?_⟩ reason
      · simp [resultOutcome, repairOutcome]
      · simp [resultOutcome, repairOutcome]
  case settledLate fenced settled illegal =>
      obtain ⟨attempt, fence⟩ := fenceReport_ok fenced
      exact absurd (sameState.trans fence.running) illegal
  case nodeUndecided report fenced settled provenance reason undecided running =>
      exact .outcome_first .awaitingDecision (by simp) (by simp) (needs running) (by simp)
        (nodeOutcome_fits report site.record settled.resultRef _ _) reason
  case nodeUndecidedUnresolved report fenced settled reason error undecided running unresolved =>
      exact .outcome_first .awaitingDecision (by simp) (by simp) (needs running) (by simp)
        (nodeOutcome_fits report site.record settled.resultRef _ _) reason
  case nodeLate fenced settled undecided illegal =>
      exact absurd (sameState.trans (fenceNodeReport_ok fenced).running) illegal
  case nodeFailed nodeIndex target provenance found current running =>
      refine .transition_first .awaitingDecision
        (ordinary .running (by simp) (by simp) running rfl) (by simp) ⟨_, rfl, ?_, .inl ?_⟩ _
      · simp [RunRecord.nodeFailureOutcome, outcomeOf]
      · simp [RunRecord.nodeFailureOutcome, outcomeOf]
  case nodeFailedUnresolved nodeIndex unknown found current running unresolved =>
      refine .transition_first .awaitingDecision
        (ordinary .running (by simp) (by simp) running rfl) (by simp) ⟨_, rfl, ?_, .inl ?_⟩ _
      · simp [RunRecord.nodeFailureOutcome, outcomeOf]
      · simp [RunRecord.nodeFailureOutcome, outcomeOf]
  case finalRejected final rejected running =>
      refine .transition_first .awaitingDecision
        (ordinary .running (by simp) (by simp) running rfl) (by simp) ⟨_, rfl, ?_, .inl ?_⟩ _
      · simp [RunRecord.finalRepair, outcomeOf]
      · simp [RunRecord.finalRepair, outcomeOf]
  case finalUndecided final valid asks running =>
      refine .transition_first .awaitingDecision
        (ordinary .running (by simp) (by simp) running rfl) (by simp) ⟨_, rfl, ?_, .inr ?_⟩ _
      · simp [RunRecord.finalAttestation, outcomeOf]
      · simp [RunRecord.finalAttestation, outcomeOf]
  case finalCompleted final valid asksNot running =>
      refine .transition_first .completed
        (ordinary .running (by simp) (by simp) running rfl) (by simp) ⟨_, rfl, ?_, ?_⟩ _
      · simp [RunRecord.finalOutcome]
      · simp [RunRecord.finalOutcome]

/-- A draft is a lawful step: it starts a refinement or leaves the lifecycle alone. -/
theorem DraftChange.lawful {operations : List Dict} {draft : List RecordWrite} {record : RunRecord}
    (change : DraftChange env ok site operations draft) (still : site.before.Still site.start)
    (packed : site.record.Still record) : Lawful record.core (applyAll draft record).core := by
  have sameState := still_state still
  have same : record.core = site.record.core := Core.core_still packed
  rw [Core.core_applyAll, same]
  cases change with
  | refined number digest snapshot applied drawn thinking => exact .of_eq rfl
  | begun number digest snapshot applied drawn opened legal =>
      have opened : site.record.state = .opened := sameState.trans opened
      refine .without_outcome .thinking ?_ (by simp) ?_ rfl ?_ none
      · simp [Core.target, RunRecord.core, opened]
      · intro outcome fits
        simpa [RunRecord.core, opened, Fits] using fits
      · simp [RunRecord.core, opened]
  | repaired number digest snapshot applied drawn awaiting legal =>
      have awaiting : site.record.state = .awaitingDecision := sameState.trans awaiting
      have target : site.record.core.target .refinementStarted = some .thinking := by
        obtain ⟨state, isTarget⟩ : ∃ state,
            site.record.core.target .refinementStarted = some state :=
          Option.ne_none_iff_exists'.1 legal
        have table := Core.table_of_target isTarget
        rw [show site.record.core.state = .awaitingDecision from awaiting] at table
        cases table
        exact isTarget
      refine .moved .refinementStarted .thinking none target ?_ (by simp) fun _ => .inl rfl
      show ((site.record.core.after (.setDraft _)).after
        (.transition .refinementStarted none)).after (.setOutcome none) = _
      rw [show site.record.core.after (.setDraft _) = site.record.core from rfl,
        Core.after_transition target]
      rfl
  | late number digest snapshot applied drawn undecided illegal => exact .of_eq rfl

theorem Reassignment.lawful {args : ReassignArgs}
    (move : Reassignment env Repo.Still site args) :
    Lawful site.record.core (applyAll move.updates site.record).core :=
  .of_eq (by rw [Core.core_applyAll]; rfl)

end Changes

section Histories

variable {env : Env} {ok : (query : Query) → Answer query → Prop}

theorem lawful_rule : Rule env ok (fun _ _ => True)
    fun before after => Lawful before.record.core after.record.core where
  still _ still := .of_eq (Core.core_still still)
  trans := .trans
  change change undisturbed _ _ := change.lawful undisturbed.still
  reassign move _ := move.lawful
  draft change undisturbed _ packed := change.lawful undisturbed.still packed

/-- A new run has the core from which every lifecycle starts. -/
theorem NewRun.core {args : OpenArgs} {uuids : Nat} {runId : String} {record : RunRecord}
    (isNew : NewRun env args uuids runId record) : record.core = ⟨.opened, none, []⟩ := by
  obtain ⟨contract, draft, createdAt, -, rfl⟩ := isNew.isNew
  rfl

theorem Advances.path {before after : Core} (advances : Advances before after)
    (path : IsPath .opened before.passages before.state) :
    IsPath .opened after.passages after.state := by
  cases advances with
  | steady => exact path
  | moved event target outcome legal accepts repairs closes => exact .snoc path legal

theorem Lawful.path {before after : Core} (lawful : Lawful before after)
    (path : IsPath .opened before.passages before.state) :
    IsPath .opened after.passages after.state := by
  obtain ⟨advances, -⟩ := lawful
  induction advances with
  | refl => exact path
  | tail _ step ih => exact step.path ih

/-- Coherence of a record, and the path of its transitions. -/
def RunRecord.InOrder (record : RunRecord) : Prop :=
  record.core.Coherent ∧ IsPath .opened record.core.passages record.core.state

theorem Lawful.inOrder {before after : RunRecord} (lawful : Lawful before.core after.core)
    (inOrder : before.InOrder) : after.InOrder :=
  ⟨lawful.coherent inOrder.1, lawful.path inOrder.2⟩

/-- After every sequential history each record's outcome agrees with its state and its logged
transitions form a path from `opened` to that state; and each call takes each record through
lawful steps, or opens it. -/
theorem lifecycle_coherent {entries : List (Entry Repo Exc Answer Reply Call)} {repo : Repo}
    (history : Observed env ok entries repo) :
    (∀ runId record, repo.run? runId = some record →
      record.core.Coherent ∧ IsPath .opened record.core.passages record.core.state) ∧
    ∀ entry ∈ entries, ∀ runId record', entry.after.run? runId = some record' →
      (∃ record, entry.before.run? runId = some record ∧
        Relation.ReflTransGen Advances record.core record'.core) ∨
      ∃ args, entry.label = .openRun args ∧ NewRun env args entry.before.uuids runId record' := by
  obtain ⟨all, each⟩ := (lawful_rule).invariant
    (fun before after lawful (inOrder : before.record.InOrder) => lawful.inOrder inOrder)
    (fun args drawn runId record uuids isNew => by
      show record.InOrder
      unfold RunRecord.InOrder
      rw [isNew.core]
      exact ⟨.inl rfl, .nil⟩) history (fun _ _ => trivial)
  refine ⟨all.record, fun entry member runId record' found => ?_⟩
  have relates := (lawful_rule).relates (each entry member).allocated trivial
    (history.runs entry member)
  rcases relates.2 runId record' found with ⟨record, installed, lawful⟩ | opened
  · exact .inl ⟨record, installed, lawful.advances⟩
  · exact .inr opened

/-- A run that is cancelled and closed. -/
def cancelledCalls : List (Call × World) :=
  [(Demo.opens 1, Demo.usual), (.beginRefinement "run", Demo.usual),
    (.cancelRun "run" (.str "stop"), Demo.usual), (.closeRun "run", Demo.usual)]

theorem lifecycle_coherent_cancelled :
    ∃ record, (Demo.after cancelledCalls).2.run? "run" = some record ∧ record.state = .closed ∧
      record.core.Coherent ∧ IsPath .opened record.core.passages .closed := by
  have closed : ((Demo.after cancelledCalls).2.run? "run").map RunRecord.state = some .closed := by
    decide +kernel
  obtain ⟨record, found, isClosed⟩ := Option.map_eq_some_iff.1 closed
  obtain ⟨coherent, path⟩ :=
    (lifecycle_coherent (Observed.of_play Demo.env cancelledCalls)).1 "run" record found
  have same : record.core.state = .closed := isClosed
  rw [same] at path
  exact ⟨record, found, isClosed, coherent, path⟩

end Histories

end Loom
