import Loom.Observer.Replay
import Loom.Properties.NodeFailures
import Loom.Properties.Recovery

/-!
# The log and the nodes

An operation on a node writes the node and logs an event for it, in one segment.  The two part
where an operation raises in between, because the provenance of the event cannot be resolved or the
run is not running, and where recovery releases a dispatched node, for which it logs no event of
the node.  In every history without such calls (`Repo.logsNodes`) the log of each run rebuilds its
nodes.
-/

namespace Loom

open Coroutine

/-- `any(event.get("phase") == "node_requested" and event.get("intent_id") == intent_id ...)`. -/
def RunRecord.requested (record : RunRecord) (intentId : String) : Bool :=
  record.events.any fun
    | .nodeRequested _ _ _ known _ => known.intentId = intentId
    | _ => false

/-- The program reference of the run's orchestration package can be read. -/
def Repo.resolvesProgram (repo : Repo) (env : Env) (runId : String) (record : RunRecord) : Bool :=
  match record.snapshot.programSystems.packageRef.bind fun ref =>
      repo.findPackage ref (some runId) with
  | some package => (packageBodyRef env package "program_content_ref").isOk
  | none => true

/-- Recovery finds the run of a record without dispatched nodes, or does not replay it. -/
def Repo.releasesNone (repo : Repo) (owners : List String) (record : RunRecord) : Bool :=
  record.isSpared owners || !repo.replays record ||
    record.dynamicNodes.all fun node => node.state ≠ .dispatched

/-- The call logs what it does to the nodes.  An intent has passed the validation of
`NodeIntent`; the operations that write a node before they log it can resolve the provenance of
the event, where they get so far; a node fails while its run is running; and recovery replays no run
that has a dispatched node. -/
def Repo.logsNodes (repo : Repo) (env : Env) : Call → Bool
  | .acceptNodeIntent runId intent _ =>
      intent.intentId ≠ "" && intent.executionId ≠ "" &&
        (repo.run? runId).all fun record =>
          !record.requested intent.intentId || (record.nodeOfIntent intent.intentId).isSome ||
            repo.resolvesProgram env runId record
  | .dispatchDynamicNode runId nodeId _ =>
      (repo.run? runId).all fun record =>
        record.board.stateOf nodeId ≠ some .accepted || (repo.provenance env record none).isOk
  | .recordDynamicNodeResult runId nodeId result =>
      (repo.run? runId).all fun record =>
        !(fenceNodeReport env record nodeId result).isOk || (repo.provenance env record none).isOk
  | .failDynamicNode runId nodeId attemptId error =>
      (repo.run? runId).all fun record =>
        !record.admitsFailure nodeId attemptId error ||
          record.board.stateOf nodeId = some .failed ||
          (record.state = .running && (repo.provenance env record none).isOk)
  | .recoverStaleRuns owners => repo.records.all fun record => repo.releasesNone owners record
  | _ => true

/-- The nodes of every record are those that its log rebuilds. -/
def Logged (view : View) : Prop := view.record.nodeLog.Agrees

/-! ### Calls with one write block -/

section Steps

variable {env : Env} {ok : (query : Query) → Answer query → Prop} {site : Site} {call : Call}
  {updates : List RecordWrite} {fate : Fate}

/-- The call writes nodes in one block, or in a copy of the record. -/
def Call.writesOnce : Call → Bool
  | .acceptNodeIntent _ _ _ | .recoverStaleRuns _ => false
  | _ => true

/-- What the calls of the rule may do. -/
def LogsNodes (env : Env) (call : Call) (repo : Repo) : Prop :=
  call.writesOnce = true ∧ repo.logsNodes env call = true

theorem set_failed {record : RunRecord} (agrees : record.nodeLog.Agrees) {nodeId : String}
    {nodeIndex : Nat}
    (found : firstIndex? (fun node => node.nodeId = nodeId) record.dynamicNodes = some nodeIndex)
    (failed : record.board.stateOf nodeId = some .failed) :
    (record.nodeLog.after (.setNodeState nodeIndex .failed)).Agrees := by
  have same : (record.dynamicNodes.modify nodeIndex fun node =>
      { node with state := NodeState.failed }) = record.dynamicNodes := by
    refine modify_failed fun node isNode => ?_
    rw [Board.stateOf_firstIndex? found isNode] at failed
    exact Option.some.inj failed
  change NodeLog.Agrees ⟨record.nodeLog.replayed, record.dynamicNodes.modify nodeIndex _⟩
  rw [same]
  exact agrees

/-- A call that fails a node either finds it failed or can log it. -/
theorem failure_logged {runId nodeId : String} {attemptId : Option String} {error : Option Json}
    {nodeIndex : Nat} (permitted : Permitted (LogsNodes env)
      (.failDynamicNode runId nodeId attemptId error) site)
    (found : firstIndex? (fun node => node.nodeId = nodeId) site.record.dynamicNodes =
      some nodeIndex)
    (isObject : isErrorObject error) (current : site.record.canFailAttempt nodeId attemptId) :
    site.record.board.stateOf nodeId = some .failed ∨
      site.record.state = .running ∧ (site.start.provenance env site.record none).isOk := by
  obtain ⟨start, ⟨-, logs⟩, alike, record⟩ := permitted.record rfl
  have provenance : start.provenance env site.record none =
      site.start.provenance env site.record none := provenance_alike alike site.record
  have admitted : site.record.admitsFailure nodeId attemptId error := by
    simp [RunRecord.admitsFailure, found, isObject, current]
  simp only [Repo.logsNodes, record, Option.all_some, provenance, admitted, Bool.not_true,
    Bool.false_or, Bool.or_eq_true, Bool.and_eq_true, decide_eq_true_eq] at logs
  exact logs

theorem dispatch_logged {runId nodeId target : String} {nodeIndex : Nat}
    (permitted : Permitted (LogsNodes env) (.dispatchDynamicNode runId nodeId target) site)
    (found : firstIndex? (fun node => node.nodeId = nodeId) site.record.dynamicNodes =
      some nodeIndex)
    (accepted : (site.record.dynamicNodes.getD nodeIndex default).state = .accepted) :
    (site.start.provenance env site.record none).isOk := by
  obtain ⟨start, ⟨-, logs⟩, alike, record⟩ := permitted.record rfl
  have provenance : start.provenance env site.record none =
      site.start.provenance env site.record none := provenance_alike alike site.record
  obtain ⟨node, isNode, -⟩ := firstIndex?_some found
  rw [List.getD_eq_getElem?_getD, isNode, Option.getD_some] at accepted
  have state : site.record.board.stateOf nodeId = some .accepted := by
    rw [Board.stateOf_firstIndex? found isNode, accepted]
  simp only [Repo.logsNodes, record, Option.all_some, provenance, state, ne_eq, not_true_eq_false,
    decide_false, Bool.false_or] at logs
  exact logs

theorem result_logged {runId nodeId : String} {result : Json} {report : NodeReport}
    (permitted : Permitted (LogsNodes env) (.recordDynamicNodeResult runId nodeId result) site)
    (fenced : fenceNodeReport env site.record nodeId result = .ok report) :
    (site.start.provenance env site.record none).isOk := by
  obtain ⟨start, ⟨-, logs⟩, alike, record⟩ := permitted.record rfl
  have provenance : start.provenance env site.record none =
      site.start.provenance env site.record none := provenance_alike alike site.record
  simp only [Repo.logsNodes, record, Option.all_some, provenance, fenced, Except.isOk,
    Except.toBool, Bool.not_true, Bool.false_or] at logs
  exact logs

/-- The nodes, the attempts and the execution are those that the call has loaded. -/
theorem Site.Undisturbed.nodes (undisturbed : site.Undisturbed) :
    site.record.dynamicNodes = site.loaded.dynamicNodes ∧ site.record.state = site.loaded.state ∧
      ∀ nodeId result, fenceNodeReport env site.record nodeId result =
        fenceNodeReport env site.loaded nodeId result := by
  obtain ⟨events, packages, -, still⟩ := undisturbed.still.record site.address
  have record : site.record = { site.loaded with
    events := site.loaded.events ++ events
    capabilityPackages := site.loaded.capabilityPackages ++ packages } := still
  rw [record]
  exact ⟨rfl, rfl, fun _ _ => rfl⟩

/-- A write block of a call that logs its nodes keeps the log and the nodes alike. -/
theorem Change.logs (change : Change env ok Repo.Still site call updates fate)
    (undisturbed : site.Undisturbed) (once : call.writesOnce = true)
    (permitted : call.isSingle → Permitted (LogsNodes env) call site)
    (agrees : site.record.nodeLog.Agrees) : (applyAll updates site.record).nodeLog.Agrees := by
  obtain ⟨nodes, state, fences⟩ := @Site.Undisturbed.nodes env _ undisturbed
  have reported : ∀ {nodeId : String} {result : Json} {report : NodeReport} (state : NodeState),
      fenceNodeReport env site.loaded nodeId result = .ok report →
      NodeLog.Agrees ⟨setReplayed site.record.nodeLog.replayed report.node.nodeId state,
        site.record.dynamicNodes.modify report.nodeIndex fun node => { node with state }⟩ := by
    intro nodeId result report state fenced
    rw [← fences] at fenced
    have facts := fenceNodeReport_ok fenced
    rw [facts.nodeNamed]
    exact agrees.set state facts.nodeFound
  have resolved : ∀ {outcome : Except Exc Provenance} {error : Exc}, outcome.isOk →
      outcome ≠ .error error := by
    rintro outcome error isOk rfl
    cases isOk
  rw [NodeLog.nodeLog_applyAll]
  cases change
  case message | signal | refined | inspected | cancelled | failed | closed | accepted | abandoned |
      commitBlocked | committed | commitLate | startBlocked | startedTask | startedOrchestration |
      startUnresolved | startLate | rejected | rejectedLate | settled | settledUnreadable |
      settledLate | finalRejected | finalUndecided | finalCompleted => exact agrees
  case replayed | restarted | requested | installed | installUnresolved => cases once
  case dispatched nodeIndex number normalized instanceId agentEpoch provenance running found
      isAccepted budget drawn =>
      obtain ⟨node, isNode, named⟩ := firstIndex?_some found
      have same : (site.loaded.dynamicNodes.getD nodeIndex default).nodeId = node.nodeId := by
        rw [List.getD_eq_getElem?_getD, isNode, Option.getD_some]
      rw [← nodes] at found
      rw [← of_decide_eq_true named] at found
      change NodeLog.Agrees ⟨setReplayed site.record.nodeLog.replayed
        (site.loaded.dynamicNodes.getD nodeIndex default).nodeId .dispatched,
        site.record.dynamicNodes.modify nodeIndex _⟩
      rw [same]
      exact agrees.set .dispatched found
  case dispatchUnresolved unresolved running found isAccepted budget drawn =>
      rw [← nodes] at found isAccepted
      exact absurd unresolved (resolved (dispatch_logged (permitted rfl) found isAccepted))
  case nodeCompleted fenced settled provenance completed =>
      exact reported settled.terminalState.nodeState fenced
  case nodeCompletedUnresolved fenced settled error completed unresolved =>
      rw [← fences] at fenced
      exact absurd unresolved (resolved (result_logged (permitted rfl) fenced))
  case nodeUndecided fenced settled provenance reason undecided running =>
      exact reported settled.terminalState.nodeState fenced
  case nodeUndecidedUnresolved fenced settled reason error undecided running unresolved =>
      rw [← fences] at fenced
      exact absurd unresolved (resolved (result_logged (permitted rfl) fenced))
  case nodeLate fenced settled undecided illegal =>
      rw [state] at illegal
      exact absurd (fenceNodeReport_ok fenced).running illegal
  case nodeFailed found isObject current running =>
      exact agrees.set .failed found
  case nodeFailedUnresolved found isObject current running unresolved =>
      rcases failure_logged (permitted rfl) found isObject current with failed | ⟨-, logs⟩
      · exact set_failed agrees found failed
      · exact absurd unresolved (resolved logs)
  case nodeFailedLate found isObject current illegal =>
      rcases failure_logged (permitted rfl) found isObject current with failed | ⟨running, -⟩
      · exact set_failed agrees found failed
      · exact absurd running illegal

theorem logs_rule : Rule env ok (LogsNodes env) fun before after => Logged before →
    Logged after where
  still {before after} _ still agrees := by
    unfold Logged
    rw [NodeLog.nodeLog_still still]
    exact agrees
  trans one two agrees := two (one agrees)
  change change undisturbed allowed permitted agrees := by
    obtain ⟨start, once, -⟩ := allowed
    exact change.logs undisturbed once permitted agrees
  reassign {site args} move undisturbed agrees := by
    unfold Logged
    rw [NodeLog.nodeLog_applyAll]
    exact NodeLog.Agrees.set agrees .dispatched move.nodeFound
  draft {site operations draft record} change _ _ _ agrees := by
    unfold Logged
    rw [NodeLog.nodeLog_applyAll]
    cases change <;> exact agrees

end Steps

/-! ### Recovery -/

section Recover

variable {env : Env} {ok : (query : Query) → Answer query → Prop} {owners : List String}

/-- The records of a repository are logged, and recovery releases no node of them. -/
structure Repo.Recoverable (before : Repo) (owners : List String) (repo : Repo) : Prop where
  runs : repo.runs = before.runs
  next : repo.next = before.next
  logged : ∀ runId record, repo.run? runId = some record → record.nodeLog.Agrees
  released : ∀ runId record, repo.run? runId = some record → repo.releasesNone owners record

/-- A recovered record has released nothing and has nothing to release. -/
theorem recovered_logged {repo : Repo} {record : RunRecord} (agrees : record.nodeLog.Agrees)
    (none : repo.releasesNone owners record) :
    (repo.recovered owners record).nodeLog.Agrees ∧
      repo.releasesNone owners (repo.recovered owners record) := by
  unfold Repo.recovered
  split
  · exact ⟨agrees, none⟩
  · rename_i stale
    split
    · rename_i replays
      have idle : ∀ node ∈ record.dynamicNodes, node.state ≠ .dispatched := by
        simpa [Repo.releasesNone, stale, replays] using none
      have released := agrees.release idle
      refine ⟨?_, ?_⟩
      · unfold RunRecord.replayed
        rw [NodeLog.nodeLog_applyAll]
        exact released
      · have still : ∀ node ∈ record.replayed.dynamicNodes, node.state ≠ .dispatched := by
          intro node member
          rw [replayed_eq] at member
          obtain ⟨old, isOld, rfl⟩ := List.mem_map.1 member
          unfold DynamicNode.release
          rw [if_neg (idle old isOld)]
          exact idle old isOld
        simp only [Repo.releasesNone, Bool.or_eq_true, List.all_eq_true, decide_eq_true_eq]
        exact .inr still
    · have live : record.state = .thinking ∨ record.state = .running := by
        by_contra neither
        rw [not_or] at neither
        exact stale (by simp [RunRecord.isSpared, neither])
      refine ⟨?_, ?_⟩
      · unfold RunRecord.restarted
        rw [NodeLog.nodeLog_applyAll]
        exact agrees
      · have spared : record.restarted.isSpared owners = true := by
          rw [restarted_eq live]
          simp [RunRecord.isSpared]
        simp [Repo.releasesNone, spared]

theorem Repo.Recoverable.step {before repo : Repo} (recoverable : before.Recoverable owners repo)
    (address : Nat) :
    before.Recoverable owners
      (Op.changed repo address (repo.recovered owners (repo.heap address))) := by
  have installed : ∀ {runId : String} {record : RunRecord},
      (Op.changed repo address (repo.recovered owners (repo.heap address))).run? runId =
        some record →
      record.nodeLog.Agrees ∧ repo.releasesNone owners record := by
    intro runId record found
    obtain ⟨other, isOther, rfl⟩ := Repo.run?_eq_some.1 found
    have known : repo.run? runId = some (repo.heap other) :=
      Repo.run?_eq_some.2 ⟨other, isOther, rfl⟩
    rw [Op.heap_changed]
    split
    · rename_i same
      subst same
      exact recovered_logged (recoverable.logged runId _ known) (recoverable.released runId _ known)
    · exact ⟨recoverable.logged runId _ known, recoverable.released runId _ known⟩
  refine ⟨recoverable.runs, recoverable.next, fun runId record found => (installed found).1,
    fun runId record found => ?_⟩
  have released := (installed found).2
  unfold Repo.releasesNone at released ⊢
  rwa [Op.replays_changed]

theorem recover_logged {before after : Repo} {result : Except Exc Reply}
    (runs : ((Call.recoverStaleRuns owners).prog env).Runs ok before after result)
    (logs : before.logsNodes env (.recoverStaleRuns owners)) (all : before.All Logged) :
    after.All Logged := by
  have held : before.Recoverable owners before := by
    refine ⟨rfl, rfl, all.record, fun runId record found => ?_⟩
    obtain ⟨address, isAddress, rfl⟩ := Repo.run?_eq_some.1 found
    have member : before.heap address ∈ before.records :=
      List.mem_map.2 ⟨(runId, address), Keyed.mem_of_lookup isAddress, rfl⟩
    exact List.all_eq_true.1 logs _ member
  have spec : ((Call.recoverStaleRuns owners).prog env).Ensures ok before fun after _ =>
      before.Recoverable owners after :=
    .map (Op.recoverStaleRuns_keeps (fun state address held => held.step address) held)
  have recoverable := spec.runs runs
  refine ⟨fun runId address found => ?_, recoverable.logged⟩
  unfold Repo.address? at found
  rw [recoverable.runs] at found
  rw [recoverable.next]
  exact all.allocated runId address found

end Recover

/-! ### Accepting a node -/

/-- Every record that was logged is still logged. -/
structure Repo.KeepsLogs (before after : Repo) : Prop where
  runs : after.runs = before.runs
  next : after.next = before.next
  logs : ∀ address, (before.heap address).nodeLog.Agrees → (after.heap address).nodeLog.Agrees

namespace Repo.KeepsLogs

variable {before middle after : Repo}

theorem of_alike (alike : before.Alike after) : before.KeepsLogs after :=
  ⟨alike.runs.symm, alike.next.symm, fun address agrees => by rwa [← alike.heap]⟩

theorem trans (earlier : before.KeepsLogs middle) (later : middle.KeepsLogs after) :
    before.KeepsLogs after :=
  ⟨later.runs.trans earlier.runs, later.next.trans earlier.next,
    fun address agrees => later.logs address (earlier.logs address agrees)⟩

theorem of_updates {repo : Repo} {address : Nat} (updates : List RecordWrite)
    (keeps : (repo.heap address).nodeLog.Agrees →
      (updates.foldl NodeLog.after (repo.heap address).nodeLog).Agrees) :
    repo.KeepsLogs (applyAll (writesAt address updates) repo) := by
  rw [applyAll_writesAt]
  refine ⟨rfl, rfl, fun other agrees => ?_⟩
  by_cases same : other = address
  · subst same
    change (Function.update repo.heap other _ other).nodeLog.Agrees
    rw [Function.update_self, NodeLog.nodeLog_applyAll]
    exact keeps agrees
  · change (Function.update repo.heap address _ other).nodeLog.Agrees
    rw [Function.update_of_ne same]
    exact agrees

theorem all (keeps : before.KeepsLogs after) (all : before.All Logged) : after.All Logged := by
  have address : ∀ runId, after.address? runId = before.address? runId := by
    intro runId
    unfold Repo.address?
    rw [keeps.runs]
  refine ⟨fun runId at' found => ?_, fun runId record found => ?_⟩
  · rw [address] at found
    rw [keeps.next]
    exact all.allocated runId at' found
  · obtain ⟨at', isAddress, rfl⟩ := Repo.run?_eq_some.1 found
    rw [address] at isAddress
    exact keeps.logs at' (all.record runId _ (Repo.run?_eq_some.2 ⟨at', isAddress, rfl⟩))

end Repo.KeepsLogs

section Accept

variable {env : Env} {ok : (query : Query) → Answer query → Prop} {runId target : String}
  {intent : NodeIntent}

theorem Op.Reads.ensures {α : Type} {program : Op α} (reads : Op.Reads program) (repo : Repo) :
    program.Ensures ok repo fun after _ => repo.Alike after :=
  .of_runs fun _ _ runs =>
    reads.preserves (fun state => repo.Alike state)
      (fun _ state isMinor alike => alike.trans (.minor isMinor state)) runs (.refl repo)

/-- The provenance of a known package is known with its program. -/
theorem provenance_known {repo : Repo} {record : RunRecord} {package : CapabilityPackageVersion}
    (resolved : (packageBodyRef env package "program_content_ref").isOk) :
    ∃ provenance, repo.provenance env record (some package) = .ok provenance := by
  unfold Repo.provenance
  dsimp only
  cases found : packageBodyRef env package "program_content_ref" with
  | error error =>
      rw [found] at resolved
      cases resolved
  | ok ref => exact ⟨_, rfl⟩

theorem installNode_ensures {repo : Repo} {address : Nat} {package : CapabilityPackageVersion}
    {limits : OrchestrationLimits} {selected : String} (intended : intent.intentId ≠ "")
    (executed : intent.executionId ≠ "")
    (execution : (repo.heap address).executionId = some intent.executionId)
    (resolved : (packageBodyRef env package "program_content_ref").isOk) :
    (Op.installNode env address runId intent package limits selected).Ensures ok repo
      fun after _ => repo.KeepsLogs after := by
  have same := Repo.KeepsLogs.of_alike (.refl repo)
  unfold Op.installNode
  refine Prog.Ensures.bind (?_ : Prog.Ensures ok (Op.recordAt address) repo _)
  refine Prog.Ensures.bind (Prog.Ensures.ofExcept ?_)
  cases (repo.heap address).checkNodeLimits limits with
  | error error => exact same
  | ok value =>
      dsimp only
      rw [execution]
      refine Prog.Ensures.bind (?_ : Prog.Ensures ok (Prog.ret intent.executionId) repo _)
      refine Prog.Ensures.bind (?_ : Prog.Ensures ok (Op.modify address _) repo _)
      change Prog.Ensures ok _ (apply (Write.record address (RecordWrite.appendNode
        (intent.node intent.executionId ((repo.heap address).dynamicNodes.length + 1)))) repo) _
      generalize isInstalled : apply (Write.record address (RecordWrite.appendNode
        (intent.node intent.executionId ((repo.heap address).dynamicNodes.length + 1)))) repo =
          installed
      obtain ⟨provenance, known⟩ : ∃ provenance, installed.provenance env
        (installed.heap address) (some package) = .ok provenance := provenance_known resolved
      refine Prog.Ensures.bind (?_ : Prog.Ensures ok (Op.provenance env address _) installed _)
      change Prog.Ensures ok (Prog.ofExcept _) installed _
      rw [known]
      refine Prog.Ensures.bind (?_ : Prog.Ensures ok (Op.appendEvent address _) installed _)
      subst isInstalled
      have kept : repo.KeepsLogs (applyAll (writesAt address
          [.appendNode
            (intent.node intent.executionId ((repo.heap address).dynamicNodes.length + 1)),
            .appendEvent (.nodeAccepted runId (some intent.executionId)
              (repo.heap address).executionEpoch
              (intent.node intent.executionId
                ((repo.heap address).dynamicNodes.length + 1)).nodeId intent.intentId
              intent.packageRef intent.capabilityDescriptorRef intent.inputRefs selected
              provenance)]) repo) :=
        .of_updates _ fun agrees => agrees.accept intended executed
      exact .bind (Op.persist_ensures kept fun _ => kept)

theorem orchestrationPackage_ensures {repo : Repo} {address : Nat}
    {post : Repo → Except Exc (CapabilityPackageVersion × OrchestrationLimits) → Prop}
    (found : ∀ package limits, ((repo.heap address).snapshot.programSystems.packageRef.bind
      fun ref => repo.findPackage ref (some runId)) = some package →
        post repo (.ok (package, limits)))
    (failed : ∀ error, post repo (.error error)) :
    (Op.orchestrationPackage env address runId).Ensures ok repo post := by
  unfold Op.orchestrationPackage
  dsimp only [Prog.Ensures]
  cases bound : (repo.heap address).snapshot.programSystems.packageRef with
  | none => exact failed _
  | some ref =>
      dsimp only
      split
      · exact failed _
      · cases isPackage : repo.findPackage ref (some runId) with
        | none =>
            dsimp only
            split
            · exact failed _
            · exact failed _
        | some package =>
            dsimp only
            split
            · exact failed _
            · split
              · exact found package _ (by rw [bound]; exact isPackage)
              · split
                · exact failed _
                · exact failed _

/-- The first request of an intent is logged once its provenance is known. -/
theorem requestNode_ensures {repo : Repo} {address : Nat} {package : CapabilityPackageVersion}
    {post : Repo → Except Exc Unit → Prop}
    (known : (repo.heap address).requested intent.intentId = true → post repo (.ok ()))
    (logged : (packageBodyRef env package "program_content_ref").isOk →
      ∀ (event : Event) (result : Except Exc Unit), event.isLight →
        post (applyAll (writesAt address [.appendEvent event]) repo) result)
    (failed : ∀ error, post repo (.error error)) :
    (Op.requestNode env address runId intent package).Ensures ok repo post := by
  unfold Op.requestNode
  refine Prog.Ensures.bind (?_ : Prog.Ensures ok (Op.recordAt address) repo _)
  change Prog.Ensures ok (if (repo.heap address).requested intent.intentId = true then _ else _)
    repo post
  split
  · rename_i isKnown
    exact known isKnown
  · refine Prog.Ensures.bind (?_ : Prog.Ensures ok (Op.provenance env address _) repo _)
    change Prog.Ensures ok (Prog.ofExcept (repo.provenance env (repo.heap address) (some package)))
      repo _
    refine Prog.Ensures.ofExcept ?_
    cases resolved : repo.provenance env (repo.heap address) (some package) with
    | error error => exact failed error
    | ok provenance =>
        have isOk : (packageBodyRef env package "program_content_ref").isOk := by
          unfold Repo.provenance at resolved
          dsimp only at resolved
          cases isRef : packageBodyRef env package "program_content_ref" with
          | error error =>
              rw [isRef] at resolved
              cases resolved
          | ok ref => rfl
        refine Prog.Ensures.bind (?_ : Prog.Ensures ok (Op.appendEvent address _) repo _)
        exact Op.persist_ensures (logged isOk (.nodeRequested _ _ _ _ _) _ rfl)
          fun _ => logged isOk (.nodeRequested _ _ _ _ _) _ rfl

/-- `_accept_node_intent` once the request is logged. -/
theorem answerIntent_ensures {repo : Repo} {address : Nat} {package : CapabilityPackageVersion}
    {limits : OrchestrationLimits} {snapshot : TaskClosure} (intended : intent.intentId ≠ "")
    (executed : intent.executionId ≠ "")
    (execution : (repo.heap address).executionId = some intent.executionId)
    (resolved : ((repo.heap address).nodeOfIntent intent.intentId).isSome ∨
      (packageBodyRef env package "program_content_ref").isOk) :
    Prog.Ensures ok (do
      let record ← Op.recordAt address
      match record.nodeOfIntent intent.intentId with
      | some existing =>
          Op.check (existing.answers intent) "node_intent_conflict"
          .ret existing
      | none =>
          Prog.ofExcept (record.checkNodeLimits limits)
          let selected ← Op.admitIntent env address runId snapshot intent limits target
          Op.installNode env address runId intent package limits selected : Op DynamicNode) repo
      fun after _ => repo.KeepsLogs after := by
  have same := Repo.KeepsLogs.of_alike (.refl repo)
  refine Prog.Ensures.bind (?_ : Prog.Ensures ok (Op.recordAt address) repo _)
  change Prog.Ensures ok (match (repo.heap address).nodeOfIntent intent.intentId with
    | some existing => _
    | none => _) repo _
  cases isKnown : (repo.heap address).nodeOfIntent intent.intentId with
  | some existing => exact .bind (Prog.Ensures.guard (fun _ => same) fun _ => same)
  | none =>
      rw [isKnown] at resolved
      have resolved := resolved.resolve_left (by simp)
      refine Prog.Ensures.bind (Prog.Ensures.ofExcept ?_)
      cases (repo.heap address).checkNodeLimits limits with
      | error error => exact same
      | ok value =>
          have reads : Op.Reads
              (Op.admitIntent env address runId snapshot intent limits target) :=
            Op.Reads.bind (Op.Reads.check _ _) fun _ =>
              Op.Reads.bind (Op.Reads.recordAt _) fun _ => Op.reads_qualifyIntent env _ _ _ _ _ _
          refine Prog.Ensures.bind ((reads.ensures repo).mono fun middle result alike => ?_)
          have moved := Repo.KeepsLogs.of_alike alike
          cases result with
          | error error => exact moved
          | ok selected =>
              rw [alike.heap] at execution
              exact (installNode_ensures intended executed execution resolved).mono
                fun after _ keeps => moved.trans keeps

theorem acceptIntent_ensures {repo : Repo} (intended : intent.intentId ≠ "")
    (executed : intent.executionId ≠ "")
    (logs : ∀ record, repo.run? runId = some record →
      record.requested intent.intentId = false ∨ (record.nodeOfIntent intent.intentId).isSome ∨
        repo.resolvesProgram env runId record) :
    (Op.acceptIntent env runId intent target).Ensures ok repo fun after _ =>
      repo.KeepsLogs after := by
  have same := Repo.KeepsLogs.of_alike (.refl repo)
  unfold Op.acceptIntent
  refine .bind (Op.load_ensures (fun address found => ?_) fun _ => same)
  have record : repo.run? runId = some (repo.heap address) :=
    Repo.run?_eq_some.2 ⟨address, found, rfl⟩
  refine Prog.Ensures.bind (?_ : Prog.Ensures ok (Op.recordAt address) repo _)
  refine Prog.Ensures.bind (Prog.Ensures.guard (fun running => ?_) fun _ => same)
  refine Prog.Ensures.bind (Prog.Ensures.guard (fun execution => ?_) fun _ => same)
  refine Prog.Ensures.bind (orchestrationPackage_ensures (fun package limits bound => ?_)
    fun _ => same)
  dsimp only
  refine Prog.Ensures.bind (requestNode_ensures (fun isKnown => ?_)
    (fun resolved event result isLight => ?_) fun _ => same)
  · refine answerIntent_ensures intended executed execution.symm ?_
    rcases logs _ record with isNew | answered | resolved
    · rw [isKnown] at isNew
      cases isNew
    · exact .inl answered
    · unfold Repo.resolvesProgram at resolved
      rw [bound] at resolved
      exact .inr resolved
  · have moved : repo.KeepsLogs (applyAll (writesAt address [.appendEvent event]) repo) := by
      refine .of_updates _ fun agrees => ?_
      change NodeLog.Agrees ⟨replayEvent _ event, _⟩
      rw [NodeLog.replayEvent_light _ isLight]
      exact agrees
    cases result with
    | error error => exact moved
    | ok value =>
        refine (answerIntent_ensures intended executed ?_ (.inr resolved)).mono
          fun after _ keeps => moved.trans keeps
        rw [applyAll_writesAt]
        change (Function.update repo.heap address _ address).executionId = _
        rw [Function.update_self]
        exact execution.symm

theorem accept_logged {before after : Repo} {result : Except Exc Reply}
    (runs : ((Call.acceptNodeIntent runId intent target).prog env).Runs ok before after result)
    (logs : before.logsNodes env (.acceptNodeIntent runId intent target))
    (all : before.All Logged) : after.All Logged := by
  simp only [Repo.logsNodes, Bool.and_eq_true, decide_eq_true_eq] at logs
  obtain ⟨⟨intended, executed⟩, logs⟩ := logs
  have spec : ((Call.acceptNodeIntent runId intent target).prog env).Ensures ok before
      fun after _ => before.KeepsLogs after := by
    refine .map fun _ _ => ?_
    have entered : before.Alike (apply (Write.acquire runId) before) := .minor rfl before
    have body : (Op.acceptIntent env runId intent target).Ensures ok
        (apply (Write.acquire runId) before) fun after _ =>
          (apply (Write.acquire runId) before).KeepsLogs after := by
      refine acceptIntent_ensures intended executed fun record found => ?_
      change before.run? runId = some record at found
      rw [found] at logs
      have checked : record.requested intent.intentId = false ∨
          (record.nodeOfIntent intent.intentId).isSome ∨
            before.resolvesProgram env runId record := by
        simpa [or_assoc] using logs
      exact checked
    exact .finalize (body.mono fun after _ keeps =>
      ((Repo.KeepsLogs.of_alike entered).trans keeps).trans (.of_alike (.minor rfl after)))
  exact (spec.runs runs).all all

end Accept

/-! ### Histories -/

section Histories

variable {env : Env} {ok : (query : Query) → Answer query → Prop}

theorem call_logged {call : Call} {before after : Repo} {result : Except Exc Reply}
    (runs : (call.prog env).Runs ok before after result) (logs : before.logsNodes env call)
    (all : before.All Logged) : after.All Logged := by
  have rule : Rule env ok (LogsNodes env) fun before after => Logged before → Logged after :=
    logs_rule
  have others : call.writesOnce = true → after.All Logged := by
    intro once
    refine rule.call_all (fun _ _ moves => moves) ?_ ⟨once, logs⟩ runs all
    intro args drawn runId record uuids opened
    obtain ⟨contract, draft, createdAt, -, rfl⟩ := opened.isNew
    exact ⟨rfl, .nil⟩
  cases call with
  | acceptNodeIntent runId intent target => exact accept_logged runs logs all
  | recoverStaleRuns owners => exact recover_logged runs logs all
  | _ => exact others rfl

/-- In every history whose calls log what they do to the nodes, the log of each run rebuilds the
nodes of its record, in their order and with all that is stored of them. -/
theorem log_rebuilds_nodes {entries : List (Entry Repo Exc Answer Reply Call)} {repo : Repo}
    (history : Observed env ok entries repo)
    (logs : ∀ entry ∈ entries, entry.before.logsNodes env entry.label) :
    ∀ runId record, repo.run? runId = some record →
      dynamicNodesFromEvents record.events = record.dynamicNodes := by
  have all : repo.All Logged := history.preserves
    (fun entry member => call_logged (history.runs entry member) (logs entry member))
    (Repo.All.empty Logged)
  exact fun runId record found => (all.record runId record found).replayed

end Histories

namespace Demo

/-- The launch of the first node logs what it does. -/
theorem launch_logs : ∀ entry ∈ launch, entry.before.logsNodes env entry.label := by
  intro entry member
  rcases List.mem_append.1 member with member | member
  · obtain ⟨call, isCall, same, -⟩ := mem_play _ _ entry member
    obtain ⟨label, isLabel, rfl⟩ := List.mem_map.1 isCall
    rw [same]
    simp only [orchestrated, List.mem_cons, List.not_mem_nil, or_false] at isLabel
    rcases isLabel with rfl | rfl | rfl | rfl <;> rfl
  · have played : (play (Call.prog env) (usually dispatched) ready).1.all
        (fun entry => entry.before.logsNodes env entry.label) = true := by decide +kernel
    exact List.all_eq_true.1 played entry member

end Demo

/-- A node that was accepted and dispatched is rebuilt from the log. -/
theorem log_rebuilds_nodes_dispatched :
    Demo.launchedRecord.dynamicNodes.map DynamicNode.state = [.dispatched] ∧
      dynamicNodesFromEvents Demo.launchedRecord.events = Demo.launchedRecord.dynamicNodes :=
  ⟨rfl, log_rebuilds_nodes Demo.observed_launched Demo.launch_logs "run" _ rfl⟩

/-- Recovery puts a dispatched node back to accepted, and the log still says dispatched. -/
theorem recovery_parts_log_and_nodes :
    ∃ entries repo record, Observed Demo.env (fun _ _ => True) entries repo ∧
      repo.run? "run" = some record ∧
      record.dynamicNodes.map DynamicNode.state = [.accepted] ∧
      (dynamicNodesFromEvents record.events).map DynamicNode.state = [.dispatched] ∧
      dynamicNodesFromEvents record.events ≠ record.dynamicNodes := by
  obtain ⟨reply, runs⟩ := Demo.recovery_runs (by decide +kernel :
    (Demo.recovery Demo.launched).2.toBool = true)
  obtain ⟨-, recovered⟩ := recovery_effect (Demo.observed_launched).numbered
    (fun runIds impossible => by cases impossible) runs
  have found := (recovered "run" Demo.launchedRecord rfl).2 fun runIds impossible => by
    cases impossible
  have replayed : Demo.launched.recovered [] Demo.launchedRecord =
    Demo.launchedRecord.replayed := by
    unfold Repo.recovered
    rw [if_neg (by decide +kernel), if_pos (by decide +kernel)]
  rw [replayed] at found
  have rebuilt : (dynamicNodesFromEvents Demo.launchedRecord.replayed.events).map
      DynamicNode.state = [.dispatched] := by decide +kernel
  refine ⟨_, _, _, Demo.observed_goOn (Demo.usually [.recoverStaleRuns []]), found, rfl, rebuilt,
    fun same => ?_⟩
  rw [same] at rebuilt
  cases rebuilt

end Loom
