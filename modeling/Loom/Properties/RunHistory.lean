import Loom.Observer.Boards
import Loom.Observer.Capabilities
import Loom.Observer.Execution
import Loom.Observer.Recovery

/-!
# The audit trail of a run

Every update of a record extends what was recorded before: the log grows at its end, attempts and
nodes are only added.  The operations on packages and activations make such updates alone, and
`reassign_dynamic_node` installs an extension of the record that it copied.  Only `open_run` can
install a record that does not extend the one in its place.
-/

namespace Loom

open Coroutine

/-- What was recorded of a run is still there. -/
structure RunRecord.Extends (record record' : RunRecord) : Prop where
  runId : record'.runId = record.runId
  taskRef : record'.taskRef = record.taskRef
  goal : record'.goal = record.goal
  events : record.events <+: record'.events
  attempts : record.attempts.map Attempt.attemptId <+: record'.attempts.map Attempt.attemptId
  nodes : record.dynamicNodes.map DynamicNode.nodeId <+: record'.dynamicNodes.map DynamicNode.nodeId

namespace RunRecord.Extends

theorem refl (record : RunRecord) : record.Extends record :=
  ⟨rfl, rfl, rfl, List.prefix_rfl, List.prefix_rfl, List.prefix_rfl⟩

theorem trans {first second third : RunRecord} (earlier : first.Extends second)
    (later : second.Extends third) : first.Extends third :=
  ⟨later.runId.trans earlier.runId, later.taskRef.trans earlier.taskRef,
    later.goal.trans earlier.goal, earlier.events.trans later.events,
    earlier.attempts.trans later.attempts, earlier.nodes.trans later.nodes⟩

end RunRecord.Extends

/-! ### Updates extend a record -/

theorem Board.nodeIds_after (board : Board) (update : RecordWrite) :
    board.nodes.map DynamicNode.nodeId <+: (board.after update).nodes.map DynamicNode.nodeId := by
  cases update with
  | appendNode node =>
      change _ <+: (board.nodes ++ [node]).map DynamicNode.nodeId
      rw [List.map_append]
      exact List.prefix_append _ _
  | setNodeState index state =>
      have same : (board.nodes.modify index fun node => { node with state }).map
          DynamicNode.nodeId = board.nodes.map DynamicNode.nodeId := by
        refine List.ext_getElem? fun position => ?_
        rw [List.getElem?_map, List.getElem?_map, List.getElem?_modify]
        cases board.nodes[position]? with
        | none => rfl
        | some node =>
            change some _ = some _
            congr 1
            split
            · rfl
            · rfl
      exact ⟨[], (List.append_nil _).trans same.symm⟩
  | releaseNodes =>
      have same : (board.nodes.map DynamicNode.release).map DynamicNode.nodeId =
          board.nodes.map DynamicNode.nodeId := by
        rw [List.map_map]
        congr 1
        funext node
        change (if _ then _ else _ : DynamicNode).nodeId = node.nodeId
        split
        · rfl
        · rfl
      exact ⟨[], (List.append_nil _).trans same.symm⟩
  | _ => exact List.prefix_rfl

theorem extends_apply (update : RecordWrite) (record : RunRecord) :
    record.Extends (apply update record) := by
  have board := Board.board_apply update record
  have attempts : record.board.attemptIds <+: (apply update record).board.attemptIds := by
    rw [board, Board.attemptIds_after]
    exact List.prefix_append _ _
  have nodes := Board.nodeIds_after record.board update
  rw [← board] at nodes
  cases update with
  | transition event reason =>
      have moved : record.events <+: (RecordWrite.apply (.transition event reason) record).events ∧
          (RecordWrite.apply (.transition event reason) record).runId = record.runId ∧
          (RecordWrite.apply (.transition event reason) record).taskRef = record.taskRef ∧
          (RecordWrite.apply (.transition event reason) record).goal = record.goal := by
        unfold RecordWrite.apply
        dsimp only
        split
        · exact ⟨List.prefix_append _ _, rfl, rfl, rfl⟩
        · exact ⟨List.prefix_rfl, rfl, rfl, rfl⟩
      exact ⟨moved.2.1, moved.2.2.1, moved.2.2.2, moved.1, attempts, nodes⟩
  | appendEvent event => exact ⟨rfl, rfl, rfl, List.prefix_append _ _, attempts, nodes⟩
  | _ => exact ⟨rfl, rfl, rfl, List.prefix_rfl, attempts, nodes⟩

theorem extends_applyAll (updates : List RecordWrite) (record : RunRecord) :
    record.Extends (applyAll updates record) := by
  induction updates generalizing record with
  | nil => exact .refl record
  | cons update updates ih =>
      rw [applyAll_cons]
      exact (extends_apply update record).trans (ih (apply update record))

/-! ### Operations on runs -/

/-- `after` has the records of `before`, and more of them. -/
def Repo.Extends (before after : Repo) : Prop :=
  ∀ runId record, before.run? runId = some record →
    ∃ record', after.run? runId = some record' ∧ record.Extends record'

section Calls

variable {env : Env} {ok : (query : Query) → Answer query → Prop}

theorem extends_rule :
    Rule env ok (fun _ _ => True) fun before after => before.record.Extends after.record where
  still {before after} _ still := by
    obtain ⟨events, packages, -, same⟩ := still.same
    rw [same]
    exact { RunRecord.Extends.refl before.record with events := List.prefix_append _ _ }
  trans earlier later := earlier.trans later
  change {_ site updates _} _ _ _ _ := extends_applyAll updates site.record
  reassign {site _} move _ := extends_applyAll move.updates site.record
  draft {_ _ draft record} _ _ _ _ := extends_applyAll draft record

theorem call_extends {call : Call} {before after : Repo} {result : Except Exc Reply}
    (allocated : before.Allocated) (runs : (call.prog env).Runs ok before after result)
    (notOpen : ∀ args, call ≠ .openRun args) : before.Extends after := by
  have rule : Rule env ok (fun _ _ => True) fun before after =>
    before.record.Extends after.record := extends_rule
  have fresh : before.isFresh env call = true := by
    cases call with
    | openRun args => exact absurd rfl (notOpen args)
    | _ => rfl
  intro runId record installed
  exact rule.follows allocated trivial fresh runs installed

end Calls

/-! ### Operations on packages and activations -/

/-- The write updates a record or touches none. -/
def Write.isInPlace : Write → Bool
  | .record _ _ => true
  | write => write.isMinor

/-- The program updates records but installs none. -/
abbrev Op.InPlace {α : Type} (program : Op α) : Prop :=
  program.Only (fun write => write.isInPlace) (fun _ => True)

namespace Op

section InPlace

variable {α β : Type}

theorem InPlace.ret (value : α) : InPlace (.ret value) := trivial

theorem InPlace.raise (error : Exc) : InPlace (.raise error : Op α) := trivial

theorem InPlace.bind {program : Op α} {rest : α → Op β} (first : InPlace program)
    (second : ∀ value, InPlace (rest value)) : InPlace (program >>= rest) :=
  Prog.Only.bind first second

theorem InPlace.check (condition : Prop) [Decidable condition] (text : String) :
    InPlace (check condition text) :=
  Prog.Only.guard condition _

theorem InPlace.ofExcept (outcome : Except Exc α) : InPlace (Prog.ofExcept outcome) :=
  Prog.Only.ofExcept outcome

theorem InPlace.modify (address : Nat) (update : RecordWrite) : InPlace (modify address update) :=
  ⟨rfl, trivial⟩

theorem InPlace.persist (address : Nat) : InPlace (persist address) :=
  fun _ => ⟨trivial, fun answer => Prog.Only.ofExcept answer⟩

theorem InPlace.withCapabilityLock {lock : CapabilityLock} {body : Op α} (inPlace : InPlace body) :
    InPlace (withCapabilityLock lock body) :=
  ⟨trivial, fun _ => ⟨rfl, Prog.Only.finalize inPlace rfl⟩⟩

theorem InPlace.of_reads {program : Op α} (reads : Reads program) : InPlace program := by
  refine Prog.Only.mono reads (fun write isMinor => ?_) fun _ _ => trivial
  cases write with
  | record address update => rfl
  | _ => exact isMinor

end InPlace

theorem inPlace_allRecords : InPlace allRecords := by
  refine ⟨trivial, fun answer => ?_⟩
  rcases answer with error | _ | runIds
  · trivial
  · exact fun _ => trivial
  · exact fun _ => trivial

theorem inPlace_locate (ref : ResourceRef) (runId : Option String) :
    InPlace (locateCapabilityPackage ref runId) := by
  refine (inPlace_allRecords).bind fun _ => InPlace.bind (fun _ => trivial) fun repo => ?_
  split
  · trivial
  · trivial

theorem inPlace_activationRecord (package : CapabilityPackageVersion) :
    InPlace (activationRecord package) := by
  refine (inPlace_allRecords).bind fun _ => InPlace.bind (fun _ => trivial) fun repo => ?_
  split
  · trivial
  · trivial

theorem inPlace_abandon (packageRef : String) (key : Option String) :
    InPlace (abandonCapabilityPackage packageRef key) := by
  refine (inPlace_locate _ _).bind fun place => ?_
  split
  · trivial
  · refine (InPlace.modify _ _).bind fun _ => InPlace.bind (fun _ => trivial) fun found => ?_
    split
    · exact fun _ => trivial
    · exact (InPlace.modify _ _).bind fun _ => (InPlace.persist _).bind fun _ => fun _ => trivial

theorem inPlace_storeReusable (address : Nat) (candidate reusable : CapabilityPackageVersion)
    (key : Option String) : InPlace (storeReusable address candidate reusable key) := by
  refine (inPlace_allRecords).bind fun _ => InPlace.bind (fun _ => trivial) fun found => ?_
  split
  · exact (InPlace.check _ _).bind fun _ => trivial
  · exact (InPlace.modify _ _).bind fun _ => (InPlace.modify _ _).bind fun _ =>
      (InPlace.persist _).bind fun _ => trivial

theorem inPlace_promoteCandidate (env : Env) (ref : ResourceRef)
    (candidate : CapabilityPackageVersion) (key approved : Option String) :
    InPlace (promoteCandidate env ref candidate key approved) := by
  refine (InPlace.check _ _).bind fun _ => (InPlace.check _ _).bind fun _ => ?_
  split
  · trivial
  · refine (InPlace.of_reads (reads_validatePackageExports env _)).bind fun _ =>
      InPlace.bind (fun _ => trivial) fun found => ?_
    split
    · trivial
    · exact InPlace.bind (fun _ => trivial) fun _ => (InPlace.check _ _).bind fun _ =>
        (InPlace.ofExcept _).bind fun _ => inPlace_storeReusable _ _ _ _

theorem inPlace_promote (env : Env) (ref : ResourceRef) (key approved : Option String) :
    InPlace (promoteCapabilityPackage env ref key approved) := by
  refine InPlace.withCapabilityLock ((inPlace_locate _ _).bind fun place => ?_)
  split
  · trivial
  · refine (inPlace_allRecords).bind fun _ => InPlace.bind (fun _ => trivial) fun found => ?_
    split
    · trivial
    · exact InPlace.bind (fun _ => trivial) fun _ => inPlace_promoteCandidate env ref _ _ _

theorem inPlace_changeDesired (args : DesiredArgs) (package : CapabilityPackageVersion)
    (desired : DesiredState) : InPlace (changeDesired args package desired) := by
  refine (inPlace_activationRecord _).bind fun address => InPlace.bind (fun _ => trivial) fun _ =>
    (InPlace.check _ _).bind fun _ => ?_
  dsimp only
  have change : ∀ activation : CapabilityPackageActivation, InPlace (do
      modify address (.putActivation activation)
      appendEvent address (.capabilityDesiredStateChanged package.versionRef package.packageDigest
        args.targetSlave desired activation.activationRevision args.idempotencyKey)
      persist address
      projectReadyCapabilities args.targetSlave
      .ret activation) := by
    intro activation
    exact (InPlace.modify _ _).bind fun _ => (InPlace.modify _ _).bind fun _ =>
      (InPlace.persist _).bind fun _ => InPlace.bind (fun _ => ⟨rfl, trivial⟩) fun _ => trivial
  split
  · exact change _
  · split
    · exact (InPlace.check _ _).bind fun _ => trivial
    · split
      · trivial
      · exact change _

theorem inPlace_setDesired (args : DesiredArgs) : InPlace (setCapabilityDesired args) := by
  unfold setCapabilityDesired
  split
  · trivial
  · exact (InPlace.check _ _).bind fun _ => (InPlace.check _ _).bind fun _ =>
      (inPlace_locate _ _).bind fun _ => (InPlace.check _ _).bind fun _ =>
      (inPlace_activationRecord _).bind fun _ => InPlace.bind (fun _ => trivial) fun _ =>
      (InPlace.check _ _).bind fun _ => .withCapabilityLock (inPlace_changeDesired _ _ _)

theorem inPlace_recordHealth (env : Env) (address : Nat) (package : CapabilityPackageVersion)
    (report : CapabilityHealthReport) (current : CapabilityPackageActivation) :
    InPlace (recordHealth env address package report current) := by
  refine InPlace.bind (fun _ => trivial) fun _ => ?_
  dsimp only
  split
  · exact (InPlace.check _ _).bind fun _ => trivial
  · refine (InPlace.check _ _).bind fun _ => (InPlace.ofExcept _).bind fun changed => ?_
    have log : ∀ activation : CapabilityPackageActivation, InPlace (do
        appendEvent address (.capabilityHealthReport report package.versionRef
          package.packageDigest activation.desiredState)
        persist address
        projectReadyCapabilities report.targetSlave
        .ret activation) := by
      intro activation
      exact (InPlace.modify _ _).bind fun _ => (InPlace.persist _).bind fun _ =>
        InPlace.bind (fun _ => ⟨rfl, trivial⟩) fun _ => trivial
    cases changed with
    | none => exact log _
    | some activation => exact (InPlace.modify _ _).bind fun _ => log _

theorem inPlace_recordCapabilityHealth (env : Env) (report : CapabilityHealthReport)
    (runId : Option String) : InPlace (recordCapabilityHealth env report runId) := by
  refine (inPlace_locate _ _).bind fun _ => (inPlace_activationRecord _).bind fun _ =>
    InPlace.bind (fun _ => trivial) fun _ => InPlace.withCapabilityLock ?_
  refine (inPlace_locate _ _).bind fun _ => (InPlace.check _ _).bind fun _ =>
    (inPlace_activationRecord _).bind fun _ => InPlace.bind (fun _ => trivial) fun _ => ?_
  split
  · trivial
  · exact (InPlace.check _ _).bind fun _ => (InPlace.check _ _).bind fun _ =>
      inPlace_recordHealth env _ _ _ _

end Op

theorem CapabilityCall.inPlace (env : Env) (call : CapabilityCall) :
    Op.InPlace (call.prog env) := by
  cases call with
  | abandon packageRef key =>
      exact Prog.Only.bind (Op.inPlace_abandon packageRef key) fun _ => trivial
  | promote packageRef key approved =>
      exact Prog.Only.bind (Op.inPlace_promote env packageRef key approved) fun _ => trivial
  | setDesired args => exact Prog.Only.bind (Op.inPlace_setDesired args) fun _ => trivial
  | recordHealth report runId =>
      exact Prog.Only.bind (Op.inPlace_recordCapabilityHealth env report runId) fun _ => trivial

section Capabilities

variable {env : Env} {ok : (query : Query) → Answer query → Prop} {before after : Repo}

theorem inPlace_extends {write : Write} (inPlace : write.isInPlace) (repo : Repo) :
    (apply write repo).runs = repo.runs ∧ (apply write repo).next = repo.next ∧
      ∀ address, (repo.heap address).Extends ((apply write repo).heap address) := by
  cases write with
  | record target update =>
      refine ⟨rfl, rfl, fun address => ?_⟩
      change RunRecord.Extends _ (Function.update repo.heap target _ address)
      by_cases isTarget : address = target
      · subst isTarget
        rw [Function.update_self]
        exact extends_apply update _
      · rw [Function.update_of_ne isTarget]
        exact .refl _
  | alloc record => cases inPlace
  | install runId address => cases inPlace
  | storeReceipt operationId receipt => cases inPlace
  | _ => exact ⟨rfl, rfl, fun _ => .refl _⟩

theorem capability_extends {call : CapabilityCall} {result : Except Exc CapabilityReply}
    (runs : (call.prog env).Runs ok before after result) :
    before.Extends after ∧ (before.Allocated → after.Allocated) := by
  have kept := Prog.Only.preserves (call.inPlace env)
    (fun repo => repo.runs = before.runs ∧ repo.next = before.next ∧
      ∀ address, (before.heap address).Extends (repo.heap address))
    (fun write repo isInPlace held => by
      obtain ⟨sameRuns, sameNext, more⟩ := inPlace_extends isInPlace repo
      exact ⟨sameRuns.trans held.1, sameNext.trans held.2.1,
        fun address => (held.2.2 address).trans (more address)⟩)
    runs ⟨rfl, rfl, fun _ => .refl _⟩
  obtain ⟨sameRuns, sameNext, heap⟩ := kept
  have sameAddress : ∀ runId, after.address? runId = before.address? runId := by
    intro runId
    unfold Repo.address?
    rw [sameRuns]
  refine ⟨fun runId record installed => ?_, fun allocated runId address found => ?_⟩
  · obtain ⟨address, isAddress, rfl⟩ := Repo.run?_eq_some.1 installed
    exact ⟨after.heap address,
      Repo.run?_eq_some.2 ⟨address, (sameAddress runId).trans isAddress, rfl⟩, heap address⟩
  · rw [sameAddress] at found
    rw [sameNext]
    exact allocated runId address found

end Capabilities

/-! ### Opening a run -/

/-- `open_run` gets as far as storing its record. -/
def OpenArgs.isValid (args : OpenArgs) (env : Env) : Bool :=
  match args.contract with
  | .ok contract => (env.closureDigest contract.body).toBool
  | .error _ => false

/-- The time that `open_run` notes when so many uuids are drawn before: it draws one for the draft,
and one more for the run where it is given no id. -/
def OpenArgs.createdAt (args : OpenArgs) (env : Env) (uuids : Nat) : String :=
  match args.runId with
  | some runId => if runId = "" then env.now (uuids + 2) else env.now (uuids + 1)
  | none => env.now (uuids + 2)

/-- The record of a run in which nothing has happened but an opening like this one, at the very time
of this one. -/
def OpenArgs.hasOpened (args : OpenArgs) (runId createdAt : String) (record : RunRecord) : Prop :=
  record.runId = runId ∧ record.taskRef = args.taskRef ∧ record.goal = args.goal ∧
    record.events <+: [.runOpened runId createdAt] ∧ record.attempts = [] ∧
      record.dynamicNodes = []

/-- The operation opens no run in the place of one that has a history. -/
def Repo.Spares (repo : Repo) (env : Env) : Operation → Prop
  | .call (.openRun args) => args.isValid env = true →
      ∀ record, repo.run? (args.newRunId env repo.uuids) = some record →
        args.hasOpened (args.newRunId env repo.uuids) (args.createdAt env repo.uuids) record
  | _ => True

theorem OpenArgs.extends_newRecord {args : OpenArgs} {runId : String} {record : RunRecord}
    {contract : ClosureContract} {draft : ClosureVersion} {createdAt : String} :
    record.Extends (args.newRecord runId contract draft createdAt) ↔
      args.hasOpened runId createdAt record := by
  constructor
  · intro more
    refine ⟨more.runId.symm, more.taskRef.symm, more.goal.symm, more.events, ?_, ?_⟩
    · exact List.map_eq_nil_iff.1 (List.prefix_nil.1 more.attempts)
    · exact List.map_eq_nil_iff.1 (List.prefix_nil.1 more.nodes)
  · rintro ⟨runId, taskRef, goal, events, attempts, nodes⟩
    refine ⟨runId.symm, taskRef.symm, goal.symm, events, ?_, ?_⟩
    · rw [attempts]
      exact List.nil_prefix
    · rw [nodes]
      exact List.nil_prefix

section Opening

variable {env : Env} {ok : (query : Query) → Answer query → Prop} {args : OpenArgs}

/-- The runs after `open_run`. -/
def OpenArgs.Opened (args : OpenArgs) (env : Env) (before after : Repo) : Prop :=
  if args.isValid env = true then
    ∃ contract draft, ∀ runId, after.run? runId =
      if runId = args.newRunId env before.uuids then
        some (args.newRecord (args.newRunId env before.uuids) contract draft
          (args.createdAt env before.uuids))
      else before.run? runId
  else ∀ runId, after.run? runId = before.run? runId

/-- The record that `open_run` has just installed, and the others. -/
theorem run?_installed {before repo : Repo} {runId : String} {record : RunRecord}
    (allocated : before.Allocated) (alike : before.Alike repo) (run : String) :
    (apply (Write.install runId repo.next)
      (apply (Write.alloc record) (apply Write.takeUuid repo))).run? run =
        if run = runId then some record else before.run? run := by
  have address : (apply (Write.install runId repo.next)
      (apply (Write.alloc record) (apply Write.takeUuid repo))).address? run =
        if run = runId then some repo.next else before.address? run := by
    change (assign repo.runs runId repo.next).lookup run = _
    rw [lookup_assign, ← alike.runs]
    rfl
  unfold Repo.run?
  rw [address]
  split
  · change some (Function.update repo.heap repo.next record repo.next) = _
    rw [Function.update_self]
  · change Option.map (Function.update repo.heap repo.next record) _ = _
    cases found : before.address? run with
    | none => rfl
    | some at' =>
        have early := allocated run at' found
        change some (Function.update repo.heap repo.next record at') = some (before.heap at')
        rw [← alike.next, ← alike.heap, Function.update_of_ne early.ne]

/-- `open_run` once the id of the run is known. -/
theorem install_ensures {before repo : Repo} {runId : String} (allocated : before.Allocated)
    (alike : before.Alike repo) (named : runId = args.newRunId env before.uuids)
    (timed : env.now (repo.uuids + 1) = args.createdAt env before.uuids) :
    Prog.Ensures ok (do
      let contract ← Prog.ofExcept args.contract
      let versionId ← Op.uuid env
      let digest ← Prog.ofExcept (env.closureDigest contract.body)
      let createdAt ← Op.now env
      let address ← Op.alloc (args.newRecord runId contract
        { versionId := "draft-" ++ versionId, closureId := contract.closureId
          snapshot := contract.body, snapshotDigest := digest } createdAt)
      Prog.tell (.install runId address)
      Op.persist address
      .ret address : Op Nat) repo fun after _ => args.Opened env before after := by
  have unchanged : ∀ other : Repo, before.Alike other → ∀ run, other.run? run =
    before.run? run := by
    intro other same run
    unfold Repo.run? Repo.address?
    rw [same.heap, same.runs]
  refine .bind (Prog.Ensures.ofExcept ?_)
  cases isContract : args.contract with
  | error error =>
      have invalid : args.isValid env ≠ true := by
        simp [OpenArgs.isValid, isContract]
      dsimp only
      unfold OpenArgs.Opened
      rw [if_neg invalid]
      exact unchanged repo alike
  | ok contract =>
      refine .bind (?_ : Prog.Ensures ok (Op.uuid env) repo _)
      refine Prog.Ensures.bind (Prog.Ensures.ofExcept ?_)
      cases isDigest : env.closureDigest contract.body with
      | error error =>
          have invalid : args.isValid env ≠ true := by
            simp [OpenArgs.isValid, isContract, isDigest, Except.toBool]
          dsimp only
          unfold OpenArgs.Opened
          rw [if_neg invalid]
          exact unchanged _ (alike.trans (.minor rfl repo))
      | ok digest =>
          have valid : args.isValid env = true := by
            simp [OpenArgs.isValid, isContract, isDigest, Except.toBool]
          dsimp only
          generalize ({ versionId := _, closureId := _, snapshot := _, snapshotDigest := _ } :
            ClosureVersion) = draft
          refine Prog.Ensures.bind (?_ : Prog.Ensures ok (Op.now env) _ _)
          change Prog.Ensures ok (Prog.bind (Op.alloc (args.newRecord runId contract draft
            (env.now (repo.uuids + 1)))) _) _ _
          rw [timed]
          refine Prog.Ensures.bind (?_ : Prog.Ensures ok (Op.alloc _) _ _)
          refine Prog.Ensures.bind (?_ : Prog.Ensures ok (Prog.tell _) _ _)
          have opened : args.Opened env before (apply (Write.install runId repo.next)
              (apply (Write.alloc (args.newRecord runId contract draft
                (args.createdAt env before.uuids))) (apply Write.takeUuid repo))) := by
            unfold OpenArgs.Opened
            rw [if_pos valid, ← named]
            exact ⟨contract, draft, fun run => run?_installed allocated alike run⟩
          exact .bind (Op.persist_ensures opened fun _ => opened)

theorem openRun_opened {before after : Repo} {result : Except Exc Reply}
    (allocated : before.Allocated)
    (runs : ((Call.openRun args).prog env).Runs ok before after result) :
    args.Opened env before after := by
  have spec : ((Call.openRun args).prog env).Ensures ok before fun after _ =>
      args.Opened env before after := by
    refine .map ?_
    unfold Op.openRun
    cases given : args.runId with
    | none =>
        refine Prog.Ensures.bind (?_ : Prog.Ensures ok (Prog.bind (Op.uuid env) _) before _)
        refine install_ensures allocated (.minor rfl before) ?_ ?_
        · simp [OpenArgs.newRunId, given]
        · simp [OpenArgs.createdAt, given, apply]
    | some runId =>
        dsimp only
        split
        · rename_i empty
          refine Prog.Ensures.bind (?_ : Prog.Ensures ok (Prog.bind (Op.uuid env) _) before _)
          refine install_ensures allocated (.minor rfl before) ?_ ?_
          · simp [OpenArgs.newRunId, given, empty]
          · simp [OpenArgs.createdAt, given, empty, apply]
        · rename_i nonempty
          refine install_ensures allocated (.refl before) ?_ ?_
          · simp [OpenArgs.newRunId, given, nonempty]
          · simp [OpenArgs.createdAt, given, nonempty]
  exact spec.runs runs

/-- `open_run` keeps the history of every run exactly where it opens no run in the place of
one that has a history. -/
theorem openRun_extends {before after : Repo} {result : Except Exc Reply}
    (allocated : before.Allocated)
    (runs : ((Call.openRun args).prog env).Runs ok before after result) :
    before.Extends after ↔ before.Spares env (.call (.openRun args)) := by
  have opened := openRun_opened allocated runs
  unfold OpenArgs.Opened at opened
  split at opened
  · rename_i valid
    obtain ⟨contract, draft, installed⟩ := opened
    constructor
    · intro keeps _ record found
      obtain ⟨record', found', more⟩ := keeps _ record found
      rw [installed, if_pos rfl] at found'
      cases found'
      exact OpenArgs.extends_newRecord.1 more
    · intro spares runId record found
      by_cases isNew : runId = args.newRunId env before.uuids
      · subst isNew
        refine ⟨_, (installed _).trans (if_pos rfl), ?_⟩
        exact OpenArgs.extends_newRecord.2 (spares valid record found)
      · exact ⟨record, ((installed runId).trans (if_neg isNew)).trans found, .refl record⟩
  · rename_i invalid
    constructor
    · exact fun _ valid => absurd valid invalid
    · exact fun _ runId record found => ⟨record, (opened runId).trans found, .refl record⟩

end Opening

/-! ### Histories of operations -/

section Histories

variable {env : Env} {ok : (query : Query) → Answer query → Prop}

theorem operation_extends {operation : Operation} {before after : Repo}
    {result : Except Exc (Reply ⊕ CapabilityReply)} (allocated : before.Allocated)
    (runs : (operation.prog env).Runs ok before after result) :
    after.Allocated ∧ (before.Extends after ↔ before.Spares env operation) := by
  cases operation with
  | call call =>
      obtain ⟨reply, ran, -⟩ := runs.of_map
      have rule : Rule env ok (fun _ _ => True) fun before after =>
        before.record.Extends after.record := extends_rule
      refine ⟨(rule.relates allocated trivial ran).1, ?_⟩
      by_cases isOpen : ∃ args, call = .openRun args
      · obtain ⟨args, rfl⟩ := isOpen
        exact openRun_extends allocated ran
      · have notOpen : ∀ args, call ≠ .openRun args := fun args same => isOpen ⟨args, same⟩
        have spares : before.Spares env (.call call) := by
          cases call with
          | openRun args => exact absurd rfl (notOpen args)
          | _ => trivial
        exact iff_of_true (call_extends allocated ran notOpen) spares
  | capability call =>
      obtain ⟨reply, ran, -⟩ := runs.of_map
      obtain ⟨more, allocated'⟩ := capability_extends ran
      exact ⟨allocated' allocated, iff_of_true more trivial⟩

/-- An operation in a reachable repository keeps every run with its id, task and goal, its log,
its attempts and its nodes, exactly where it is no valid `open_run` under the id of a run, or one
that writes again what an earlier opening has left at the same time. -/
theorem run_history_append_only
    {entries : List (Entry Repo Exc Answer (Reply ⊕ CapabilityReply) Operation)} {repo : Repo}
    (history : History (Operation.prog env) ok Repo.empty entries repo) :
    ∀ entry ∈ entries,
      (entry.before.Extends entry.after ↔ entry.before.Spares env entry.label) := by
  have allocated := history.preserves_at
    (fun entry member held => (operation_extends held (history.runs entry member)).1)
    (fun _ _ found => (by cases found) : Repo.empty.Allocated)
  exact fun entry member =>
    (operation_extends (allocated entry member) (history.runs entry member)).2

end Histories

namespace Demo

/-- A run is opened, gets a message, and is opened again under its id. -/
def reopened : List (Operation × World) :=
  [(.call (opens 1), usual), (.call (.appendMessage "run" "user" "hello" none), usual),
    (.call (opens 1), usual)]

/-- The repository before and after the second opening. -/
def reopening : Repo × Repo :=
  let before := (play (Operation.prog env) (reopened.take 2) Repo.empty).2
  (before, ((Operation.call (opens 1)).prog env).run usual before |>.1)

theorem reopened_history :
    History (Operation.prog env) (fun _ _ => True) Repo.empty
      (play (Operation.prog env) reopened Repo.empty).1
      (play (Operation.prog env) reopened Repo.empty).2 :=
  History.of_play reopened (fun _ _ _ => trivial) Repo.empty

end Demo

/-- The message keeps the log of the opened run: the run is extended. -/
theorem run_history_append_only_message :
    ∃ entry ∈ (play (Operation.prog Demo.env) Demo.reopened Repo.empty).1,
      entry.label = .call (.appendMessage "run" "user" "hello" none) ∧
        entry.before.Extends entry.after := by
  have kept := run_history_append_only Demo.reopened_history
  refine ⟨_, List.mem_cons_of_mem _ List.mem_cons_self, rfl, ?_⟩
  exact (kept _ (List.mem_cons_of_mem _ List.mem_cons_self)).2 trivial

/-- Opening a run again removes its message from the log. -/
theorem reopened_run_loses_message :
    ∃ entries repo, History (Operation.prog Demo.env) (fun _ _ => True) Repo.empty entries repo ∧
      ∃ entry ∈ entries, ¬entry.before.Extends entry.after := by
  refine ⟨_, _, Demo.reopened_history, _, List.mem_cons_of_mem _ (List.mem_cons_of_mem _
    List.mem_cons_self), fun keeps => ?_⟩
  have before : (Demo.reopening.1.run? "run").map (fun record => record.events.length) =
      some 2 := by decide +kernel
  have after : (Demo.reopening.2.run? "run").map (fun record => record.events.length) =
      some 1 := by decide +kernel
  obtain ⟨record, found, two⟩ := Option.map_eq_some_iff.1 before
  obtain ⟨record', found', more⟩ := keeps "run" record found
  rw [show Demo.reopening.2.run? "run" = some record' from found'] at after
  have one : record'.events.length = 1 := Option.some.inj after
  have longer := more.events.length_le
  omega

end Loom
