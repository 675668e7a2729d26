import Loom.Observer.Result

/-!
# Dynamic nodes

The operations on the nodes of an orchestrated run: accepting an intent, dispatching a node,
reassigning it, recording its result and failing it.  Accepting and reassigning hold the
run's intent lock; the other three do not.
-/

namespace Loom

open Coroutine

/-- A required text of an agent. -/
def requiredText (agent : Dict) (field : String) : Except Exc String :=
  match agent.lookup field with
  | some (.str text) => .ok text
  | some _ => .error (.typeError field)
  | none => .error (.keyError field)

/-- `int(agent["epoch"])`. -/
def requiredEpoch (agent : Dict) : Except Exc Int := bodyInt agent "epoch"

/-- `int(value or 0)`. -/
def intOrZero (value : Json) : Except Exc Int :=
  match (value.orElse (.int 0)).toInt? with
  | some number => .ok number
  | none => .error (.valueError "invalid literal for int()")

/-- The data locality that the compute requirements ask for. -/
def TaskClosure.locality (snapshot : TaskClosure) : Option Json :=
  match (snapshot.compute.requirements.find? fun requirement =>
      requirement.key = "loom.data.locality.v1") with
  | some requirement => if requirement.value = .null then none else some requirement.value
  | none => none

/-- The locality requirement, where there is one, is met by a target. -/
def localityAllows (env : Env) (view : SlaveView) (snapshot : TaskClosure) (target : String) :
    Bool :=
  match snapshot.locality with
  | some value => view.canonicalTarget (env.str value) = target
  | none => true

/-- The permissions of an export are allowed effects of the contract. -/
def RunRecord.permits (record : RunRecord) (exported : CapabilityExport) : Bool :=
  match record.closureContract with
  | some contract => exported.permissions.all fun item => contract.allowedEffects.contains item
  | none => true

/-- The nodes that count against `max_live_nodes`. -/
def RunRecord.liveNodes (record : RunRecord) : List DynamicNode :=
  record.dynamicNodes.filter fun node => node.state.isTerminal = false

/-- The two node limits. -/
def RunRecord.checkNodeLimits (record : RunRecord) (limits : OrchestrationLimits) :
    Except Exc Unit :=
  if (record.dynamicNodes.length : Int) ≥ limits.maxNodes then
    .error (.valueError "orchestration_node_limit_exceeded")
  else if (record.liveNodes.length : Int) ≥ limits.maxLiveNodes then
    .error (.valueError "orchestration_live_node_limit_exceeded")
  else .ok ()

/-- `same_ref` of `_accept_node_intent`. -/
def sameExactRef (left right : ResourceRef) : Bool :=
  left.resourceId = right.resourceId ∧
    lower (left.digest.getD "") = lower (right.digest.getD "")

/-- The digests of the content refs that a JSON value contains, `_collect_content_ref_digests`. -/
def collectContentRefDigests (env : Env) : Json → List String
  | .obj entries =>
      (if Dict.has entries "resource_id" then
        match env.resourceRef (.obj entries) with
        | .ok ref =>
            match requireContentRef ref with
            | .ok () => [lower (ref.digest.getD "")]
            | .error _ => []
        | .error _ => []
      else []) ++ ofEntries entries
  | .arr items => ofItems items
  | _ => []
where
  ofItems : List Json → List String
    | [] => []
    | item :: rest => collectContentRefDigests env item ++ ofItems rest
  ofEntries : List (String × Json) → List String
    | [] => []
    | (_, item) :: rest => collectContentRefDigests env item ++ ofEntries rest

/-- The result digests of completed attempts. -/
def RunRecord.completedResultDigests (record : RunRecord) : List String :=
  record.attempts.filterMap fun attempt =>
    if attempt.state = .completed then
      match attempt.resultRef with
      | some ref =>
          match requireContentRef ref with
          | .ok () => some (lower (ref.digest.getD ""))
          | .error _ => none
      | none => none
    else none

/-- The node of an intent that was accepted before, in any execution of the run. -/
def RunRecord.nodeOfIntent (record : RunRecord) (intentId : String) : Option DynamicNode :=
  record.dynamicNodes.find? fun node => node.intentId = intentId

/-- An earlier node of the same intent was accepted for the same request. -/
def DynamicNode.answers (node : DynamicNode) (intent : NodeIntent) : Bool :=
  node.packageRef = intent.packageRef ∧
    node.capabilityDescriptorRef = intent.capabilityDescriptorRef ∧
    node.inputRefs = intent.inputRefs

/-- The node of an accepted intent: its id counts all nodes of the run. -/
def NodeIntent.node (intent : NodeIntent) (executionId : String) (position : Nat) : DynamicNode :=
  { nodeId := "node-" ++ executionId ++ "-" ++ toString position
    parentExecutionRef := executionId, intentId := intent.intentId
    packageRef := intent.packageRef
    capabilityDescriptorRef := intent.capabilityDescriptorRef, inputRefs := intent.inputRefs }

/-- The active attempts of a node. -/
def RunRecord.activeAttempts (record : RunRecord) (nodeId : String) : List Attempt :=
  record.attempts.filter fun attempt => attempt.nodeId = some nodeId ∧ attempt.state.isActive

/-- The arguments of `reassign_dynamic_node`. -/
structure ReassignArgs where
  runId : String
  nodeId : String
  lostAttemptId : String
  expectedExecutionId : String
  expectedExecutionEpoch : Int
  target : String
  reason : String
  deriving Repr, DecidableEq, Inhabited

/-- What the checks of `reassign_dynamic_node` find: an attempt that was already replaced, by
its replacement, or the node and the attempt to replace. -/
inductive ReassignCase where
  | replaced (replacement : Attempt)
  | lost (node : DynamicNode) (attempt : Attempt)
  deriving Repr, DecidableEq, Inhabited

/-- The checks of `reassign_dynamic_node` on the record it loaded. -/
def fenceReassign (record : RunRecord) (args : ReassignArgs) : Except Exc ReassignCase := do
  if ¬(record.state = .running ∧ record.executionId ≠ none) then
    .error (.valueError "execution_not_running")
  if some args.expectedExecutionId ≠ record.executionId then
    .error (.valueError "stale_execution_id")
  if args.expectedExecutionEpoch ≠ record.executionEpoch then
    .error (.valueError "stale_execution_epoch")
  match record.dynamicNodes.find? fun node => node.nodeId = args.nodeId with
  | none => .error (.valueError "dynamic_node_not_found")
  | some node =>
      match record.attempts.find? fun attempt =>
          attempt.attemptId = args.lostAttemptId ∧ attempt.nodeId = some args.nodeId with
      | none => .error (.valueError "stale_attempt")
      | some lost =>
          if lost.replacedByAttemptId.getD "" ≠ "" then
            match record.attempts.find? fun attempt =>
                some attempt.attemptId = lost.replacedByAttemptId with
            | none => .error (.valueError "stale_attempt")
            | some replacement => .ok (.replaced replacement)
          else
            if node.state ≠ .dispatched then
              .error (.valueError "dynamic_node_not_dispatchable")
            if record.activeAttempts args.nodeId ≠ [lost] then
              .error (.valueError "stale_attempt")
            if lost.executionEpoch ≠ record.executionEpoch then
              .error (.valueError "stale_attempt")
            let policy := match record.closureContract with
              | some contract => contract.recoveryPolicy
              | none => []
            if (Dict.get policy "allow_reassignment").truthy = false then
              .error (.valueError "reassignment_not_allowed")
            .ok (.lost node lost)

namespace Op

/-- The orchestration package of a running record and its limits. -/
def orchestrationPackage (env : Env) (address : Nat) (runId : String) :
    Op (CapabilityPackageVersion × OrchestrationLimits) :=
  .read fun repo =>
    let snapshot := (repo.heap address).snapshot
    match snapshot.programSystems.packageRef with
    | none => fail "orchestration_package_not_bound"
    | some ref =>
        if snapshot.programSystems.execution.isOrchestrator = false then
          fail "orchestration_package_not_bound"
        else
          match repo.findPackage ref (some runId) with
          | none =>
              match repo.findPackage ref none with
              | some _ => fail "capability_package_scope_mismatch"
              | none => fail "orchestration_package_not_found"
          | some package =>
              if package.isOrchestrator = false then fail "orchestration_package_not_found"
              else
                match orchestrationLimits env package with
                | .ok limits => .ret (package, limits)
                | .error error =>
                    if error.isLookupError then fail "orchestration_package_invalid"
                    else .raise error

/-- Log the first request of an intent. -/
def requestNode (env : Env) (address : Nat) (runId : String) (intent : NodeIntent)
    (package : CapabilityPackageVersion) : Op Unit := do
  let record ← recordAt address
  let known := record.events.any fun
    | .nodeRequested _ _ _ known _ => known.intentId = intent.intentId
    | _ => false
  if known then .ret ()
  else
    let provenance ← provenance env address (some package)
    appendEvent address (.nodeRequested runId record.executionId record.executionEpoch intent
      provenance)
    persist address

/-- Load every input ref of an intent. -/
def loadInputs (env : Env) : List ResourceRef → Op (List Json)
  | [] => .ret []
  | ref :: rest => do
      let value ← loadJsonContent env ref
      let values ← loadInputs env rest
      .ret (value :: values)

/-- The inputs of an intent match the node contract's input schema. -/
def checkInputSchema (env : Env) (contract : IoContract) (inputRefs : List ResourceRef) :
    Op Unit :=
  match contract.inputSchemaRef with
  | none => .ret ()
  | some schemaRef => do
      let evaluated : Op (List SchemaError) := do
        let schema ← loadJsonContent env schemaRef
        Prog.ofExcept (env.validateSchema schema)
        let values ← loadInputs env inputRefs
        let candidate := match values with
          | [value] => value
          | values => .obj [("inputs", .arr values)]
        Prog.ofExcept (env.validate schema candidate)
      let errors ← orContentError evaluated "node_input_schema_mismatch"
      check (errors = []) ("node_input_schema_mismatch:" ++
        env.text (.arr (errors.map SchemaError.toJson)))

/-- The digests that the run's root inputs authorize. -/
def authorizedInputs (env : Env) : List NodeInputBinding → Op (List String)
  | [] => .ret []
  | binding :: rest => do
      let own ← match requireContentRef binding.inputRef with
        | .error _ => (.ret [] : Op (List String))
        | .ok () => do
            let digest := lower (binding.inputRef.digest.getD "")
            match ← (loadJsonContent env binding.inputRef).attempt with
            | .ok value => .ret (digest :: collectContentRefDigests env value)
            | .error error =>
                if error.isContentError then .ret [digest] else .raise error
      let more ← authorizedInputs env rest
      .ret (own ++ more)

/-- Every input of an intent can be loaded and is authorized. -/
def checkInputs (env : Env) (authorized : List String) : List ResourceRef → Op Unit
  | [] => .ret ()
  | ref :: rest => do
      let _ ← orContentError (loadJsonContent env ref) "node_input_unavailable"
      check (authorized.contains (lower (ref.digest.getD ""))) "node_input_not_allowed"
      checkInputs env authorized rest

/-- The target of an intent supports the package and meets the run's restrictions. -/
def checkTarget (env : Env) (record : RunRecord) (snapshot : TaskClosure)
    (package : CapabilityPackageVersion) (exported : CapabilityExport)
    (selectedTarget : String) : Op String := do
  check (selectedTarget ≠ "") "node_target_unavailable"
  let repo ← Prog.get
  let target := repo.slaves.canonicalTarget selectedTarget
  check (repo.slaves.supports target package) "node_target_unavailable"
  check (record.permits exported) "node_permission_denied"
  check (localityAllows env repo.slaves snapshot target) "node_target_unavailable"
  .ret target

/-- The package and export that an intent names. -/
def intentExport (intent : NodeIntent) (runId : String) :
    Op (CapabilityPackageVersion × CapabilityExport) := do
  match ← (getCapabilityPackage intent.packageRef runId).attempt with
  | .error error =>
      if error.kind = .keyError then fail "node_package_not_found" else .raise error
  | .ok package =>
      check (lower (intent.packageRef.digest.getD "") = lower package.packageDigest)
        "node_package_digest_mismatch"
      let repo ← Prog.get
      check (repo.packageVisible package (some runId)) "capability_package_scope_mismatch"
      check (package.publicationState ≠ .abandoned) "capability_package_abandoned"
      match package.exportFor intent.capabilityDescriptorRef with
      | .ok exported => .ret (package, exported)
      | .error _ => fail "node_capability_export_not_found"

/-- The package, the inputs and the target of an intent are acceptable. -/
def qualifyIntent (env : Env) (address : Nat) (runId : String) (record : RunRecord)
    (snapshot : TaskClosure) (intent : NodeIntent) (selectedTarget : String) : Op String := do
  let (package, exported) ← intentExport intent runId
  refreshSlaves record.workspaceId
  let contract ← orContentError (loadIoContract env exported.ioContractRef)
    "node_io_contract_unavailable"
  checkInputSchema env contract intent.inputRefs
  let roots ← authorizedInputs env snapshot.nodeInputBindings
  let current ← recordAt address
  checkInputs env (roots ++ current.completedResultDigests) intent.inputRefs
  checkTarget env record snapshot package exported selectedTarget

/-- The checks of a new intent, up to the target it may run on. -/
def admitIntent (env : Env) (address : Nat) (runId : String) (snapshot : TaskClosure)
    (intent : NodeIntent) (limits : OrchestrationLimits) (selectedTarget : String) :
    Op String := do
  check (limits.allowed.any fun allowed => sameExactRef intent.packageRef allowed)
    "node_package_not_allowed"
  let record ← recordAt address
  qualifyIntent env address runId record snapshot intent selectedTarget

/-- The write block of `_accept_node_intent`. -/
def installNode (env : Env) (address : Nat) (runId : String) (intent : NodeIntent)
    (package : CapabilityPackageVersion) (limits : OrchestrationLimits) (target : String) :
    Op DynamicNode := do
  let record ← recordAt address
  Prog.ofExcept (record.checkNodeLimits limits)
  let executionId ← match record.executionId with
    | some executionId => (.ret executionId : Op String)
    | none => fail "parent_execution_ref"
  let node := intent.node executionId (record.dynamicNodes.length + 1)
  modify address (.appendNode node)
  let provenance ← provenance env address (some package)
  appendEvent address (.nodeAccepted runId record.executionId record.executionEpoch node.nodeId
    intent.intentId intent.packageRef intent.capabilityDescriptorRef intent.inputRefs target
    provenance)
  persist address
  .ret node

/-- `_accept_node_intent`, which runs under the intent lock. -/
def acceptIntent (env : Env) (runId : String) (intent : NodeIntent) (selectedTarget : String) :
    Op DynamicNode := do
  let address ← load runId
  let record ← recordAt address
  check (record.state = .running ∧ record.executionId ≠ none) "execution_not_running"
  check (some intent.executionId = record.executionId) "node_intent_execution_mismatch"
  let snapshot := record.snapshot
  let (package, limits) ← orchestrationPackage env address runId
  requestNode env address runId intent package
  let record ← recordAt address
  match record.nodeOfIntent intent.intentId with
  | some existing =>
      check (existing.answers intent) "node_intent_conflict"
      .ret existing
  | none =>
      Prog.ofExcept (record.checkNodeLimits limits)
      let target ← admitIntent env address runId snapshot intent limits selectedTarget
      installNode env address runId intent package limits target

/-- `accept_node_intent`. -/
def acceptNodeIntent (env : Env) (runId : String) (intent : NodeIntent)
    (selectedTarget : String) : Op DynamicNode :=
  withIntentLock runId (acceptIntent env runId intent selectedTarget)

/-- The target of the last acceptance of a node; a reassignment event has no such field. -/
def acceptedTarget (events : List Event) (nodeId : String) : Option String :=
  match events.reverse.find? (fun
      | .nodeAccepted _ _ _ known _ _ _ _ _ _ => known = nodeId
      | .nodeReassigned _ _ _ known _ _ _ _ _ _ _ _ _ => known = nodeId
      | _ => false) with
  | some (.nodeAccepted _ _ _ _ _ _ _ _ target _) => some target
  | _ => none

/-- The write block of `dispatch_dynamic_node`. -/
def writeDispatch (env : Env) (address : Nat) (runId : String) (nodeIndex : Nat)
    (node : DynamicNode) (target : String) (agent : Dict) : Op Attempt := do
  let record ← recordAt address
  Prog.ofExcept record.checkAttemptBudget
  let attemptId ← uuid env
  let targetInstanceId ← Prog.ofExcept (requiredText agent "instance_id")
  let targetAgentEpoch ← Prog.ofExcept (requiredEpoch agent)
  let attempt : Attempt :=
    { attemptId := "attempt-" ++ attemptId, nodeId := some node.nodeId, target
      targetInstanceId := some targetInstanceId, targetAgentEpoch := some targetAgentEpoch
      executionEpoch := record.executionEpoch }
  modify address (.appendAttempt attempt)
  modify address (.setNodeState nodeIndex .dispatched)
  let provenance ← provenance env address
  appendEvent address (.nodeDispatched runId record.executionId record.executionEpoch node.nodeId
    attempt node.packageRef node.capabilityDescriptorRef node.inputRefs provenance)
  persist address
  .ret attempt

/-- `dispatch_dynamic_node`. -/
def dispatchDynamicNode (env : Env) (runId nodeId target : String) : Op Attempt := do
  let address ← load runId
  let record ← recordAt address
  check (record.state = .running ∧ record.executionId ≠ none) "execution_not_running"
  match firstIndex? (fun node => node.nodeId = nodeId) record.dynamicNodes with
  | none => fail "dynamic_node_not_found"
  | some nodeIndex =>
      let node := record.dynamicNodes.getD nodeIndex default
      check (node.state = .accepted) "dynamic_node_not_dispatchable"
      check (target ≠ "") "node_target_unavailable"
      refreshSlaves record.workspaceId
      let repo ← Prog.get
      let normalized := repo.slaves.canonicalTarget target
      match acceptedTarget (repo.heap address).events nodeId with
      | some accepted => check (accepted = normalized) "node_target_mismatch"
      | none => .ret ()
      match repo.findPackage node.packageRef (some runId) with
      | none => fail "node_target_unavailable"
      | some package =>
          check (repo.slaves.supports normalized package) "node_target_unavailable"
          match package.exportFor node.capabilityDescriptorRef with
          | .error _ => fail "node_capability_export_not_found"
          | .ok _ =>
              match repo.slaves.agents.lookup normalized with
              | none => .raise (.keyError normalized)
              | some agent => writeDispatch env address runId nodeIndex node normalized agent

/-- Every input of a node can still be loaded. -/
def reloadInputs (env : Env) : List ResourceRef → Op Unit
  | [] => .ret ()
  | ref :: rest => do
      let _ ← orContentError (loadJsonContent env ref) "node_input_unavailable"
      reloadInputs env rest

/-- The worker of the lost attempt no longer holds its lease. -/
def checkLeaseLost (view : SlaveView) (lost : Attempt) : Except Exc Json :=
  match view.instances.lookup (lost.target, lost.targetInstanceId.getD "") with
  | none => .error (.valueError "worker_lease_not_lost")
  | some agent => do
      let epoch ← intOrZero (Dict.get agent "epoch")
      if epoch ≠ lost.targetAgentEpoch.getD 0 then
        .error (.valueError "worker_lease_not_lost")
      let lease := Dict.get agent "lease_state"
      if lease ≠ .str "expired" ∧ lease ≠ .str "released" then
        .error (.valueError "worker_lease_active")
      .ok lease

/-- The copy, the changes to the copy, and the swap of `reassign_dynamic_node`. -/
def swapRecord (env : Env) (address : Nat) (args : ReassignArgs) (node : DynamicNode)
    (lost : Attempt) (lease : Json) (exported : CapabilityExport) (target : String)
    (agent : Dict) : Op Attempt := do
  let record ← recordAt address
  let updated ← alloc record
  match firstIndex? (fun attempt => attempt.attemptId = args.lostAttemptId) record.attempts,
      firstIndex? (fun node => node.nodeId = args.nodeId) record.dynamicNodes with
  | some attemptIndex, some nodeIndex =>
      let attemptId ← uuid env
      let targetInstanceId ← Prog.ofExcept (requiredText agent "instance_id")
      let targetAgentEpoch ← Prog.ofExcept (requiredEpoch agent)
      let replacement : Attempt :=
        { attemptId := "attempt-" ++ attemptId, nodeId := some args.nodeId, target
          targetInstanceId := some targetInstanceId, targetAgentEpoch := some targetAgentEpoch
          executionEpoch := record.executionEpoch, replacesAttemptId := some lost.attemptId }
      modify updated (.updateAttempt attemptIndex
        { state := .lost
          terminalError := some (.obj [("code", .str "worker_lost"), ("lease_state", lease)])
          replacedByAttemptId := some replacement.attemptId })
      modify updated (.appendAttempt replacement)
      modify updated (.setNodeState nodeIndex .dispatched)
      appendEvent updated (.nodeReassigned args.runId record.executionId record.executionEpoch
        args.nodeId args.lostAttemptId replacement.attemptId lost.target target args.reason lease
        node.packageRef exported.replaySafety node.inputRefs)
      persist updated
      Prog.tell (.install args.runId updated)
      .ret replacement
  | _, _ => .raise ⟨.runtimeError, "coroutine raised StopIteration"⟩

/-- `reassign_dynamic_node` once the attempt to replace is known. -/
def replaceAttempt (env : Env) (address : Nat) (record : RunRecord) (args : ReassignArgs)
    (node : DynamicNode) (lost : Attempt) : Op Attempt := do
  let repo ← Prog.get
  match repo.findPackage node.packageRef (some args.runId) with
  | none => fail "node_target_unavailable"
  | some package =>
      match package.exportFor node.capabilityDescriptorRef with
      | .error _ => fail "node_capability_export_not_found"
      | .ok exported =>
          check (record.permits exported) "node_permission_denied"
          reloadInputs env node.inputRefs
          let current ← recordAt address
          Prog.ofExcept current.checkAttemptBudget
          refreshSlaves record.workspaceId
          let repo ← Prog.get
          let lease ← Prog.ofExcept (checkLeaseLost repo.slaves lost)
          let target := repo.slaves.canonicalTarget args.target
          check (target ≠ "" ∧ target ≠ lost.target ∧ repo.slaves.supports target package)
            "node_target_unavailable"
          check (localityAllows env repo.slaves (repo.heap address).snapshot target)
            "node_target_unavailable"
          match repo.slaves.agents.lookup target with
          | none => .raise (.keyError target)
          | some agent => swapRecord env address args node lost lease exported target agent

/-- `reassign_dynamic_node`. -/
def reassignDynamicNode (env : Env) (args : ReassignArgs) : Op Attempt :=
  withIntentLock args.runId do
    let address ← load args.runId
    let record ← recordAt address
    match ← Prog.ofExcept (fenceReassign record args) with
    | .replaced replacement => .ret replacement
    | .lost node lost => replaceAttempt env address record args node lost

end Op

end Loom
