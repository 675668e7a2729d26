import Loom.Contracts.Types

/-!
# Reference helpers

The pure helpers of `loom_v2/contracts/refs.py` and `loom_v2/contracts/refinement.py`, and
the package key of the driver orchestrator.
-/

namespace Loom

/-- `DRIVER_ORCHESTRATOR_KEY`. -/
def driverOrchestratorKey : String × String × String :=
  ("function", "container:python_orchestrator", "1")

/-- `(execution.kind, execution.version) == DRIVER_ORCHESTRATOR_KEY[1:]`. -/
def ExecutionContract.isOrchestrator (execution : ExecutionContract) : Bool :=
  (execution.kind, execution.version) = driverOrchestratorKey.2

def CapabilityPackageVersion.isOrchestrator (package : CapabilityPackageVersion) : Bool :=
  (package.packageType, package.execution.kind, package.execution.version) = driverOrchestratorKey

/-- The last part of a list that follows the last occurrence of `separator`. -/
def afterLast (separator : Char) (chars : List Char) : List Char :=
  (chars.reverse.takeWhile fun char => char ≠ separator).reverse

/-- `operation_ref.rstrip("/").rsplit("/", 1)[-1].rsplit(":", 1)[-1]`. -/
def operationName (operationRef : String) : String :=
  let stripped := (operationRef.toList.reverse.dropWhile fun char => char = '/').reverse
  String.ofList (afterLast ':' (afterLast '/' stripped))

def inputBindingFor (snapshot : TaskClosure) (operationRef : String) : Option NodeInputBinding :=
  snapshot.nodeInputBindings.find? fun binding =>
    binding.nodeId = operationRef ∨ binding.nodeId = operationName operationRef ∨
      binding.nodeId = "default"

/-- `snapshot.program.operation_ref or snapshot.compute.operation_ref`. -/
def TaskClosure.operationRef (snapshot : TaskClosure) : String :=
  if snapshot.program.operationRef ≠ "" then snapshot.program.operationRef
  else snapshot.compute.operationRef

/-- `_input_digest_for`. -/
def TaskClosure.inputDigest (snapshot : TaskClosure) : Option String :=
  (inputBindingFor snapshot snapshot.operationRef).bind fun binding => binding.inputRef.digest

def singleExport (package : CapabilityPackageVersion) : Except Exc CapabilityExport :=
  match package.capabilityExports with
  | [only] => .ok only
  | _ => .error (.valueError "capability_export_selection_required")

def isHexDigest (text : String) : Bool :=
  text.length = 64 ∧ text.toList.all fun char =>
    char.isDigit || ('a' ≤ char && char ≤ 'f') || ('A' ≤ char && char ≤ 'F')

def requireContentRef (ref : ResourceRef) : Except Exc Unit :=
  if isContentId ref.resourceId = false then
    .error (.valueError "content_ref_required")
  else if isHexDigest (ref.digest.getD "") = false then
    .error (.valueError "content_ref_required")
  else if lower (contentSuffix ref.resourceId) ≠ lower (ref.digest.getD "") then
    .error (.valueError "content_ref_digest_mismatch")
  else if ref.identityCriterion ≠ none ∧ ref.identityCriterion ≠ some "content_digest" then
    .error (.valueError "content_ref_required")
  else
    .ok ()

theorem isContentId_prefixed (digest : String) : isContentId (contentPrefix ++ digest) = true := by
  unfold isContentId
  rw [String.toList_append, List.isPrefixOf_iff_prefix]
  exact List.prefix_append _ _

theorem contentSuffix_prefix (digest : String) :
    contentSuffix (contentPrefix ++ digest) = digest := by
  unfold contentSuffix
  rw [if_pos (isContentId_prefixed digest), String.toList_append, ← String.length_toList,
    List.drop_left, String.ofList_toList]

/-- The Slaves by id: the first agent of an id, or the first active one where there is one. -/
def selectSlaveAgents (agents : List Dict) : List (String × Dict) :=
  agents.foldl
    (fun selected agent =>
      match Dict.get agent "agent_id" with
      | .str slaveId =>
          if slaveId = "" then selected
          else match selected.lookup slaveId with
            | none => selected ++ [(slaveId, agent)]
            | some current =>
                if Dict.get agent "lease_state" = .str "active" ∧
                    Dict.get current "lease_state" ≠ .str "active" then
                  selected.map fun entry => if entry.1 = slaveId then (slaveId, agent) else entry
                else selected
      | _ => selected)
    []

/-- The items of a JSON list; other values have none. -/
def Json.items : Json → List Json
  | .arr items => items
  | _ => []

/-- The entries of a JSON object; other values have none. -/
def Json.entries : Json → Dict
  | .obj entries => entries
  | _ => []

/-- `str(value or default)` compared with a text: only strings can be equal to it. -/
def Json.isText (value : Json) (default text : String) : Bool :=
  value.orElse (.str default) = .str text

/-- `slave_supports_package`. -/
def slaveSupportsPackage (slaveId : String) (package : CapabilityPackageVersion)
    (agents capabilities : List (String × Dict)) : Bool :=
  match agents.lookup slaveId with
  | none => false
  | some agent =>
      if Dict.get agent "lease_state" ≠ .str "active" then false
      else
        let details := (capabilities.lookup slaveId).getD []
        let declared := ((Dict.get details "executor_kinds").orElse
          (Dict.get details "executors")).orElse (Dict.get details "executor_descriptors")
        let byExecutor := declared.items.any fun item =>
          match item with
          | .obj entry =>
              (Dict.get entry "package_type").isText "" package.packageType &&
                (Dict.get entry "kind").isText "" package.execution.kind &&
                (Dict.get entry "version").isText "1" package.execution.version
          | _ => false
        let descriptors := (Dict.get details "runtime_plugin_descriptors").orElse
          (Dict.get details "runtime_plugins")
        let byPlugin := descriptors.items.any fun descriptor =>
          (Dict.get descriptor.entries "supports").items.any fun support =>
            match support with
            | .obj entry =>
                let execution := match Dict.get entry "execution" with
                  | .obj inner => inner
                  | _ => entry
                (Dict.get entry "package_type").isText "" package.packageType &&
                  ((Dict.get entry "execution_kind").orElse
                    (Dict.get execution "kind")).isText "" package.execution.kind &&
                  ((Dict.get entry "execution_version").orElse
                    (Dict.get execution "version")).isText "1" package.execution.version
            | _ => false
        byExecutor || byPlugin

/-! ### Constraint tightening -/

/-- Python's `left <= right` on JSON values; `none` where it raises `TypeError`. -/
def Json.le? (left right : Json) : Option Bool :=
  match left.number?, right.number? with
  | some leftNumber, some rightNumber => some (leftNumber ≤ rightNumber)
  | _, _ =>
      match left, right with
      | .str leftText, .str rightText => some (leftText ≤ rightText)
      | .arr leftItems, .arr rightItems => itemsLe? leftItems rightItems
      | _, _ => none
where
  /-- Lists compare by the first position at which they differ. -/
  itemsLe? : List Json → List Json → Option Bool
    | [], _ => some true
    | _ :: _, [] => some false
    | left :: lefts, right :: rights =>
        if left.pyEq right then itemsLe? lefts rights
        else match left.number?, right.number? with
          | some leftNumber, some rightNumber => some (leftNumber ≤ rightNumber)
          | _, _ =>
              match left, right with
              | .str leftText, .str rightText => some (leftText ≤ rightText)
              | .arr leftItems, .arr rightItems => itemsLe? leftItems rightItems
              | _, _ => none

/-- The elements of Python's `set(value)`; `none` where it raises `TypeError`. -/
def Json.elements? : Json → Option (List Json)
  | .arr items => if items.all Json.hashable then some items else none
  | .str text => some (text.toList.map fun char => .str (String.ofList [char]))
  | .obj entries => some (entries.map fun entry => .str entry.1)
  | _ => none

/-- `entries.get("value", [])`. -/
def Dict.valueOrEmpty (entries : Dict) : Json :=
  if Dict.has entries "value" then Dict.get entries "value" else .arr []

/-- `is_monotonic_tightening`. -/
def isMonotonicTightening (parent child : Json) : Except Exc Bool :=
  match parent, child with
  | .obj parentEntries, .obj childEntries =>
      if (Dict.get parentEntries "field").pyEq (Dict.get childEntries "field") = false then
        .ok false
      else
        let op := Dict.get parentEntries "op"
        let sameOp := op = Dict.get childEntries "op"
        let incomparable : Except Exc Bool := .error (.typeError "unorderable types")
        if op = .str "le" ∧ sameOp then
          match (Dict.get childEntries "value").le? (Dict.get parentEntries "value") with
          | some answer => .ok answer
          | none => incomparable
        else if op = .str "ge" ∧ sameOp then
          match (Dict.get parentEntries "value").le? (Dict.get childEntries "value") with
          | some answer => .ok answer
          | none => incomparable
        else if op = .str "allow" ∧ sameOp then
          match (Dict.valueOrEmpty childEntries).elements?,
              (Dict.valueOrEmpty parentEntries).elements? with
          | some childItems, some parentItems =>
              .ok (childItems.all fun item => parentItems.any item.pyEq)
          | _, _ => .error (.typeError "unhashable or not iterable")
        else .ok (parent.pyEq child)
  | _, _ => .error (.attributeError "object has no attribute 'get'")

end Loom
