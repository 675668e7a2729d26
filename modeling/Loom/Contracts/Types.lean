import Loom.Json

/-!
# Contract types

The value types of `loom_v2/contracts/types.py` that the run lifecycle reads or writes.
Fields that no modelled function looks at (terms, data views, retention profiles and the
like) are left out; timestamps are left out throughout.
-/

namespace Loom

/-- The exception classes that handlers in the source tell apart. -/
inductive ExcKind where
  | valueError
  | typeError
  | fileNotFound
  | keyError
  | attributeError
  | runtimeError
  | domainError
  | integrityError
  | other
  deriving Repr, DecidableEq, Inhabited

/-- A raised exception: its class and its text. -/
structure Exc where
  kind : ExcKind
  text : String
  deriving Repr, DecidableEq, Inhabited

namespace Exc

def valueError (text : String) : Exc := ⟨.valueError, text⟩

def keyError (text : String) : Exc := ⟨.keyError, text⟩

def typeError (text : String) : Exc := ⟨.typeError, text⟩

def attributeError (text : String) : Exc := ⟨.attributeError, text⟩

/-- `except (FileNotFoundError, TypeError, ValueError)`. -/
def isContentError (error : Exc) : Bool :=
  error.kind = .fileNotFound ∨ error.kind = .typeError ∨ error.kind = .valueError

/-- `except (KeyError, TypeError, ValueError)`. -/
def isLookupError (error : Exc) : Bool :=
  error.kind = .keyError ∨ error.kind = .typeError ∨ error.kind = .valueError

end Exc

/-- `str.lower` on the ASCII letters that digests are made of. -/
def lower (text : String) : String := String.ofList (text.toList.map Char.toLower)

theorem lower_lower (text : String) : lower (lower text) = lower text := by
  unfold lower
  rw [String.toList_ofList, List.map_map]
  congr 2
  funext char
  change char.toLower.toLower = char.toLower
  unfold Char.toLower
  split
  · split
    · grind
    · rfl
  · rfl

theorem length_lower (text : String) : (lower text).length = text.length := by
  unfold lower
  rw [String.length_ofList, List.length_map, String.length_toList]

/-- The characters that `str.strip` removes. -/
def isSpace (char : Char) : Bool :=
  let code := char.toNat
  (9 ≤ code ∧ code ≤ 13) ∨ (28 ≤ code ∧ code ≤ 32) ∨ code = 0x85 ∨ code = 0xa0 ∨ code = 0x1680 ∨
    (0x2000 ≤ code ∧ code ≤ 0x200a) ∨ code = 0x2028 ∨ code = 0x2029 ∨ code = 0x202f ∨
    code = 0x205f ∨ code = 0x3000

/-- `text.strip()`. -/
def strip (text : String) : String :=
  String.ofList ((text.toList.dropWhile isSpace).reverse.dropWhile isSpace).reverse

/-- A text that neither begins nor ends with a blank is not stripped. -/
theorem strip_eq {text : String}
    (first : ∀ char, text.toList.head? = some char → isSpace char = false)
    (last : ∀ char, text.toList.getLast? = some char → isSpace char = false) :
    strip text = text := by
  have keeps : ∀ chars : List Char, (∀ char, chars.head? = some char → isSpace char = false) →
      chars.dropWhile isSpace = chars := by
    intro chars head
    cases chars with
    | nil => rfl
    | cons char chars => rw [List.dropWhile_cons_of_neg (by simp [head char rfl])]
  unfold strip
  rw [keeps _ first, keeps _ (by rwa [List.head?_reverse]), List.reverse_reverse,
    String.ofList_toList]

def contentPrefix : String := "content://sha256/"

/-- `text.startswith("content://sha256/")`. -/
def isContentId (text : String) : Bool := contentPrefix.toList.isPrefixOf text.toList

/-- `text.removeprefix("content://sha256/")`. -/
def contentSuffix (text : String) : String :=
  if isContentId text then String.ofList (text.toList.drop contentPrefix.length) else text

structure ResourceRef where
  resourceId : String
  versionOrDigest : Option String := none
  accessBinding : Json := .obj []
  identityCriterion : Option String := none
  provenance : List Json := []
  deriving Repr, DecidableEq, Inhabited

namespace ResourceRef

def digest (ref : ResourceRef) : Option String :=
  if ref.identityCriterion = some "descriptor_digest" ∧ ref.versionOrDigest.getD "" ≠ "" then
    ref.versionOrDigest.map lower
  else if isContentId ref.resourceId then
    some (lower (contentSuffix ref.resourceId))
  else if ref.versionOrDigest.getD "" ≠ "" then
    ref.versionOrDigest.map lower
  else
    none

/-- `ref.digest or ref.resource_id`. -/
def identity (ref : ResourceRef) : String :=
  match ref.digest with
  | some digest => if digest = "" then ref.resourceId else digest
  | none => ref.resourceId

/-- `ref.model_dump(mode="json")`. -/
def toJson (ref : ResourceRef) : Json :=
  .obj [("resource_id", .str ref.resourceId),
    ("version_or_digest", .ofOption ref.versionOrDigest),
    ("access_binding", ref.accessBinding),
    ("identity_criterion", .ofOption ref.identityCriterion),
    ("provenance", .arr ref.provenance)]

end ResourceRef

/-- `same_ref` of the result operations: equal digests, or equal ids where there is none. -/
def sameRef : Option ResourceRef → Option ResourceRef → Bool
  | some left, some right => left.identity = right.identity
  | none, none => true
  | _, _ => false

/-- Content-addressed input/output contract of an executable node. -/
structure IoContract where
  inputSchemaRef : Option ResourceRef := none
  outputSchemaRef : Option ResourceRef := none
  successSemantics : Json := .null
  successValidatorRef : Option ResourceRef := none
  deriving Repr, DecidableEq, Inhabited

/-- One schema failure as `io_schema.ValidationError` reports it. -/
structure SchemaError where
  path : String
  keyword : String
  message : String
  expected : Json := .null
  observed : Json := .null
  deriving Repr, DecidableEq, Inhabited

def SchemaError.toJson (error : SchemaError) : Json :=
  .obj [("path", .str error.path), ("keyword", .str error.keyword),
    ("message", .str error.message), ("expected", error.expected), ("observed", error.observed)]

inductive Verdict where
  | pass
  | fail
  deriving Repr, DecidableEq, Inhabited

inductive Issuer where
  | slave
  | observer
  deriving Repr, DecidableEq, Inhabited

/-- Schema or validator evidence for one attempt. -/
structure ValidationEvidence where
  evidenceId : String
  attemptId : String
  executionEpoch : Int
  validatorRef : Option ResourceRef := none
  schemaRef : Option ResourceRef := none
  inputDigest : Option String := none
  outputDigest : Option String := none
  result : Verdict
  errors : List Json := []
  issuer : Issuer
  deriving Repr, DecidableEq, Inhabited

def ValidationEvidence.toJson (evidence : ValidationEvidence) : Json :=
  .obj [("evidence_id", .str evidence.evidenceId), ("attempt_id", .str evidence.attemptId),
    ("execution_epoch", .int evidence.executionEpoch),
    ("validator_ref", (evidence.validatorRef.map ResourceRef.toJson).getD .null),
    ("schema_ref", (evidence.schemaRef.map ResourceRef.toJson).getD .null),
    ("input_digest", .ofOption evidence.inputDigest),
    ("output_digest", .ofOption evidence.outputDigest),
    ("result", .str (match evidence.result with | .pass => "pass" | .fail => "fail")),
    ("errors", .arr evidence.errors),
    ("issuer", .str (match evidence.issuer with | .slave => "slave" | .observer => "observer"))]

/-- How a capability package is started and invoked. -/
structure ExecutionContract where
  kind : String := "process:json_stdio"
  version : String := "1"
  deriving Repr, DecidableEq, Inhabited

structure ProgramApplication where
  operationRef : String := ""
  inputSchema : Json := .null
  outputSchema : Json := .null
  successSemantics : Json := .null
  ioContractRef : Option ResourceRef := none
  deriving Repr, DecidableEq, Inhabited

structure ProgramSystems where
  execution : ExecutionContract := {}
  packageRef : Option ResourceRef := none
  replaySafety : String := "Idempotent"
  deriving Repr, DecidableEq, Inhabited

structure ComputeRequirement where
  key : String
  value : Json
  deriving Repr, DecidableEq, Inhabited

structure TypedHole where
  holeId : String
  status : String := "unbound"
  bindingRef : Option String := none
  deriving Repr, DecidableEq, Inhabited

structure ComputeSpec where
  operationRef : String := ""
  requirements : List ComputeRequirement := []
  typedHoles : List TypedHole := []
  deriving Repr, DecidableEq, Inhabited

structure ComputeBinding where
  bindingId : String
  holeId : String
  capabilityDescriptorRef : ResourceRef
  capabilityPackageRef : Option ResourceRef := none
  targetResourceRef : ResourceRef
  deriving Repr, DecidableEq, Inhabited

structure NodeInputBinding where
  nodeId : String
  inputRef : ResourceRef
  provenance : List Json := []
  deriving Repr, DecidableEq, Inhabited

/-- The task closure a run refines, commits and executes. -/
structure TaskClosure where
  closureId : String := "closure-default"
  program : ProgramApplication := {}
  programSystems : ProgramSystems := {}
  nodeInputBindings : List NodeInputBinding := []
  compute : ComputeSpec := {}
  computeBindings : List ComputeBinding := []
  constraints : List Json := []
  metadata : Dict := []
  deriving Repr, DecidableEq, Inhabited

structure ClosureContract where
  closureId : String
  goal : String
  originConversationRef : String := ""
  userId : String := "user-default"
  workspaceId : String := "workspace-default"
  allowedEffects : List String := []
  resourceBudget : Dict := []
  recoveryPolicy : Dict := []
  body : TaskClosure
  deriving Repr, DecidableEq, Inhabited

structure ClosureVersion where
  versionId : String
  closureId : String
  parentVersion : Option String := none
  kind : String := "draft"
  snapshot : TaskClosure
  snapshotDigest : String
  patchCursor : Nat := 0
  deriving Repr, DecidableEq, Inhabited

/-- Runtime-neutral operation projection exported by a package. -/
structure CapabilityExport where
  capabilityDescriptorRef : ResourceRef
  ioContractRef : ResourceRef
  effectClass : String := ""
  permissions : List String := []
  replaySafety : String
  runtimeBinding : Json := .obj []
  deriving Repr, DecidableEq, Inhabited

inductive PackageScope where
  | runBound
  | workspaceReusable
  deriving Repr, DecidableEq, Inhabited

inductive PublicationState where
  | candidate
  | published
  | abandoned
  deriving Repr, DecidableEq, Inhabited

/-- Immutable runtime-neutral package envelope. -/
structure CapabilityPackageVersion where
  packageType : String := "function"
  packageId : String
  packageVersion : String
  packageClosureVersionRef : String
  sourceRunRef : String
  sourceClosureVersionRef : String
  scope : PackageScope := .runBound
  publicationState : PublicationState := .candidate
  provenance : List Json := []
  execution : ExecutionContract := {}
  capabilityExports : List CapabilityExport
  body : Dict
  packageDigest : String := ""
  deriving Repr, DecidableEq, Inhabited

inductive DesiredState where
  | running
  | stopped
  deriving Repr, DecidableEq, Inhabited

inductive ActivationState where
  | notInstalled
  | provisioning
  | ready
  | degraded
  | stopped
  | failed
  | lost
  deriving Repr, DecidableEq, Inhabited

structure CapabilityPackageActivation where
  packageVersionRef : String
  packageDigest : String
  targetSlave : String
  activationClosureVersionRef : String
  computeBindingRef : String
  desiredState : DesiredState
  activationRevision : Nat
  lastIdempotencyKey : String
  evidenceRefs : List String := []
  activationState : ActivationState := .notInstalled
  runtimeProfile : Dict := []
  deriving Repr, DecidableEq, Inhabited

structure CapabilityProvisionCommand where
  commandId : String
  packageVersionRef : String
  packageDigest : String
  targetSlave : String
  workspaceId : String := "workspace-default"
  activationClosureVersionRef : String := ""
  computeBinding : Option ComputeBinding := none
  idempotencyKey : String
  activationRevision : Nat
  deriving Repr, DecidableEq, Inhabited

structure CapabilityDeprovisionCommand where
  commandId : String
  packageVersionRef : String
  packageDigest : String
  targetSlave : String
  workspaceId : String := "workspace-default"
  idempotencyKey : String
  activationRevision : Nat
  deriving Repr, DecidableEq, Inhabited

/-- The states that a Slave reports of an activation. -/
inductive HealthState where
  | ready
  | degraded
  | failed
  | stopped
  deriving Repr, DecidableEq, Inhabited

structure CapabilityHealthReport where
  reportId : String
  packageVersionRef : String
  packageDigest : String
  targetSlave : String
  activationState : HealthState
  evidenceRefs : List String := []
  details : Dict := []
  activationRevision : Nat
  deriving Repr, DecidableEq, Inhabited

/-- Deterministic node request emitted by an orchestration program. -/
structure NodeIntent where
  intentId : String
  executionId : String
  packageRef : ResourceRef
  capabilityDescriptorRef : ResourceRef
  inputRefs : List ResourceRef := []
  deriving Repr, DecidableEq, Inhabited

inductive NodeState where
  | accepted
  | dispatched
  | completed
  | failed
  | decisionRequired
  deriving Repr, DecidableEq, Inhabited

/-- `state in {"completed", "failed", "decision_required"}`. -/
def NodeState.isTerminal : NodeState → Bool
  | .accepted | .dispatched => false
  | .completed | .failed | .decisionRequired => true

/-- Observer-accepted execution record derived from a `NodeIntent`. -/
structure DynamicNode where
  nodeId : String
  parentExecutionRef : String
  intentId : String
  packageRef : ResourceRef
  capabilityDescriptorRef : ResourceRef
  inputRefs : List ResourceRef := []
  state : NodeState := .accepted
  deriving Repr, DecidableEq, Inhabited

namespace CapabilityPackageVersion

/-- The coordinate under which a package version is referenced. -/
def versionRef (package : CapabilityPackageVersion) : String :=
  "capability-package://" ++ package.packageId ++ "/" ++ package.packageVersion

def isSha256 (text : Option String) : Bool :=
  match text with
  | some digest =>
      digest.length = 64 ∧ digest.toList.all fun char => char.isDigit || ('a' ≤ char && char ≤ 'f')
  | none => false

/-- The one export whose descriptor has exactly this identity. -/
def exportFor (package : CapabilityPackageVersion) (descriptorRef : ResourceRef) :
    Except Exc CapabilityExport :=
  if descriptorRef.identityCriterion ≠ some "descriptor_digest" ∨ descriptorRef.resourceId = "" ∨
      isSha256 descriptorRef.versionOrDigest = false then
    .error (.valueError "capability_descriptor_invalid")
  else
    match package.capabilityExports.filter fun item =>
        item.capabilityDescriptorRef.resourceId = descriptorRef.resourceId ∧
          item.capabilityDescriptorRef.identityCriterion = descriptorRef.identityCriterion ∧
          item.capabilityDescriptorRef.versionOrDigest = descriptorRef.versionOrDigest with
    | [only] => .ok only
    | _ => .error (.valueError "capability_export_not_found")

end CapabilityPackageVersion

end Loom
