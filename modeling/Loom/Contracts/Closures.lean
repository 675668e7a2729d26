import Loom.Contracts.Packages

/-!
# Task closures with all their fields

`TaskClosure` of `loom_v2/contracts/types.py` and the models it is made of, as `canonical_digest`
dumps them.  `unbound free` is a model without the access bindings of its references, with `free`
applied to every value whose shape the contract leaves open.
-/

namespace Loom

namespace Json

/-- The dump of a model without the fields that are `None`. -/
def ofFields (fields : Dict) : Json := .obj (fields.filter fun field => field.2 ≠ .null)

/-- The dump of an optional value, `None` for none. -/
def ofOptional {α : Type} (dump : α → Json) (value : Option α) : Json :=
  (value.map dump).getD .null

def ofList {α : Type} (dump : α → Json) (values : List α) : Json := .arr (values.map dump)

mutual

/-- `strip_deployment_bindings`. -/
def stripDeploymentBindings : Json → Json
  | .obj entries => .obj (stripEntries entries)
  | .arr items => .arr (stripItems items)
  | value => value

def stripItems : List Json → List Json
  | [] => []
  | item :: items => item.stripDeploymentBindings :: stripItems items

def stripEntries : List (String × Json) → List (String × Json)
  | [] => []
  | (key, item) :: entries =>
      if key = "access_binding" then stripEntries entries
      else (key, item.stripDeploymentBindings) :: stripEntries entries

end

end Json

namespace ResourceRef

/-- `model_dump(mode="json", exclude_none=True)`. -/
def dump (ref : ResourceRef) : Json :=
  .ofFields [("resource_id", .str ref.resourceId),
    ("version_or_digest", .ofOption ref.versionOrDigest), ("access_binding", ref.accessBinding),
    ("identity_criterion", .ofOption ref.identityCriterion), ("provenance", .arr ref.provenance)]

/-- The reference without its access binding. -/
def unbound (free : Json → Json) (ref : ResourceRef) : ResourceRef :=
  { ref with accessBinding := .obj [], provenance := ref.provenance.map free }

end ResourceRef

/-- `ExecutionContract.model_dump`. -/
def ExecutionContract.dump (execution : ExecutionContract) : Json :=
  .ofFields [("kind", .str execution.kind), ("version", .str execution.version)]

namespace NodeInputBinding

/-- `NodeInputBinding.model_dump`. -/
def dump (binding : NodeInputBinding) : Json :=
  .ofFields [("node_id", .str binding.nodeId), ("input_ref", binding.inputRef.dump),
    ("provenance", .arr binding.provenance)]

def unbound (free : Json → Json) (binding : NodeInputBinding) : NodeInputBinding :=
  { binding with
    inputRef := binding.inputRef.unbound free, provenance := binding.provenance.map free }

end NodeInputBinding

/-! ### Terms and constraints -/

structure TypedTerm where
  termId : String := ""
  kind : String
  schemaRef : String
  value : Json
  criticality : String := "required"
  constraintRef : Json := .null
  refinementRelationRef : Option String := none
  provenance : List Json := []
  deriving Repr, DecidableEq, Inhabited

namespace TypedTerm

def dump (term : TypedTerm) : Json :=
  .ofFields [("term_id", .str term.termId), ("kind", .str term.kind),
    ("schema_ref", .str term.schemaRef), ("value", term.value),
    ("criticality", .str term.criticality), ("constraint_ref", term.constraintRef),
    ("refinement_relation_ref", .ofOption term.refinementRelationRef),
    ("provenance", .arr term.provenance)]

def unbound (free : Json → Json) (term : TypedTerm) : TypedTerm :=
  { term with
    value := free term.value, constraintRef := free term.constraintRef
    provenance := term.provenance.map free }

end TypedTerm

structure ConstraintRef where
  constraintId : String
  version : String := "1"
  digest : String
  deriving Repr, DecidableEq, Inhabited

def ConstraintRef.dump (ref : ConstraintRef) : Json :=
  .ofFields [("constraint_id", .str ref.constraintId), ("version", .str ref.version),
    ("digest", .str ref.digest)]

structure Constraint where
  subject : List String := []
  predicate : Json
  source : String := "Requester"
  fate : String := "preserve"
  relaxability : String := "RequesterMayRelax"
  enforcement : String := "AdmissionBlock"
  propagation : Json := .obj []
  evidenceRequirements : List Json := []
  constraintId : String := ""
  deriving Repr, DecidableEq, Inhabited

namespace Constraint

def dump (constraint : Constraint) : Json :=
  .ofFields [("subject", .ofList .str constraint.subject), ("predicate", constraint.predicate),
    ("source", .str constraint.source), ("fate", .str constraint.fate),
    ("relaxability", .str constraint.relaxability), ("enforcement", .str constraint.enforcement),
    ("propagation", constraint.propagation),
    ("evidence_requirements", .arr constraint.evidenceRequirements),
    ("constraint_id", .str constraint.constraintId)]

def unbound (free : Json → Json) (constraint : Constraint) : Constraint :=
  { constraint with
    predicate := free constraint.predicate, propagation := free constraint.propagation
    evidenceRequirements := constraint.evidenceRequirements.map free }

end Constraint

/-! ### The parts of a closure -/

namespace Closure

structure DataApplication where
  logicalInputs : List ResourceRef := []
  identityCriterion : String := "content_digest"
  expectedCardinality : String := "unknown"
  terms : List TypedTerm := []
  deriving Repr, DecidableEq, Inhabited

namespace DataApplication

def dump (data : DataApplication) : Json :=
  .ofFields [("logical_inputs", .ofList ResourceRef.dump data.logicalInputs),
    ("identity_criterion", .str data.identityCriterion),
    ("expected_cardinality", .str data.expectedCardinality),
    ("terms", .ofList TypedTerm.dump data.terms)]

def unbound (free : Json → Json) (data : DataApplication) : DataApplication :=
  { data with
    logicalInputs := data.logicalInputs.map (ResourceRef.unbound free)
    terms := data.terms.map (TypedTerm.unbound free) }

end DataApplication

structure DataSystems where
  locality : String := "workspace"
  classification : String := "internal"
  accessProfile : Json := .obj []
  retentionProfile : Json := .obj []
  terms : List TypedTerm := []
  deriving Repr, DecidableEq, Inhabited

namespace DataSystems

def dump (data : DataSystems) : Json :=
  .ofFields [("locality", .str data.locality), ("classification", .str data.classification),
    ("access_profile", data.accessProfile), ("retention_profile", data.retentionProfile),
    ("terms", .ofList TypedTerm.dump data.terms)]

def unbound (free : Json → Json) (data : DataSystems) : DataSystems :=
  { data with
    accessProfile := free data.accessProfile, retentionProfile := free data.retentionProfile
    terms := data.terms.map (TypedTerm.unbound free) }

end DataSystems

structure ProgramApplication where
  operationRef : String := ""
  inputSchema : Json := .null
  outputSchema : Json := .null
  successSemantics : Json := .null
  ioContractRef : Option ResourceRef := none
  terms : List TypedTerm := []
  deriving Repr, DecidableEq, Inhabited

namespace ProgramApplication

def dump (program : ProgramApplication) : Json :=
  .ofFields [("operation_ref", .str program.operationRef), ("input_schema", program.inputSchema),
    ("output_schema", program.outputSchema), ("success_semantics", program.successSemantics),
    ("io_contract_ref", .ofOptional ResourceRef.dump program.ioContractRef),
    ("terms", .ofList TypedTerm.dump program.terms)]

def unbound (free : Json → Json) (program : ProgramApplication) : ProgramApplication :=
  { program with
    inputSchema := free program.inputSchema, outputSchema := free program.outputSchema
    successSemantics := free program.successSemantics
    ioContractRef := program.ioContractRef.map (ResourceRef.unbound free)
    terms := program.terms.map (TypedTerm.unbound free) }

end ProgramApplication

structure ProgramSystems where
  execution : ExecutionContract := {}
  effectClass : String := "Known"
  permissions : List String := []
  packageRef : Option ResourceRef := none
  replaySafety : String := "Idempotent"
  terms : List TypedTerm := []
  deriving Repr, DecidableEq, Inhabited

namespace ProgramSystems

def dump (program : ProgramSystems) : Json :=
  .ofFields [("execution", program.execution.dump), ("effect_class", .str program.effectClass),
    ("permissions", .ofList .str program.permissions),
    ("package_ref", .ofOptional ResourceRef.dump program.packageRef),
    ("replay_safety", .str program.replaySafety), ("terms", .ofList TypedTerm.dump program.terms)]

def unbound (free : Json → Json) (program : ProgramSystems) : ProgramSystems :=
  { program with
    packageRef := program.packageRef.map (ResourceRef.unbound free)
    terms := program.terms.map (TypedTerm.unbound free) }

end ProgramSystems

structure ComputeApplication where
  capabilityIntent : String := "cpu"
  requirementRefs : List String := []
  resultExpectation : Json := .obj []
  terms : List TypedTerm := []
  deriving Repr, DecidableEq, Inhabited

namespace ComputeApplication

def dump (compute : ComputeApplication) : Json :=
  .ofFields [("capability_intent", .str compute.capabilityIntent),
    ("requirement_refs", .ofList .str compute.requirementRefs),
    ("result_expectation", compute.resultExpectation),
    ("terms", .ofList TypedTerm.dump compute.terms)]

def unbound (free : Json → Json) (compute : ComputeApplication) : ComputeApplication :=
  { compute with
    resultExpectation := free compute.resultExpectation
    terms := compute.terms.map (TypedTerm.unbound free) }

end ComputeApplication

structure ComputeSystems where
  requirementRefs : List String := []
  admissionRequirements : List String := []
  terms : List TypedTerm := []
  deriving Repr, DecidableEq, Inhabited

namespace ComputeSystems

def dump (compute : ComputeSystems) : Json :=
  .ofFields [("requirement_refs", .ofList .str compute.requirementRefs),
    ("admission_requirements", .ofList .str compute.admissionRequirements),
    ("terms", .ofList TypedTerm.dump compute.terms)]

def unbound (free : Json → Json) (compute : ComputeSystems) : ComputeSystems :=
  { compute with terms := compute.terms.map (TypedTerm.unbound free) }

end ComputeSystems

structure ComputeRequirement where
  requirementId : String := ""
  key : String
  value : Json
  view : String
  constraintRef : Option ConstraintRef := none
  deriving Repr, DecidableEq, Inhabited

namespace ComputeRequirement

def dump (requirement : ComputeRequirement) : Json :=
  .ofFields [("requirement_id", .str requirement.requirementId), ("key", .str requirement.key),
    ("value", requirement.value), ("view", .str requirement.view),
    ("constraint_ref", .ofOptional ConstraintRef.dump requirement.constraintRef)]

def unbound (free : Json → Json) (requirement : ComputeRequirement) : ComputeRequirement :=
  { requirement with value := free requirement.value }

end ComputeRequirement

structure TypedHole where
  holeId : String
  type : String := "ComputeRealization"
  constraintRefs : List ConstraintRef := []
  status : String := "unbound"
  bindingRef : Option String := none
  providerFillable : Bool := false
  deriving Repr, DecidableEq, Inhabited

def TypedHole.dump (hole : TypedHole) : Json :=
  .ofFields [("hole_id", .str hole.holeId), ("type", .str hole.type),
    ("constraint_refs", .ofList ConstraintRef.dump hole.constraintRefs),
    ("status", .str hole.status), ("binding_ref", .ofOption hole.bindingRef),
    ("provider_fillable", .bool hole.providerFillable)]

structure ComputeSpec where
  capabilityRequirements : List TypedTerm := []
  operationRef : String := ""
  requirements : List ComputeRequirement := []
  typedHoles : List TypedHole := []
  terms : List TypedTerm := []
  deriving Repr, DecidableEq, Inhabited

namespace ComputeSpec

def dump (compute : ComputeSpec) : Json :=
  .ofFields [("capability_requirements", .ofList TypedTerm.dump compute.capabilityRequirements),
    ("operation_ref", .str compute.operationRef),
    ("requirements", .ofList ComputeRequirement.dump compute.requirements),
    ("typed_holes", .ofList TypedHole.dump compute.typedHoles),
    ("terms", .ofList TypedTerm.dump compute.terms)]

def unbound (free : Json → Json) (compute : ComputeSpec) : ComputeSpec :=
  { compute with
    capabilityRequirements := compute.capabilityRequirements.map (TypedTerm.unbound free)
    requirements := compute.requirements.map (ComputeRequirement.unbound free)
    terms := compute.terms.map (TypedTerm.unbound free) }

end ComputeSpec

structure ComputeBinding where
  bindingId : String
  holeId : String
  capabilityDescriptorRef : ResourceRef
  capabilityPackageRef : Option ResourceRef := none
  targetResourceRef : ResourceRef
  constraintEvidenceRefs : List String := []
  boundBy : String := "driver"
  boundAt : String := ""
  runtimeProfile : Json := .obj []
  activationRef : Option String := none
  deriving Repr, DecidableEq, Inhabited

namespace ComputeBinding

def dump (binding : ComputeBinding) : Json :=
  .ofFields [("binding_id", .str binding.bindingId), ("hole_id", .str binding.holeId),
    ("capability_descriptor_ref", binding.capabilityDescriptorRef.dump),
    ("capability_package_ref", .ofOptional ResourceRef.dump binding.capabilityPackageRef),
    ("target_resource_ref", binding.targetResourceRef.dump),
    ("constraint_evidence_refs", .ofList .str binding.constraintEvidenceRefs),
    ("bound_by", .str binding.boundBy), ("bound_at", .str binding.boundAt),
    ("runtime_profile", binding.runtimeProfile),
    ("activation_ref", .ofOption binding.activationRef)]

def unbound (free : Json → Json) (binding : ComputeBinding) : ComputeBinding :=
  { binding with
    capabilityDescriptorRef := binding.capabilityDescriptorRef.unbound free
    capabilityPackageRef := binding.capabilityPackageRef.map (ResourceRef.unbound free)
    targetResourceRef := binding.targetResourceRef.unbound free
    runtimeProfile := free binding.runtimeProfile }

end ComputeBinding

end Closure

/-! ### The closure -/

/-- `TaskClosure`. -/
structure Closure where
  closureId : String := "closure-default"
  schemaVersion : String := "1"
  data : Closure.DataApplication := {}
  dataSystems : Closure.DataSystems := {}
  program : Closure.ProgramApplication := {}
  programSystems : Closure.ProgramSystems := {}
  nodeInputBindings : List NodeInputBinding := []
  compute : Closure.ComputeSpec := {}
  computeBindings : List Closure.ComputeBinding := []
  computeApplication : Closure.ComputeApplication := {}
  computeSystems : Closure.ComputeSystems := {}
  terms : List TypedTerm := []
  constraints : List Constraint := []
  metadata : Json := .obj []
  deriving Repr, DecidableEq, Inhabited

namespace Closure

/-- `self.model_dump(mode="json", exclude_none=True)`. -/
def dump (closure : Closure) : Json :=
  .ofFields [("closure_id", .str closure.closureId),
    ("schema_version", .str closure.schemaVersion), ("data", closure.data.dump),
    ("data_systems", closure.dataSystems.dump), ("program", closure.program.dump),
    ("program_systems", closure.programSystems.dump),
    ("node_input_bindings", .ofList NodeInputBinding.dump closure.nodeInputBindings),
    ("compute", closure.compute.dump),
    ("compute_bindings", .ofList ComputeBinding.dump closure.computeBindings),
    ("compute_application", closure.computeApplication.dump),
    ("compute_systems", closure.computeSystems.dump),
    ("terms", .ofList TypedTerm.dump closure.terms),
    ("constraints", .ofList Constraint.dump closure.constraints),
    ("metadata", closure.metadata)]

def unbound (free : Json → Json) (closure : Closure) : Closure :=
  { closure with
    data := closure.data.unbound free, dataSystems := closure.dataSystems.unbound free
    program := closure.program.unbound free
    programSystems := closure.programSystems.unbound free
    nodeInputBindings := closure.nodeInputBindings.map (NodeInputBinding.unbound free)
    compute := closure.compute.unbound free
    computeBindings := closure.computeBindings.map (ComputeBinding.unbound free)
    computeApplication := closure.computeApplication.unbound free
    computeSystems := closure.computeSystems.unbound free
    terms := closure.terms.map (TypedTerm.unbound free)
    constraints := closure.constraints.map (Constraint.unbound free)
    metadata := free closure.metadata }

/-- The canonical JSON that `canonical_digest` hashes. -/
def digestPayload (closure : Closure) : Json :=
  closure.dump.stripDeploymentBindings.canonical

/-- `canonical_digest`: `hash` is what becomes of the canonical JSON. -/
def canonicalDigest {Digest : Type} (hash : Json → Digest) (closure : Closure) : Digest :=
  hash closure.digestPayload

end Closure

end Loom
