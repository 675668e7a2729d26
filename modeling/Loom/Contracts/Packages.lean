import Loom.Contracts.Refs
import Loom.SortedBy
import Mathlib.Data.String.Basic
import Mathlib.Data.Prod.Lex

/-!
# Package manifests and their digest

`CapabilityPackageVersion` of `loom_v2/contracts/types.py`: the checks of a manifest and of its
exports, the identity payload and the digest.  The digest is a function of the canonical JSON of the
payload, in which the entries of objects are in the order of their keys.
-/

namespace Loom

open SortedBy

/-- What the contracts of packages use: `str.lower`, `str` of a value that is not a string,
`json.dumps` with sorted keys, and `package_contract_registry.validate`. -/
structure ManifestEnv where
  lower : String → String
  str : Json → String
  dumps : Json → String
  contract : Json → Except Exc Unit

namespace Json

mutual

/-- The value with the entries of its objects in the order of their keys. -/
def canonical : Json → Json
  | .arr items => .arr (canonicalItems items)
  | .obj entries => .obj (sortBy Prod.fst (canonicalEntries entries))
  | value => value

def canonicalItems : List Json → List Json
  | [] => []
  | item :: items => canonical item :: canonicalItems items

def canonicalEntries : List (String × Json) → List (String × Json)
  | [] => []
  | (key, value) :: entries => (key, canonical value) :: canonicalEntries entries

end

theorem canonicalItems_eq (items : List Json) : canonicalItems items = items.map canonical := by
  induction items with
  | nil => rfl
  | cons item items ih => rw [canonicalItems, List.map_cons, ih]

theorem canonicalEntries_eq (entries : Dict) : canonicalEntries entries =
    entries.map fun entry => (entry.1, entry.2.canonical) := by
  induction entries with
  | nil => rfl
  | cons entry entries ih =>
      obtain ⟨key, value⟩ := entry
      rw [canonicalEntries, List.map_cons, ih]

end Json

/-- `str(value)`. -/
def ManifestEnv.text (env : ManifestEnv) : Json → String
  | .str text => text
  | value => env.str value

def resourceRefFields : List String :=
  ["resource_id", "version_or_digest", "access_binding", "identity_criterion", "provenance"]

/-- `"resource_id" in value and set(value) <= resource_ref_fields`. -/
def isResourceRef (entries : Dict) : Bool :=
  Dict.has entries "resource_id" && entries.all fun entry => resourceRefFields.contains entry.1

/-- The version or digest that is part of the identity of a reference. -/
def refVersion (env : ManifestEnv) (entries : Dict) (resourceId : String) : Json :=
  let version := Dict.get entries "version_or_digest"
  if isContentId resourceId then
    if Dict.get entries "identity_criterion" = .str "descriptor_digest" then
      if version = .null then .null else .str (env.lower (env.text version))
    else .null
  else
    match version with
    | .str text => if isHexDigest text then .str (env.lower text) else .str text
    | other => other

/-- The fields that identify a reference. -/
def refIdentity (env : ManifestEnv) (resourceId : String) (version criterion : Json) : Dict :=
  [("resource_id", .str (if isContentId resourceId then env.lower resourceId else resourceId))] ++
    (if version = .null then [] else [("version_or_digest", version)]) ++
    if criterion = .null then []
    else [("identity_criterion", .str (env.lower (env.text criterion)))]

/-- The identity of a reference, without its deployment. -/
def normalizeRef (env : ManifestEnv) (entries : Dict) : Dict :=
  let resourceId := env.text ((Dict.get entries "resource_id").orElse (.str ""))
  refIdentity env resourceId (refVersion env entries resourceId)
    (Dict.get entries "identity_criterion")

/-- What `capability_exports` are sorted by: the identity of the descriptor, or the text of an item
that is not an object. -/
inductive ExportKey where
  | descriptor (resourceId versionOrDigest : String)
  | text (shown : String)
  deriving Repr, DecidableEq

def ExportKey.isDescriptor : ExportKey → Bool
  | .descriptor _ _ => true
  | .text _ => false

/-- The place of a key among keys of one kind. -/
def ExportKey.place : ExportKey → String ×ₗ String
  | .descriptor resourceId versionOrDigest => toLex (resourceId, versionOrDigest)
  | .text shown => toLex (shown, "")

/-- `str(ref.get(field, ""))`. -/
def refText (env : ManifestEnv) (ref : Dict) (field : String) : String :=
  env.text ((ref.lookup field).getD (.str ""))

def exportKey (env : ManifestEnv) : Json → Except Exc ExportKey
  | .obj entries =>
      match (Dict.get entries "capability_descriptor_ref").orElse (.obj []) with
      | .obj ref => .ok (.descriptor (refText env ref "resource_id")
          (refText env ref "version_or_digest"))
      | _ => .error (.attributeError "object has no attribute 'get'")
  | item => .ok (.text (env.text item))

/-- Compute a value for every item of a list. -/
def Except.each {α β : Type} (compute : α → Except Exc β) : List α → Except Exc (List β)
  | [] => .ok []
  | item :: items => do
      let value ← compute item
      let values ← Except.each compute items
      .ok (value :: values)

/-- `normalized.sort` of `capability_exports`. -/
def sortExports (env : ManifestEnv) (items : List Json) : Except Exc (List Json) := do
  let keyed ← Except.each (fun item => (exportKey env item).map fun key => (key, item)) items
  if (keyed.all fun entry => entry.1.isDescriptor) || (keyed.all fun entry => !entry.1.isDescriptor)
  then .ok ((sortBy (fun entry => entry.1.place) keyed).map Prod.snd)
  else .error (.typeError "'<' not supported between instances")

/-- The lists with set semantics that are sorted by the text of their items. -/
def setLists : List String :=
  ["permissions", "provider_fillable_hole_refs", "allowed_node_package_refs",
    "captured_secret_refs", "captured_path_refs", "effective_constraint_refs"]

/-- The order of a normalized list under a key. -/
def sortItems (env : ManifestEnv) (key : Option String) (items : List Json) :
    Except Exc (List Json) :=
  match key with
  | none => .ok items
  | some key =>
      if key = "capability_exports" then sortExports env items
      else if setLists.contains key then .ok (sortBy env.dumps items)
      else .ok items

mutual

/-- `normalize` of `_identity_payload`. -/
def normalize (env : ManifestEnv) (key : Option String) : Json → Except Exc Json
  | .obj entries =>
      if isResourceRef entries then .ok (.obj (normalizeRef env entries))
      else (normalizeEntries env entries).map .obj
  | .arr items => do
      let items ← normalizeItems env key items
      (sortItems env key items).map .arr
  | value => .ok value

def normalizeItems (env : ManifestEnv) (key : Option String) :
    List Json → Except Exc (List Json)
  | [] => .ok []
  | item :: items => do
      let item ← normalize env key item
      let items ← normalizeItems env key items
      .ok (item :: items)

def normalizeEntries (env : ManifestEnv) : Dict → Except Exc Dict
  | [] => .ok []
  | (key, value) :: entries => do
      let value ← normalize env (some key) value
      let entries ← normalizeEntries env entries
      .ok ((key, value) :: entries)

end

/-- The entries of `ref.model_dump(mode="json")`. -/
def ResourceRef.entries (ref : ResourceRef) : Dict :=
  [("resource_id", .str ref.resourceId), ("version_or_digest", .ofOption ref.versionOrDigest),
    ("access_binding", ref.accessBinding),
    ("identity_criterion", .ofOption ref.identityCriterion), ("provenance", .arr ref.provenance)]

/-- `ResourceRef.validate_identity`. -/
def ResourceRef.validateIdentity (ref : ResourceRef) : Except Exc Unit :=
  if isContentId ref.resourceId ∧ ref.versionOrDigest ≠ none ∧
      ref.identityCriterion ≠ some "descriptor_digest" then
    .error (.valueError "redundant_content_digest")
  else .ok ()

namespace CapabilityExport

/-- `model_dump(mode="json")`. -/
def toJson (exported : CapabilityExport) : Json :=
  .obj [("capability_descriptor_ref", .obj exported.capabilityDescriptorRef.entries),
    ("io_contract_ref", .obj exported.ioContractRef.entries),
    ("effect_class", .str exported.effectClass),
    ("permissions", .arr (exported.permissions.map .str)),
    ("replay_safety", .str exported.replaySafety),
    ("runtime_binding", exported.runtimeBinding)]

/-- `validate_refs`, after the checks of the references themselves. -/
def validateRefs (exported : CapabilityExport) : Except Exc Unit := do
  exported.capabilityDescriptorRef.validateIdentity
  exported.ioContractRef.validateIdentity
  let descriptor := exported.capabilityDescriptorRef
  if descriptor.resourceId = "" ∨ descriptor.identityCriterion ≠ some "descriptor_digest" ∨
      CapabilityPackageVersion.isSha256 descriptor.versionOrDigest = false then
    .error (.valueError "capability_descriptor_invalid")
  let contract := exported.ioContractRef
  if contract.identityCriterion ≠ some "content_digest" ∨
      isContentId contract.resourceId = false ∨
      CapabilityPackageVersion.isSha256 (some (contentSuffix contract.resourceId)) = false ∨
      contract.versionOrDigest ≠ none then
    .error (.valueError "capability_io_contract_ref_invalid")
  if exported.permissions.Nodup then .ok ()
  else .error (.valueError "capability_permissions_duplicate")

end CapabilityExport

namespace CapabilityPackageVersion

/-- The part of the manifest that the package contract and the digest are about. -/
def manifest (package : CapabilityPackageVersion) : Json :=
  .obj [("package_type", .str package.packageType),
    ("execution", .obj [("kind", .str package.execution.kind),
      ("version", .str package.execution.version)]),
    ("capability_exports", .arr (package.capabilityExports.map CapabilityExport.toJson)),
    ("body", .obj package.body)]

/-- `_identity_payload`. -/
def identityPayload (env : ManifestEnv) (package : CapabilityPackageVersion) : Except Exc Json :=
  normalize env none package.manifest

/-- `digest_json(self._identity_payload(), domain="loom/package/v1")`: `hash` is what becomes of the
canonical JSON. -/
def identityDigest (env : ManifestEnv) (hash : Json → Except Exc String)
    (package : CapabilityPackageVersion) : Except Exc String := do
  let payload ← identityPayload env package
  hash payload.canonical

/-- `model_post_init`. -/
def initDigest (env : ManifestEnv) (hash : Json → Except Exc String)
    (package : CapabilityPackageVersion) : Except Exc CapabilityPackageVersion := do
  let computed ← identityDigest env hash package
  if package.packageDigest = "" then .ok { package with packageDigest := computed }
  else
    let declared := env.lower package.packageDigest
    if isSha256 (some declared) = false then .error (.valueError "invalid_package_digest")
    else if declared ≠ computed then .error (.valueError "package_digest_mismatch")
    else .ok { package with packageDigest := declared }

/-- `validate_contract`. -/
def validateContract (env : ManifestEnv) (package : CapabilityPackageVersion) :
    Except Exc Unit := do
  if ¬(package.capabilityExports.map fun item =>
      (item.capabilityDescriptorRef.resourceId, item.capabilityDescriptorRef.digest)).Nodup then
    .error (.valueError "capability_export_duplicate")
  env.contract package.manifest

/-- The validation of a package manifest. -/
def validate (env : ManifestEnv) (hash : Json → Except Exc String)
    (package : CapabilityPackageVersion) : Except Exc CapabilityPackageVersion := do
  if package.capabilityExports = [] then .error (.valueError "too_short")
  let _ ← Except.each CapabilityExport.validateRefs package.capabilityExports
  let package ← initDigest env hash package
  validateContract env package
  .ok package

end CapabilityPackageVersion

/-! ### Digests for examples -/

namespace Demo

/-- The digest whose digits are all the same. -/
def digestOf (char : Char) : String := String.ofList (List.replicate 64 char)

theorem isSha256_digestOf {char : Char} (digit : char ∈ "0123456789abcdef".toList) :
    CapabilityPackageVersion.isSha256 (some (digestOf char)) = true := by
  have digits : ("0123456789abcdef".toList.all fun char =>
      char.isDigit || (decide ('a' ≤ char) && decide (char ≤ 'f'))) = true := by
    decide
  have isHex := List.all_eq_true.1 digits char digit
  simp [CapabilityPackageVersion.isSha256, digestOf, ← String.length_toList, isHex]

end Demo

end Loom
