import Loom.Contracts.Types
import Loom.JsonSchema
import Loom.Regex

/-!
# Package contracts

The schema of `container:http/1` in `loom_v2/contracts/package_contracts.py`, as what it accepts
under Draft 2020-12: a schema is a test of JSON values, and its keywords are the ways to put tests
together.
-/

namespace Loom

namespace PackageContracts

open Regex

/-! ### Keywords -/

/-- What a schema accepts. -/
abbrev Schema := Json → Bool

/-- `{"type": names}`. -/
def ofType (names : List String) : Schema := fun value =>
  (JsonSchema.typesOf value).any names.contains

/-- `{"const": text}`. -/
def constant (text : String) : Schema := fun value => JsonSchema.equal value (.str text)

/-- `{"type": "string", "minLength": length}`. -/
def textOf (length : Nat) : Schema
  | .str text => length ≤ text.length
  | _ => false

/-- `{"type": "string", "pattern": pattern}`, where the pattern is searched for. -/
def matching (pattern : Regex) : Schema
  | .str text => pattern.search text
  | _ => false

/-- `{"type": "integer", "minimum": least, "maximum": most}`. -/
def integer (least most : ℚ) : Schema := fun value =>
  ofType ["integer"] value &&
    match JsonSchema.numberOf value with
    | some number => least ≤ number && number ≤ most
    | none => true

/-- `{"type": "array", "minItems": least, "items": items}`. -/
def array (least : Nat) (items : Schema) : Schema
  | .arr values => least ≤ values.length && values.all items
  | _ => false

/-- `{"type": "object", "required": required, "properties": properties,
"additionalProperties": False}`. -/
def object (required : List String) (properties : List (String × Schema)) : Schema
  | .obj entries =>
      required.all (Dict.has entries) &&
        properties.all (fun (name, schema) => !Dict.has entries name ||
          schema (Dict.get entries name)) &&
        entries.all fun (name, _) => (properties.map Prod.fst).contains name
  | _ => false

/-! ### Patterns -/

/-- `[a-z0-9]`. -/
def isLowerAlnum (char : Char) : Bool := char.isDigit || ('a' ≤ char && char ≤ 'z')

/-- `[0-9a-f]`. -/
def isLowerHex (char : Char) : Bool := char.isDigit || ('a' ≤ char && char ≤ 'f')

/-- `_LOWER_SHA256`. -/
def lowerSha256 : Regex := times (char isLowerHex) 64

/-- `^body$`. -/
def anchored (body : Regex) : Regex := seq start (seq body stop)

/-- `_CONTENT_RESOURCE_ID_PATTERN`. -/
def contentResourceIdPattern : Regex :=
  anchored (seq (literal "content://sha256/".toList) lowerSha256)

/-- `[^?#\\\u0000-\u0020\u007f]`. -/
def isPathChar (char : Char) : Bool :=
  !(['?', '#', '\\', '\x7f'].contains char) && decide (' ' < char)

/-- `_ORIGIN_PATH_PATTERN`. -/
def originPathPattern : Regex :=
  anchored (concat [literal ['/'], notAhead (literal ['/']), star (char isPathChar)])

/-- `[a-z0-9](?:[a-z0-9.-]*[a-z0-9])?`. -/
def hostPattern : Regex :=
  seq (char isLowerAlnum)
    (opt (seq (star (char fun char => isLowerAlnum char || char = '.' || char = '-'))
      (char isLowerAlnum)))

/-- `[a-z0-9]+(?:[._-][a-z0-9]+)*`. -/
def componentPattern : Regex :=
  seq (plus (char isLowerAlnum))
    (star (seq (char fun char => char = '.' || char = '_' || char = '-')
      (plus (char isLowerAlnum))))

/-- The pattern of an image with its digest, without anchors. -/
def digestRefBody : Regex :=
  concat [hostPattern, opt (seq (literal [':']) (plus (char Char.isDigit))), literal ['/'],
    star (seq componentPattern (literal ['/'])), componentPattern,
    literal "@sha256:".toList, lowerSha256]

/-- `_OCI_DIGEST_REF_PATTERN`. -/
def ociDigestRefPattern : Regex := anchored digestRefBody

/-! ### Schemas -/

/-- The properties of `_RESOURCE_REF_SCHEMA`, where some are given anew. -/
def refProperties (resourceId versionOrDigest identityCriterion : Schema) :
    List (String × Schema) :=
  [("resource_id", resourceId), ("version_or_digest", versionOrDigest),
    ("access_binding", ofType ["object"]), ("identity_criterion", identityCriterion),
    ("provenance", array 0 (ofType ["object"]))]

/-- `_CONTENT_REF_SCHEMA`. -/
def contentRefSchema : Schema :=
  object ["resource_id", "identity_criterion"]
    (refProperties (matching contentResourceIdPattern) (ofType ["null"])
      (constant "content_digest"))

/-- `_DESCRIPTOR_REF_SCHEMA`. -/
def descriptorRefSchema : Schema :=
  object ["resource_id", "version_or_digest", "identity_criterion"]
    (refProperties (textOf 1) (matching (anchored lowerSha256)) (constant "descriptor_digest"))

/-- The schema of an export. -/
def exportSchema (runtimeBinding : Schema) : Schema :=
  object ["capability_descriptor_ref", "io_contract_ref", "effect_class", "permissions",
      "replay_safety", "runtime_binding"]
    [("capability_descriptor_ref", descriptorRefSchema), ("io_contract_ref", contentRefSchema),
      ("effect_class", ofType ["string"]), ("permissions", array 0 (ofType ["string"])),
      ("replay_safety", ofType ["string"]), ("runtime_binding", runtimeBinding)]

/-- `_contract_schema`, without `max_exports`. -/
def contractSchema (packageType executionKind executionVersion : String)
    (body runtimeBinding : Schema) : Schema :=
  object ["package_type", "execution", "capability_exports", "body"]
    [("package_type", constant packageType),
      ("execution", object ["kind", "version"]
        [("kind", constant executionKind), ("version", constant executionVersion)]),
      ("capability_exports", array 1 (exportSchema runtimeBinding)), ("body", body)]

/-- The body of a service. -/
def serviceBodySchema : Schema :=
  object ["image_ref", "container_port", "health_path"]
    [("image_ref", matching ociDigestRefPattern), ("container_port", integer 1 65535),
      ("health_path", matching originPathPattern)]

/-- The runtime binding of an export of a service. -/
def serviceBindingSchema : Schema := object ["path"] [("path", matching originPathPattern)]

/-- `CONTAINER_HTTP_V1_SCHEMA`. -/
def containerHttpV1Schema : Schema :=
  contractSchema "service" "container:http" "1" serviceBodySchema serviceBindingSchema

end PackageContracts

end Loom
