import Loom.Contracts.Types
import Loom.JsonRoundTrip
import Loom.JsonSchema
import Loom.SortedBy
import Mathlib.Data.Prod.Lex
import Mathlib.Data.String.Basic

/-!
# Input and output schemas

`io_schema` rejects the schemas that are outside `io.v1` and turns the errors of the package
`jsonschema` into evidence. The package is a parameter: `Draft202012Validator.check_schema`, which
raises where it is false, and `iter_errors`.
-/

namespace Loom

namespace IoSchema

open JsonSchema

/-- `Draft202012Validator`. -/
structure Jsonschema where
  checkSchema : Json → Bool
  iterErrors : Json → Json → List Failure

/-! ### Schemas -/

/-- `SUPPORTED_KEYWORDS`. -/
def supportedKeywords : List String :=
  ["type", "required", "properties", "items", "enum", "const", "minimum", "maximum"]

/-- `SchemaPolicyError(f"schema_unsupported_keyword:{keyword}")`. -/
def unsupportedKeyword (keyword : String) : Exc :=
  Exc.valueError ("schema_unsupported_keyword:" ++ keyword)

/-- The keywords of one schema. -/
def rejectKeywords : Dict → Except Exc Unit
  | [] => .ok ()
  | (keyword, _) :: rest =>
      if keyword ∈ supportedKeywords then rejectKeywords rest
        else .error (unsupportedKeyword keyword)

mutual

/-- `_reject_unsupported_keywords`. -/
def rejectUnsupportedKeywords : Json → Except Exc Unit
  | .obj entries => do
      rejectKeywords entries
      rejectProperties entries
      rejectItems entries
  | _ => .ok ()

/-- `schema.get("properties")` where it is a mapping. -/
def rejectProperties : Dict → Except Exc Unit
  | [] => .ok ()
  | (keyword, given) :: rest =>
      if keyword = "properties" then
        match given with
        | .obj children => rejectChildren children
        | _ => .ok ()
      else rejectProperties rest

def rejectChildren : Dict → Except Exc Unit
  | [] => .ok ()
  | (_, child) :: rest => do
      rejectUnsupportedKeywords child
      rejectChildren rest

/-- `schema.get("items")` where it is a mapping or a boolean. -/
def rejectItems : Dict → Except Exc Unit
  | [] => .ok ()
  | (keyword, given) :: rest =>
      if keyword = "items" then
        match given with
        | .obj entries => rejectUnsupportedKeywords (.obj entries)
        | .bool flag => rejectUnsupportedKeywords (.bool flag)
        | _ => .ok ()
      else rejectItems rest

end

/-- `validate_schema`. -/
def validateSchema (library : Jsonschema) (schema : Json) : Except Exc Unit := do
  rejectUnsupportedKeywords schema
  if library.checkSchema schema then .ok () else .error (Exc.valueError "schema_invalid")

/-! ### Errors -/

/-- `_json_type`. -/
def jsonType : Json → String
  | .null => "null"
  | .bool _ => "boolean"
  | .int _ | .float _ => "number"
  | .str _ => "string"
  | .arr _ => "array"
  | .obj _ => "object"

/-- A letter of ASCII or `_`. -/
def isIdentifierStart (char : Char) : Bool := char.isAlpha || char = '_'

/-- A letter or digit of ASCII or `_`. -/
def isIdentifierChar (char : Char) : Bool := char.isAlphanum || char = '_'

/-- `_IDENTIFIER.fullmatch`. -/
def isIdentifier : List Char → Bool
  | [] => false
  | first :: rest => isIdentifierStart first && rest.all isIdentifierChar

/-- A character of a string, where what is not ASCII stands for itself. -/
def escapeVerbatim (char : Char) : List Char := if '~' < char then [char] else JsonText.escape char

/-- `json.dumps(name, ensure_ascii=False)`. -/
def quoted (name : String) : List Char := '"' :: name.toList.flatMap escapeVerbatim ++ ['"']

/-- The text of a step of a path. -/
def partText : Part → List Char
  | .index position => '[' :: JsonText.numeral position ++ [']']
  | .property name =>
      if isIdentifier name.toList then '.' :: name.toList else '[' :: quoted name ++ [']']

/-- `_path`. -/
def path (parts : List Part) : String := String.ofList ('$' :: parts.flatMap partText)

/-- `str(error.validator)`. -/
def keywordText (failure : Failure) : String := failure.keyword.getD "None"

/-- `_expected`, from the keyword and its value. -/
def expected : (keyword : String) → (asked : Json) → Json
  | "required", _ => .str "required property"
  | "type", asked => asked
  | "enum", _ => .str "one of allowed values"
  | "const", _ => .str "constant"
  | "minimum", asked => asked
  | "maximum", asked => asked
  | "items", _ => .str "item schema"
  | "properties", _ => .str "property schemas"
  | _, _ => .null

/-- `_message`. -/
def message : (keyword : String) → String
  | "required" => "required property is missing"
  | "type" => "value has an invalid type"
  | "properties" => "object properties are invalid"
  | "items" => "array items are invalid"
  | "enum" => "value is not an allowed choice"
  | "const" => "value does not equal the required constant"
  | "minimum" => "number is below the minimum"
  | "maximum" => "number is above the maximum"
  | _ => "value failed schema validation"

/-- The evidence of a failure. -/
def evidence (failure : Failure) : SchemaError where
  path := path failure.path
  keyword := keywordText failure
  message := message (keywordText failure)
  expected := expected (keywordText failure) failure.asked
  observed := .str (jsonType failure.value)

/-- `(item.path, item.keyword, item.message)`. -/
def sortKey (error : SchemaError) : String ×ₗ String ×ₗ String :=
  toLex (error.path, toLex (error.keyword, error.message))

/-- `validate`. -/
def validate (library : Jsonschema) (schema value : Json) : Except Exc (List SchemaError) := do
  validateSchema library schema
  return SortedBy.sortBy sortKey ((library.iterErrors schema value).map evidence)

end IoSchema

end Loom
