import Loom.Json
import Mathlib.Data.List.Basic

/-!
# JSON Schema

The eight keywords of Draft 2020-12 that assert something of one value or descend into it by
`properties` and `items`: which schemas are valid, and which failures a value has. The other
keywords of the standard appear by the places where they hold subschemas.
-/

namespace Loom

namespace JsonSchema

/-! ### Values -/

/-- The types of a value: a number without a fraction is an integer. -/
def typesOf : Json → List String
  | .null => ["null"]
  | .bool _ => ["boolean"]
  | .int _ => ["integer", "number"]
  | .float number => if number.den = 1 then ["integer", "number"] else ["number"]
  | .str _ => ["string"]
  | .arr _ => ["array"]
  | .obj _ => ["object"]

/-- The names of types. -/
def simpleTypes : List String :=
  ["array", "boolean", "integer", "null", "number", "object", "string"]

/-- The value of a number; booleans are none. -/
def numberOf : Json → Option ℚ
  | .int number => some number
  | .float number => some number
  | _ => none

mutual

/-- The values are equal: numbers by value, objects without regard to order. -/
def equal : (left right : Json) → Bool
  | .null, .null => true
  | .bool left, .bool right => left = right
  | .str left, .str right => left = right
  | .arr lefts, .arr rights => equalItems lefts rights
  | .obj lefts, .obj rights => lefts.length = rights.length && equalEntries lefts rights
  | left, right =>
      match numberOf left, numberOf right with
      | some left, some right => left = right
      | _, _ => false

def equalItems : (left right : List Json) → Bool
  | [], [] => true
  | left :: lefts, right :: rights => equal left right && equalItems lefts rights
  | _, _ => false

def equalEntries : (left right : Dict) → Bool
  | [], _ => true
  | (key, left) :: lefts, rights =>
      (match rights.lookup key with
        | some right => equal left right
        | none => false) && equalEntries lefts rights

end

/-! ### Schemas -/

/-- The names of types that `type` lists. -/
def typeNames : Json → List Json
  | .arr names => names
  | name => [name]

/-- The value is one of the names of types. -/
def isTypeName : Json → Bool
  | .str name => simpleTypes.contains name
  | _ => false

def isString : Json → Bool
  | .str _ => true
  | _ => false

/-- The value of a keyword that holds no subschemas is one that the meta-schema allows. -/
def allows : (keyword : String) → (given : Json) → Bool
  | "type", .arr names => !names.isEmpty && names.all isTypeName && decide names.Nodup
  | "type", name => isTypeName name
  | "required", .arr names => names.all isString && decide names.Nodup
  | "required", _ => false
  | "enum", .arr _ => true
  | "enum", _ => false
  | "minimum", bound => (numberOf bound).isSome
  | "maximum", bound => (numberOf bound).isSome
  | _, _ => true

/-- The keywords of an object that hold no subschemas. -/
def assertions : List String := ["type", "required", "enum", "const", "minimum", "maximum"]

/-- The assertions of an object are allowed. -/
def allowsAll (entries : Dict) : Bool :=
  assertions.all fun keyword =>
    match entries.lookup keyword with
    | some given => allows keyword given
    | none => true

mutual

/-- A valid schema of Draft 2020-12, as far as the eight keywords tell. -/
def isValid : Json → Bool
  | .bool _ => true
  | .obj entries => allowsAll entries && validProperties entries && validItems entries
  | _ => false

/-- `properties` is an object of valid schemas. -/
def validProperties : Dict → Bool
  | [] => true
  | (keyword, given) :: rest =>
      if keyword = "properties" then
        match given with
        | .obj children => validChildren children
        | _ => false
      else validProperties rest

def validChildren : Dict → Bool
  | [] => true
  | (_, child) :: rest => isValid child && validChildren rest

/-- `items` is a valid schema. -/
def validItems : Dict → Bool
  | [] => true
  | (keyword, given) :: rest => if keyword = "items" then isValid given else validItems rest

end

/-- How a keyword holds subschemas. -/
inductive Applicator where
  | one
  | many
  | named
  deriving Repr, DecidableEq

/-- The keywords of Draft 2020-12 that hold subschemas. -/
def applicators : List (String × Applicator) :=
  [("items", .one), ("contains", .one), ("additionalProperties", .one), ("propertyNames", .one),
    ("not", .one), ("if", .one), ("then", .one), ("else", .one), ("unevaluatedItems", .one),
    ("unevaluatedProperties", .one), ("contentSchema", .one),
    ("allOf", .many), ("anyOf", .many), ("oneOf", .many), ("prefixItems", .many),
    ("properties", .named), ("patternProperties", .named), ("dependentSchemas", .named),
    ("$defs", .named), ("definitions", .named), ("dependencies", .named)]

/-- The subschemas that the value of a keyword holds. -/
def Applicator.subschemas : Applicator → Json → List Json
  | .one, given => [given]
  | .many, .arr items => items
  | .named, .obj entries => entries.map Prod.snd
  | _, _ => []

/-- The schemas inside a schema, at any depth. -/
inductive Subschema : Json → Json → Prop where
  | refl (schema : Json) : Subschema schema schema
  | step {entries : Dict} {keyword : String} {applicator : Applicator} {given child below : Json}
      (known : (keyword, applicator) ∈ applicators) (present : entries.lookup keyword = some given)
      (isChild : child ∈ applicator.subschemas given) (inside : Subschema child below) :
      Subschema (.obj entries) below

/-! ### Failures -/

/-- A step of the path to a value. -/
inductive Part where
  | index (position : Nat)
  | property (name : String)
  deriving Repr, DecidableEq

/-- A failure of a value: where, which keyword, what the keyword asks for, and the value there. A
schema that is `false` has no keyword; where it is the schema of a property, the failure is one of
the object, with the value of the property. -/
structure Failure where
  path : List Part
  keyword : Option String
  asked : Json
  value : Json
  deriving DecidableEq

/-- A failure of a value inside another. -/
def Failure.under (part : Part) (failure : Failure) : Failure :=
  { failure with path := part :: failure.path }

/-- How often a keyword reports a value, what its subschemas report apart. -/
def reports : (keyword : String) → (given value : Json) → Nat
  | "type", given, value =>
      if (typeNames given).any fun name => ((typesOf value).map Json.str).contains name then 0
      else 1
  | "required", .arr names, .obj fields =>
      names.countP fun name => !(fields.map fun field => Json.str field.1).contains name
  | "enum", .arr choices, value => if choices.any fun choice => equal choice value then 0 else 1
  | "const", given, value => if equal value given then 0 else 1
  | "minimum", given, value =>
      match numberOf given, numberOf value with
      | some bound, some number => if number < bound then 1 else 0
      | _, _ => 0
  | "maximum", given, value =>
      match numberOf given, numberOf value with
      | some bound, some number => if bound < number then 1 else 0
      | _, _ => 0
  | "items", .bool false, .arr (_ :: _) => 1
  | _, _, _ => 0

/-- The failures of a value. -/
inductive Fails : (schema value : Json) → Failure → Prop where
  | never (value : Json) :
      Fails (.bool false) value { path := [], keyword := none, asked := .null, value := value }
  | keyword {entries : Dict} {keyword : String} {given value : Json}
      (present : entries.lookup keyword = some given) (reported : 0 < reports keyword given value) :
      Fails (.obj entries) value
        { path := [], keyword := some keyword, asked := given, value := value }
  | property {entries children fields : Dict} {name : String} {child field : Json}
      {failure : Failure} (present : entries.lookup "properties" = some (.obj children))
      (declared : children.lookup name = some child) (notFalse : child ≠ .bool false)
      (given : fields.lookup name = some field) (fails : Fails child field failure) :
      Fails (.obj entries) (.obj fields) (failure.under (.property name))
  | forbidden {entries children fields : Dict} {name : String} {field : Json}
      (present : entries.lookup "properties" = some (.obj children))
      (declared : children.lookup name = some (.bool false))
      (given : fields.lookup name = some field) :
      Fails (.obj entries) (.obj fields)
        { path := [], keyword := none, asked := .null, value := field }
  | item {entries : Dict} {items : List Json} {child item : Json} {position : Nat}
      {failure : Failure} (present : entries.lookup "items" = some child)
      (notFalse : child ≠ .bool false) (given : items[position]? = some item)
      (fails : Fails child item failure) :
      Fails (.obj entries) (.arr items) (failure.under (.index position))

/-- The failures of the items of an array. -/
def itemFailures (fails : Json → List Failure) (items : List Json) : List Failure :=
  (items.zipIdx).flatMap fun (item, position) => (fails item).map (Failure.under (.index position))

mutual

/-- The failures of a value, in the order of the keywords. -/
def failures : (schema value : Json) → List Failure
  | .bool false, value => [{ path := [], keyword := none, asked := .null, value := value }]
  | .obj entries, value => keywordFailures [] entries value
  | _, _ => []

/-- What the keywords report that are not among those seen. -/
def keywordFailures (seen : List String) : Dict → Json → List Failure
  | [], _ => []
  | (keyword, given) :: rest, value =>
      (if keyword ∈ seen then []
        else
          List.replicate (reports keyword given value)
              { path := [], keyword := some keyword, asked := given, value := value } ++
            if keyword = "properties" then
              match given, value with
              | .obj children, .obj fields => childFailures [] children fields
              | _, _ => []
            else if keyword = "items" then
              match value with
              | .arr items =>
                  if given = .bool false then [] else itemFailures (failures given) items
              | _ => []
            else []) ++
        keywordFailures (keyword :: seen) rest value

/-- What the properties report that are not among those seen. -/
def childFailures (seen : List String) : Dict → Dict → List Failure
  | [], _ => []
  | (name, child) :: rest, fields =>
      (if name ∈ seen then []
        else
          match fields.lookup name with
          | some field =>
              if child = .bool false then failures child field
              else (failures child field).map (Failure.under (.property name))
          | none => []) ++
        childFailures (name :: seen) rest fields

end

/-! ### Places -/

/-- The subschema of a place. -/
def schemaAt : Json → List Part → Option Json
  | schema, [] => some schema
  | .obj entries, .index _ :: parts =>
      match entries.lookup "items" with
      | some child => schemaAt child parts
      | none => none
  | .obj entries, .property name :: parts =>
      match entries.lookup "properties" with
      | some (.obj children) =>
          match children.lookup name with
          | some child => schemaAt child parts
          | none => none
      | _ => none
  | _, _ => none

/-- The value of a place. -/
def valueAt : Json → List Part → Option Json
  | value, [] => some value
  | .arr items, .index position :: parts =>
      match items[position]? with
      | some item => valueAt item parts
      | none => none
  | .obj fields, .property name :: parts =>
      match fields.lookup name with
      | some field => valueAt field parts
      | none => none
  | _, _ => none

/-- The subschema reports with the keyword, and asks for the value. -/
inductive Asks : (schema : Json) → (keyword : Option String) → (asked : Json) → Prop where
  | never : Asks (.bool false) none .null
  | keyword {entries : Dict} {keyword : String} {given value : Json}
      (present : entries.lookup keyword = some given) (reported : 0 < reports keyword given value) :
      Asks (.obj entries) (some keyword) given
  | forbidden {entries children : Dict} {name : String}
      (present : entries.lookup "properties" = some (.obj children))
      (declared : children.lookup name = some (.bool false)) : Asks (.obj entries) none .null

/-- A failure tells the place of a subschema, and what this asks for. -/
theorem Fails.place {schema value : Json} {failure : Failure} (fails : Fails schema value failure) :
    ∃ sub, schemaAt schema failure.path = some sub ∧ Asks sub failure.keyword failure.asked := by
  induction fails with
  | never value => exact ⟨_, by rw [schemaAt], Asks.never⟩
  | keyword present reported => exact ⟨_, by rw [schemaAt], Asks.keyword present reported⟩
  | forbidden present declared _ => exact ⟨_, by rw [schemaAt], Asks.forbidden present declared⟩
  | property present declared _ given _ ih =>
      obtain ⟨sub, isSub, asks⟩ := ih
      refine ⟨sub, ?_, asks⟩
      simp only [Failure.under, schemaAt, present, declared]
      exact isSub
  | item present _ given _ ih =>
      obtain ⟨sub, isSub, asks⟩ := ih
      refine ⟨sub, ?_, asks⟩
      simp only [Failure.under, schemaAt, present]
      exact isSub

/-- What a keyword reports is the value of the place. -/
theorem Fails.value_eq {schema value : Json} {failure : Failure}
    (fails : Fails schema value failure)
    (named : failure.keyword ≠ none) : valueAt value failure.path = some failure.value := by
  induction fails with
  | never value => exact absurd rfl named
  | keyword present reported => rw [valueAt]
  | forbidden present declared given => exact absurd rfl named
  | property present declared _ given _ ih =>
      simp only [Failure.under, valueAt, given]
      exact ih named
  | item present _ given _ ih =>
      simp only [Failure.under, valueAt, given]
      exact ih named

/-! ### The failures are failures -/

theorem mem_itemFailures {fails : Json → List Failure} {items : List Json} {failure : Failure} :
    failure ∈ itemFailures fails items ↔ ∃ position item inner, items[position]? = some item ∧
      inner ∈ fails item ∧ inner.under (.index position) = failure := by
  unfold itemFailures
  simp only [List.mem_flatMap, Prod.exists, List.mem_zipIdx_iff_getElem?, List.mem_map]
  constructor
  · rintro ⟨item, position, isItem, inner, isInner, isFailure⟩
    exact ⟨position, item, inner, isItem, isInner, isFailure⟩
  · rintro ⟨position, item, inner, isItem, isInner, isFailure⟩
    exact ⟨item, position, isItem, inner, isInner, isFailure⟩

theorem lookup_rest {entries rest : Dict} {seen : List String} {key : String} {given : Json}
    (agrees : ∀ other ∉ seen, entries.lookup other = ((key, given) :: rest).lookup other) :
    ∀ other ∉ key :: seen, entries.lookup other = rest.lookup other := by
  intro other notSeen
  simp only [List.mem_cons, not_or] at notSeen
  rw [agrees other notSeen.2, List.lookup_cons, beq_eq_false_iff_ne.2 notSeen.1]

mutual

theorem failures_sound : ∀ (schema : Json) {value : Json} {failure : Failure},
    failure ∈ failures schema value → Fails schema value failure
  | .bool false, value, failure, isMem => by
      rw [failures, List.mem_singleton] at isMem
      subst isMem
      exact Fails.never value
  | .obj entries, value, failure, isMem => by
      rw [failures] at isMem
      exact keywordFailures_sound entries isMem fun _ _ => rfl
  | .null, _, _, isMem => by simp [failures] at isMem
  | .bool true, _, _, isMem => by simp [failures] at isMem
  | .int _, _, _, isMem => by simp [failures] at isMem
  | .float _, _, _, isMem => by simp [failures] at isMem
  | .str _, _, _, isMem => by simp [failures] at isMem
  | .arr _, _, _, isMem => by simp [failures] at isMem

theorem keywordFailures_sound : ∀ (rest : Dict) {seen : List String} {entries : Dict}
    {value : Json} {failure : Failure}, failure ∈ keywordFailures seen rest value →
    (∀ keyword ∉ seen, entries.lookup keyword = rest.lookup keyword) →
    Fails (.obj entries) value failure
  | [], _, _, _, _, isMem, _ => by simp [keywordFailures] at isMem
  | (keyword, given) :: rest, seen, entries, value, failure, isMem, agrees => by
      rw [keywordFailures.eq_def] at isMem
      dsimp only at isMem
      rw [List.mem_append] at isMem
      rcases isMem with isMem | isMem
      · by_cases isSeen : keyword ∈ seen
        · simp [isSeen] at isMem
        · have present := agrees keyword isSeen
          rw [List.lookup_cons, beq_self_eq_true] at present
          rw [if_neg isSeen, List.mem_append] at isMem
          rcases isMem with isMem | isMem
          · obtain ⟨reported, rfl⟩ := List.mem_replicate.1 isMem
            exact Fails.keyword present (Nat.pos_of_ne_zero reported)
          · split at isMem
            · rename_i isProperties
              subst isProperties
              split at isMem
              · exact childFailures_sound _ isMem present fun _ _ => rfl
              · cases isMem
            · split at isMem
              · rename_i isItems
                subst isItems
                split at isMem
                · split at isMem
                  · cases isMem
                  · rename_i notFalse
                    obtain ⟨position, item, inner, isItem, isInner, rfl⟩ :=
                      mem_itemFailures.1 isMem
                    exact Fails.item present notFalse isItem (failures_sound given isInner)
                · cases isMem
              · cases isMem
      · exact keywordFailures_sound rest isMem (lookup_rest agrees)

theorem childFailures_sound : ∀ (rest : Dict) {seen : List String}
    {entries children fields : Dict} {failure : Failure},
    failure ∈ childFailures seen rest fields →
    entries.lookup "properties" = some (.obj children) →
    (∀ name ∉ seen, children.lookup name = rest.lookup name) →
    Fails (.obj entries) (.obj fields) failure
  | [], _, _, _, _, _, isMem, _, _ => by simp [childFailures] at isMem
  | (name, child) :: rest, seen, entries, children, fields, failure, isMem, present, agrees => by
      rw [childFailures, List.mem_append] at isMem
      rcases isMem with isMem | isMem
      · by_cases isSeen : name ∈ seen
        · simp [isSeen] at isMem
        · have declared := agrees name isSeen
          rw [List.lookup_cons, beq_self_eq_true] at declared
          rw [if_neg isSeen] at isMem
          split at isMem
          · rename_i field isField
            split at isMem
            · rename_i isFalse
              subst isFalse
              rw [failures, List.mem_singleton] at isMem
              subst isMem
              exact Fails.forbidden present declared isField
            · rename_i notFalse
              obtain ⟨inner, isInner, rfl⟩ := List.mem_map.1 isMem
              exact Fails.property present declared notFalse isField (failures_sound child isInner)
          · cases isMem
      · exact childFailures_sound rest isMem present (lookup_rest agrees)

end

end JsonSchema

end Loom
