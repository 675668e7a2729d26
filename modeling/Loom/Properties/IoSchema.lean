import Loom.Contracts.IoSchema
import Loom.Keyed
import Mathlib.Data.List.Perm.Basic

/-!
# Schema evidence holds no payload

The walk of `validate_schema` sees every subschema, and the evidence of `validate` consists of the
places of the schema, of what the schema asks for and of names of types. So values that fail at the
same places in the same way have the same evidence.
-/

namespace Loom

namespace IoSchema

open JsonSchema

/-! ### Subschemas -/

/-- The schemas that are reached through `properties` and `items`. -/
inductive Reachable : Json → Json → Prop where
  | refl (schema : Json) : Reachable schema schema
  | property {entries children : Dict} {name : String} {child below : Json}
      (present : entries.lookup "properties" = some (.obj children))
      (declared : (name, child) ∈ children) (inside : Reachable child below) :
      Reachable (.obj entries) below
  | items {entries : Dict} {child below : Json} (present : entries.lookup "items" = some child)
      (inside : Reachable child below) : Reachable (.obj entries) below

/-- A schema has no other keywords than the supported ones. -/
def UsesSupported (schema : Json) : Prop :=
  ∀ entries, schema = .obj entries → ∀ entry ∈ entries, entry.1 ∈ supportedKeywords

/-- No subschema has another keyword. -/
def Supported (schema : Json) : Prop := ∀ below, Reachable schema below → UsesSupported below

theorem supported_of_plain {schema : Json} (plain : ∀ entries, schema ≠ .obj entries) :
    Supported schema := by
  intro below reachable entries isObject
  cases reachable with
  | refl => exact absurd isObject (plain entries)
  | property present declared inside => exact absurd rfl (plain _)
  | items present inside => exact absurd rfl (plain _)

theorem supported_obj {entries : Dict} : Supported (.obj entries) ↔
    (∀ entry ∈ entries, entry.1 ∈ supportedKeywords) ∧
      (∀ children, entries.lookup "properties" = some (.obj children) →
        ∀ entry ∈ children, Supported entry.2) ∧
      ∀ child, entries.lookup "items" = some child → Supported child := by
  constructor
  · intro supported
    refine ⟨supported _ (Reachable.refl _) entries rfl, ?_, ?_⟩
    · intro children present entry isMem below inside
      exact supported below (Reachable.property present isMem inside)
    · intro child present below inside
      exact supported below (Reachable.items present inside)
  · rintro ⟨keywords, properties, items⟩ below reachable
    cases reachable with
    | refl =>
        intro others same
        cases same
        exact keywords
    | property present declared inside => exact properties _ present _ declared _ inside
    | items present inside => exact items _ present _ inside

theorem rejectKeywords_ok {entries : Dict} : rejectKeywords entries = .ok () ↔
    ∀ entry ∈ entries, entry.1 ∈ supportedKeywords := by
  induction entries with
  | nil => simp [rejectKeywords]
  | cons entry rest ih =>
      obtain ⟨keyword, given⟩ := entry
      rw [rejectKeywords]
      by_cases isSupported : keyword ∈ supportedKeywords
      · rw [if_pos isSupported, ih]
        simp [isSupported]
      · rw [if_neg isSupported]
        simp [isSupported]

/-- A step and the others go through where each does. -/
theorem bind_ok {first second : Except Exc Unit} :
    (first >>= fun _ => second) = .ok () ↔ first = .ok () ∧ second = .ok () := by
  cases first with
  | error error => simp [bind, Except.bind]
  | ok value => simp [bind, Except.bind]

mutual

/-- The walk goes through where no subschema has another keyword. -/
theorem rejectUnsupportedKeywords_ok : ∀ (schema : Json),
    rejectUnsupportedKeywords schema = .ok () ↔ Supported schema
  | .obj entries => by
      rw [rejectUnsupportedKeywords, bind_ok, bind_ok, rejectKeywords_ok, supported_obj,
        rejectProperties_ok entries, rejectItems_ok entries]
  | .null => by simp [rejectUnsupportedKeywords, supported_of_plain]
  | .bool _ => by simp [rejectUnsupportedKeywords, supported_of_plain]
  | .int _ => by simp [rejectUnsupportedKeywords, supported_of_plain]
  | .float _ => by simp [rejectUnsupportedKeywords, supported_of_plain]
  | .str _ => by simp [rejectUnsupportedKeywords, supported_of_plain]
  | .arr _ => by simp [rejectUnsupportedKeywords, supported_of_plain]

theorem rejectProperties_ok : ∀ (entries : Dict), rejectProperties entries = .ok () ↔
    ∀ children, entries.lookup "properties" = some (.obj children) →
      ∀ entry ∈ children, Supported entry.2
  | [] => by simp [rejectProperties]
  | (keyword, given) :: rest => by
      rw [rejectProperties.eq_def]
      dsimp only
      by_cases isProperties : keyword = "properties"
      · rw [if_pos isProperties, isProperties, List.lookup_cons, beq_self_eq_true]
        cases given with
        | obj children =>
            dsimp only
            rw [rejectChildren_ok children]
            simp
        | null => simp
        | bool _ => simp
        | int _ => simp
        | float _ => simp
        | str _ => simp
        | arr _ => simp
      · rw [if_neg isProperties, List.lookup_cons, beq_eq_false_iff_ne.2 (Ne.symm isProperties),
          rejectProperties_ok rest]

theorem rejectChildren_ok : ∀ (children : Dict), rejectChildren children = .ok () ↔
    ∀ entry ∈ children, Supported entry.2
  | [] => by simp [rejectChildren]
  | (name, child) :: rest => by
      rw [rejectChildren, bind_ok, rejectUnsupportedKeywords_ok child, rejectChildren_ok rest]
      simp

theorem rejectItems_ok : ∀ (entries : Dict), rejectItems entries = .ok () ↔
    ∀ child, entries.lookup "items" = some child → Supported child
  | [] => by simp [rejectItems]
  | (keyword, given) :: rest => by
      rw [rejectItems.eq_def]
      dsimp only
      by_cases isItems : keyword = "items"
      · rw [if_pos isItems, isItems, List.lookup_cons, beq_self_eq_true]
        have walked := rejectUnsupportedKeywords_ok given
        cases given with
        | obj _ => simpa using walked
        | bool _ => simpa using walked
        | null => simp [supported_of_plain]
        | int _ => simp [supported_of_plain]
        | float _ => simp [supported_of_plain]
        | str _ => simp [supported_of_plain]
        | arr _ => simp [supported_of_plain]
      · rw [if_neg isItems, List.lookup_cons, beq_eq_false_iff_ne.2 (Ne.symm isItems),
          rejectItems_ok rest]

end

/-- Where no reachable schema has another keyword, the standard allows no subschema elsewhere. -/
theorem reachable_of_subschema {schema below : Json} (inside : Subschema schema below)
    (supported : Supported schema) : Reachable schema below := by
  induction inside with
  | refl schema => exact Reachable.refl schema
  | @step entries keyword applicator given child below known present isChild _ ih =>
      obtain ⟨keywords, properties, items⟩ := supported_obj.1 supported
      have isSupported := keywords (keyword, given) (Keyed.mem_of_lookup present)
      simp only [supportedKeywords, List.mem_cons, List.not_mem_nil, or_false] at isSupported
      rcases isSupported with rfl | rfl | rfl | rfl | rfl | rfl | rfl | rfl
      all_goals simp [applicators] at known
      · subst known
        cases given with
        | obj children =>
            obtain ⟨⟨name, _⟩, isMem, rfl⟩ := List.mem_map.1 isChild
            exact Reachable.property present isMem (ih (properties children present _ isMem))
        | null => cases isChild
        | bool _ => cases isChild
        | int _ => cases isChild
        | float _ => cases isChild
        | str _ => cases isChild
        | arr _ => cases isChild
      · subst known
        obtain rfl := List.mem_singleton.1 isChild
        exact Reachable.items present (ih (items _ present))

/-! ### Paths -/

/-- Texts that begin with a run of characters of one kind, which ends there, begin with the same
run. -/
theorem run_unique {kind : Char → Bool} {run run' rest rest' : List Char}
    (isRun : ∀ char ∈ run, kind char = true) (isRun' : ∀ char ∈ run', kind char = true)
    (ends : ∀ next ∈ rest.head?, kind next = false)
    (ends' : ∀ next ∈ rest'.head?, kind next = false)
    (same : run ++ rest = run' ++ rest') : run = run' ∧ rest = rest' := by
  have front : ∀ {run rest : List Char}, (∀ char ∈ run, kind char = true) →
      (∀ next ∈ rest.head?, kind next = false) → (run ++ rest).takeWhile kind = run := by
    intro run rest isRun ends
    rw [List.takeWhile_append_of_pos isRun]
    cases rest with
    | nil => simp
    | cons next rest =>
        have isEnd := ends next rfl
        rw [List.takeWhile_cons_of_neg (by rw [isEnd]; exact Bool.false_ne_true), List.append_nil]
  have isSame : run = run' := by rw [← front isRun ends, same, front isRun' ends']
  subst isSame
  exact ⟨rfl, List.append_cancel_left same⟩

theorem numeral_injective {number other : Nat}
    (same : JsonText.numeral number = JsonText.numeral other) : number = other := by
  rw [← Nat.ofDigitChars_ten_toDigits (n := number), ← Nat.ofDigitChars_ten_toDigits (n := other)]
  exact congrArg (fun chars => Nat.ofDigitChars 10 chars 0) same

theorem numeral_begins (number : Nat) :
    ∃ first rest, JsonText.numeral number = first :: rest ∧ first.isDigit = true := by
  rcases JsonText.numeral_head number with isZero | ⟨first, rest, isFirst, isDigit, _⟩
  · exact ⟨'0', [], isZero, rfl⟩
  · exact ⟨first, rest, isFirst, isDigit⟩

theorem string_escapeVerbatim (char : Char) (rest : List Char) :
    JsonText.string (escapeVerbatim char ++ rest) =
      JsonText.prepend char (JsonText.string rest) := by
  unfold escapeVerbatim
  by_cases foreign : '~' < char
  · rw [if_pos foreign]
    refine JsonText.string_plain ?_ ?_ (le_trans (by decide) foreign.le) rest
    · rintro rfl
      exact absurd foreign (by decide)
    · rintro rfl
      exact absurd foreign (by decide)
  · rw [if_neg foreign]
    exact JsonText.string_escape char rest

/-- A quoted name is read back. -/
theorem string_quoted (name rest : List Char) :
    JsonText.string (name.flatMap escapeVerbatim ++ '"' :: rest) = .ok (name, rest) := by
  induction name with
  | nil => rfl
  | cons char name ih =>
      rw [List.flatMap_cons, List.append_assoc, string_escapeVerbatim, ih]
      rfl

theorem identifier_chars {chars : List Char} (isName : isIdentifier chars = true) :
    ∀ char ∈ chars, isIdentifierChar char = true := by
  cases chars with
  | nil => cases isName
  | cons first rest =>
      rw [isIdentifier, Bool.and_eq_true, List.all_eq_true] at isName
      intro char isMem
      rcases List.mem_cons.1 isMem with rfl | isMem
      · unfold isIdentifierStart at isName
        unfold isIdentifierChar Char.isAlphanum
        rcases Bool.or_eq_true_iff.1 isName.1 with isLetter | isLow
        · rw [isLetter, Bool.true_or, Bool.true_or]
        · rw [isLow, Bool.or_true]
      · exact isName.2 char isMem

/-- What follows a step of a path. -/
def Continues (rest : List Char) : Prop := ∀ next ∈ rest.head?, next = '.' ∨ next = '['

theorem continues_parts (parts : List Part) : Continues (parts.flatMap partText) := by
  intro next isHead
  cases parts with
  | nil => cases isHead
  | cons part parts =>
      rw [List.flatMap_cons] at isHead
      cases part with
      | index position =>
          cases isHead
          exact Or.inr rfl
      | property name =>
          rw [partText] at isHead
          split at isHead
          · cases isHead
            exact Or.inl rfl
          · cases isHead
            exact Or.inr rfl

theorem Continues.notIdentifier {rest : List Char} (continues : Continues rest) :
    ∀ next ∈ rest.head?, isIdentifierChar next = false := by
  intro next isHead
  rcases continues next isHead with rfl | rfl
  · decide
  · decide

/-- A number is not the text of a quoted name. -/
theorem numeral_ne_quoted {position : Nat} {name : String} {rest rest' : List Char} :
    JsonText.numeral position ++ rest ≠ quoted name ++ rest' := by
  intro same
  obtain ⟨first, others, isNumeral, isDigit⟩ := numeral_begins position
  rw [isNumeral] at same
  have isQuote : first = '"' := (List.cons.inj same).1
  subst isQuote
  exact absurd isDigit (by decide)

/-- A text begins with one step of a path. -/
theorem partText_unique {part other : Part} {rest rest' : List Char} (continues : Continues rest)
    (continues' : Continues rest') (same : partText part ++ rest = partText other ++ rest') :
    part = other ∧ rest = rest' := by
  have closes : ∀ (rest : List Char), ∀ next ∈ (']' :: rest).head?, next.isDigit = false := by
    intro rest next isHead
    cases isHead
    rfl
  cases part with
  | index position =>
      cases other with
      | index position' =>
          simp only [partText, List.cons_append, List.cons.injEq, true_and, List.append_assoc,
            List.nil_append] at same
          obtain ⟨isNumeral, isRest⟩ := run_unique (JsonText.numeral_digits position)
            (JsonText.numeral_digits position') (closes rest) (closes rest') same
          rw [numeral_injective isNumeral]
          exact ⟨rfl, (List.cons.inj isRest).2⟩
      | property name =>
          rw [partText, partText] at same
          split at same
          · cases (List.cons.inj same).1
          · simp only [List.cons_append, List.cons.injEq, true_and, List.append_assoc] at same
            exact (numeral_ne_quoted same).elim
  | property name =>
      cases other with
      | index position =>
          rw [partText, partText] at same
          split at same
          · cases (List.cons.inj same).1
          · simp only [List.cons_append, List.cons.injEq, true_and, List.append_assoc] at same
            exact (numeral_ne_quoted same.symm).elim
      | property name' =>
          rw [partText, partText] at same
          split at same
          · rename_i isName
            split at same
            · rename_i isName'
              obtain ⟨isSame, isRest⟩ := run_unique (identifier_chars isName)
                (identifier_chars isName') continues.notIdentifier continues'.notIdentifier
                (List.cons.inj same).2
              exact ⟨congrArg Part.property (String.toList_inj.1 isSame), isRest⟩
            · cases (List.cons.inj same).1
          · split at same
            · cases (List.cons.inj same).1
            · simp only [quoted, List.cons_append, List.cons.injEq, true_and, List.append_assoc,
                List.nil_append] at same
              have read := congrArg JsonText.string same
              rw [string_quoted, string_quoted] at read
              obtain ⟨isName, isRest⟩ := Prod.mk.inj (Except.ok.inj read)
              exact ⟨congrArg Part.property (String.toList_inj.1 isName), (List.cons.inj isRest).2⟩

theorem partText_ne_nil (part : Part) : partText part ≠ [] := by
  cases part with
  | index position => simp [partText]
  | property name =>
      rw [partText]
      split
      · simp
      · simp

/-- Places with one text are one place. -/
theorem path_injective {parts others : List Part} (same : path parts = path others) :
    parts = others := by
  have texts : parts.flatMap partText = others.flatMap partText :=
    (List.cons.inj (String.ofList_injective same)).2
  clear same
  induction parts generalizing others with
  | nil =>
      cases others with
      | nil => rfl
      | cons other others =>
          rw [List.flatMap_nil, List.flatMap_cons] at texts
          exact absurd (List.append_eq_nil_iff.1 texts.symm).1 (partText_ne_nil other)
  | cons part parts ih =>
      cases others with
      | nil =>
          rw [List.flatMap_nil, List.flatMap_cons] at texts
          exact absurd (List.append_eq_nil_iff.1 texts).1 (partText_ne_nil part)
      | cons other others =>
          rw [List.flatMap_cons, List.flatMap_cons] at texts
          obtain ⟨isPart, isRest⟩ :=
            partText_unique (continues_parts parts) (continues_parts others) texts
          rw [isPart, ih isRest]

/-! ### Evidence -/

/-- The package implements Draft 2020-12, on schemas that have no other keywords. -/
structure Jsonschema.Implements (library : Jsonschema) : Prop where
  checks : ∀ schema, Supported schema → (library.checkSchema schema = true ↔ isValid schema = true)
  fails : ∀ schema value failure, Supported schema → isValid schema = true →
    failure ∈ library.iterErrors schema value → JsonSchema.Fails schema value failure

/-- The names of types that evidence shows. -/
def shownTypes : List String := ["null", "boolean", "number", "string", "array", "object"]

/-- The schema lets a value fail without a keyword: it is `false`, or a property has such a
schema. -/
inductive Forbids : (schema : Json) → Prop where
  | never : Forbids (.bool false)
  | property {entries children : Dict} {name : String}
      (present : entries.lookup "properties" = some (.obj children))
      (declared : children.lookup name = some (.bool false)) : Forbids (.obj entries)

/-- The evidence consists of a place of the schema, what the schema asks for there and a name of a
type. -/
structure PayloadFree (schema : Json) (error : SchemaError) : Prop where
  place : ∃ parts sub, schemaAt schema parts = some sub ∧ error.path = path parts ∧
    (Forbids sub ∧ error.keyword = "None" ∧ error.expected = .null ∨
      ∃ entries given, sub = .obj entries ∧ entries.lookup error.keyword = some given ∧
        error.expected = expected error.keyword given)
  message : error.message = message error.keyword
  observed : ∃ name ∈ shownTypes, error.observed = .str name

/-- Where an error is, how it came about and what was seen. -/
def shown (error : SchemaError) : String × String × Json :=
  (error.path, error.keyword, error.observed)

/-- The errors that no keyword has reported. -/
def unnamed (errors : List SchemaError) : List SchemaError :=
  errors.filter fun error => error.keyword = "None"

theorem jsonType_shown (value : Json) : jsonType value ∈ shownTypes := by
  cases value <;> simp [jsonType, shownTypes]

theorem payloadFree_evidence {schema value : Json} {failure : Failure}
    (fails : JsonSchema.Fails schema value failure) : PayloadFree schema (evidence failure) := by
  obtain ⟨sub, isSub, asks⟩ := fails.place
  refine ⟨⟨failure.path, sub, isSub, rfl, ?_⟩, rfl, ⟨_, jsonType_shown failure.value, rfl⟩⟩
  obtain ⟨parts, keyword, asked, seen⟩ := failure
  cases asks with
  | never => exact Or.inl ⟨Forbids.never, rfl, rfl⟩
  | keyword present reported => exact Or.inr ⟨_, _, rfl, present, rfl⟩
  | forbidden present declared => exact Or.inl ⟨Forbids.property present declared, rfl, rfl⟩

/-- Evidence without payload is what its place, its keyword and the seen type make it. -/
theorem PayloadFree.unique {schema : Json} {error other : SchemaError}
    (one : PayloadFree schema error) (two : PayloadFree schema other)
    (same : shown error = shown other) : error = other := by
  obtain ⟨⟨parts, sub, isSub, isPath, asks⟩, isMessage, -⟩ := one
  obtain ⟨⟨parts', sub', isSub', isPath', asks'⟩, isMessage', -⟩ := two
  obtain ⟨errorPath, keyword, text, asked, seen⟩ := error
  obtain ⟨errorPath', keyword', text', asked', seen'⟩ := other
  simp only [shown, Prod.mk.injEq] at same
  obtain ⟨rfl, rfl, rfl⟩ := same
  simp only at isPath isPath' isMessage isMessage' asks asks'
  obtain rfl := path_injective (isPath.symm.trans isPath')
  obtain rfl := Option.some.inj (isSub.symm.trans isSub')
  have isAsked : asked = asked' := by
    -- without a keyword nothing is expected, whether the schema has an entry of that name or not
    rcases asks with ⟨-, isNone, isAsked⟩ | ⟨entries, given, isObject, present, isAsked⟩
    · rcases asks' with ⟨-, -, isAsked'⟩ | ⟨entries', given', -, -, isAsked'⟩
      · rw [isAsked, isAsked']
      · rw [isAsked, isAsked', isNone]
        rfl
    · rcases asks' with ⟨-, isNone, isAsked'⟩ | ⟨entries', given', isObject', present', isAsked'⟩
      · rw [isAsked, isAsked', isNone]
        rfl
      · cases isObject.symm.trans isObject'
        cases present.symm.trans present'
        rw [isAsked, isAsked']
  rw [isMessage, isMessage', isAsked]

theorem shown_injective {schema : Json} {errors others : List SchemaError}
    (free : ∀ error ∈ errors, PayloadFree schema error)
    (free' : ∀ other ∈ others, PayloadFree schema other)
    (same : errors.map shown = others.map shown) : errors = others := by
  refine SortedBy.eq_of_keys shown same ?_
  intro left isLeft right isRight same
  exact (free left isLeft).unique (free' right isRight) same

theorem filter_unnamed {errors : List SchemaError} {wanted : String ×ₗ String ×ₗ String}
    (isNone : ∀ error ∈ errors, sortKey error = wanted → error.keyword = "None") :
    (errors.filter fun error => sortKey error = wanted) =
      (unnamed errors).filter fun error => sortKey error = wanted := by
  unfold unnamed
  rw [List.filter_filter]
  refine List.filter_congr fun error isMem => ?_
  by_cases isWanted : sortKey error = wanted
  · simp [isWanted, isNone error isMem isWanted]
  · simp [isWanted]

theorem place_of_sortKey {error other : SchemaError} (same : sortKey error = sortKey other) :
    error.path = other.path ∧ error.keyword = other.keyword := by
  obtain ⟨isPath, others⟩ := Prod.mk.inj (toLex_inj.1 same)
  exact ⟨isPath, (Prod.mk.inj (toLex_inj.1 others)).1⟩

/-- What the value is seen as by a keyword at a place depends on the place. -/
theorem evidence_unique {schema value : Json} {failure other : Failure}
    (one : JsonSchema.Fails schema value failure) (two : JsonSchema.Fails schema value other)
    (named : (evidence failure).keyword ≠ "None")
    (same : sortKey (evidence failure) = sortKey (evidence other)) :
    evidence failure = evidence other := by
  have keys := place_of_sortKey same
  have hasKeyword : ∀ {failure : Failure}, (evidence failure).keyword ≠ "None" →
      failure.keyword ≠ none := by
    intro failure named isNone
    refine named ?_
    change failure.keyword.getD "None" = "None"
    rw [isNone]
    rfl
  refine (payloadFree_evidence one).unique (payloadFree_evidence two) ?_
  have values := (one.value_eq (hasKeyword named)).symm.trans
    ((congrArg (valueAt value) (path_injective keys.1)).trans
      (two.value_eq (hasKeyword (keys.2 ▸ named))))
  have isSeen : (evidence failure).observed = (evidence other).observed :=
    congrArg (fun value => Json.str (jsonType value)) (Option.some.inj values)
  unfold shown
  rw [keys.1, keys.2, isSeen]

theorem validateSchema_ok {library : Jsonschema} {schema : Json} :
    validateSchema library schema = .ok () ↔
      Supported schema ∧ library.checkSchema schema = true := by
  unfold validateSchema
  rw [bind_ok, rejectUnsupportedKeywords_ok]
  by_cases checked : library.checkSchema schema = true
  · simp [checked]
  · simp [checked]

theorem validate_eq {library : Jsonschema} {schema : Json}
    (accepted : validateSchema library schema = .ok ()) (value : Json) :
    validate library schema value =
      .ok (SortedBy.sortBy sortKey ((library.iterErrors schema value).map evidence)) := by
  unfold validate
  rw [accepted]
  rfl

section Accepted

variable {library : Jsonschema} (implements : library.Implements) {schema : Json}

include implements

theorem accepts_iff : validateSchema library schema = .ok () ↔
    ((∃ flag, schema = .bool flag) ∨ ∃ entries, schema = .obj entries) ∧
      isValid schema = true ∧ ∀ below, Reachable schema below → UsesSupported below := by
  rw [validateSchema_ok]
  constructor
  · rintro ⟨supported, checked⟩
    have valid := (implements.checks schema supported).1 checked
    refine ⟨?_, valid, supported⟩
    cases schema with
    | bool flag => exact Or.inl ⟨flag, rfl⟩
    | obj entries => exact Or.inr ⟨entries, rfl⟩
    | null => simp [isValid] at valid
    | int _ => simp [isValid] at valid
    | float _ => simp [isValid] at valid
    | str _ => simp [isValid] at valid
    | arr _ => simp [isValid] at valid
  · rintro ⟨-, valid, supported⟩
    exact ⟨supported, (implements.checks schema supported).2 valid⟩

variable (accepted : validateSchema library schema = .ok ())

include accepted

theorem fails_of_reported {value : Json} {failure : Failure}
    (reported : failure ∈ library.iterErrors schema value) :
      JsonSchema.Fails schema value failure := by
  obtain ⟨-, valid, supported⟩ := (accepts_iff implements).1 accepted
  exact implements.fails schema value failure supported valid reported

theorem payloadFree_of_mem {value : Json} {errors : List SchemaError}
    (validated : validate library schema value = .ok errors) :
    ∀ error ∈ errors, PayloadFree schema error := by
  rw [validate_eq accepted] at validated
  cases validated
  intro error isMem
  obtain ⟨failure, isFailure, rfl⟩ := List.mem_map.1 ((SortedBy.mem_sortBy sortKey).1 isMem)
  exact payloadFree_evidence (fails_of_reported implements accepted isFailure)

/-- Evidence that is shown alike, in any order, is the same up to the order. -/
theorem validate_perm_of_shown {value other : Json} {errors others : List SchemaError}
    (validated : validate library schema value = .ok errors)
    (validated' : validate library schema other = .ok others)
    (alike : (errors.map shown).Perm (others.map shown)) : errors.Perm others := by
  have free := payloadFree_of_mem implements accepted validated
  have free' := payloadFree_of_mem implements accepted validated'
  obtain ⟨middle, isMiddle, perm⟩ :
      Relation.Comp (fun texts middle => texts = List.map shown middle) List.Perm
        (errors.map shown) others := by
    rw [List.eq_map_comp_perm]
    exact alike
  exact shown_injective free (fun error isMem => free' error (perm.subset isMem)) isMiddle ▸ perm

/-- Permuted evidence is the same list where the errors without a keyword are in one order: a
keyword reports at a place what it sees there, however often it does. -/
theorem validate_eq_of_perm {value other : Json} {errors others : List SchemaError}
    (validated : validate library schema value = .ok errors)
    (validated' : validate library schema other = .ok others) (perm : errors.Perm others)
    (unnamedSame : unnamed errors = unnamed others) : errors = others := by
  rw [validate_eq accepted] at validated validated'
  have keys : errors.map sortKey = others.map sortKey := by
    cases validated
    cases validated'
    refine SortedBy.keys_sortBy_of_perm sortKey ?_
    exact (SortedBy.sortBy_perm sortKey _).symm.trans (perm.trans (SortedBy.sortBy_perm sortKey _))
  have seen : ∀ error ∈ errors, ∃ failure, JsonSchema.Fails schema value failure ∧
      evidence failure = error := by
    cases validated
    intro error isMem
    obtain ⟨failure, isFailure, rfl⟩ := List.mem_map.1 ((SortedBy.mem_sortBy sortKey).1 isMem)
    exact ⟨failure, fails_of_reported implements accepted isFailure, rfl⟩
  refine SortedBy.eq_of_classes sortKey keys fun wanted => ?_
  have sameKeys : (errors.filter fun error => sortKey error = wanted).map sortKey =
      (others.filter fun other => sortKey other = wanted).map sortKey := by
    have classes := congrArg (List.filter fun key => decide (key = wanted)) keys
    rw [List.filter_map, List.filter_map] at classes
    exact classes
  by_cases named : ∃ error ∈ errors, sortKey error = wanted ∧ error.keyword ≠ "None"
  · obtain ⟨error, isError, rfl, named⟩ := named
    refine SortedBy.eq_of_keys sortKey sameKeys ?_
    intro left isLeft right isRight same
    rw [List.mem_filter, decide_eq_true_eq] at isLeft isRight
    obtain ⟨failure, fails, rfl⟩ := seen left isLeft.1
    obtain ⟨failure', fails', rfl⟩ := seen right (perm.mem_iff.2 isRight.1)
    refine evidence_unique fails fails' ?_ same
    rw [(place_of_sortKey isLeft.2).2]
    exact named
  · have isNone : ∀ error ∈ errors, sortKey error = wanted → error.keyword = "None" := by
      intro error isMem isWanted
      by_contra isNamed
      exact named ⟨error, isMem, isWanted, isNamed⟩
    rw [filter_unnamed isNone, unnamedSame]
    exact (filter_unnamed fun other isMem => isNone other (perm.mem_iff.2 isMem)).symm

theorem validate_eq_iff_of_shown {value other : Json} {errors others : List SchemaError}
    (validated : validate library schema value = .ok errors)
    (validated' : validate library schema other = .ok others)
    (alike : (errors.map shown).Perm (others.map shown)) :
    errors = others ↔ (unnamed errors).map shown = (unnamed others).map shown := by
  constructor
  · intro same
    rw [same]
  · intro same
    refine validate_eq_of_perm implements accepted validated validated'
      (validate_perm_of_shown implements accepted validated validated' alike) ?_
    have free : ∀ {value : Json} {errors : List SchemaError},
        validate library schema value = .ok errors →
        ∀ error ∈ unnamed errors, PayloadFree schema error := by
      intro value errors validated error isMem
      exact payloadFree_of_mem implements accepted validated error (List.mem_filter.1 isMem).1
    exact shown_injective (free validated) (free validated') same

end Accepted

/-- `validate_schema` accepts the valid schemas whose subschemas have no other keywords than the
supported ones, and evidence tells no more of a value than where it fails, by which keyword and the
name of a type. The order is the one of the paths and keywords; errors of one object that have no
keyword stay in the order of the schema's properties, whatever their types. -/
theorem evidence_without_payload (library : Jsonschema) (implements : library.Implements)
    (schema : Json) :
    (validateSchema library schema = .ok () ↔
      ((∃ flag, schema = .bool flag) ∨ ∃ entries, schema = .obj entries) ∧
        isValid schema = true ∧ ∀ below, Reachable schema below → UsesSupported below) ∧
    (validateSchema library schema = .ok () →
      (∀ below, Subschema schema below → UsesSupported below) ∧
      (∀ value, ∃ errors, validate library schema value = .ok errors ∧
        ∀ error ∈ errors, PayloadFree schema error) ∧
      ∀ value other errors others, validate library schema value = .ok errors →
        validate library schema other = .ok others →
        (errors.map shown).Perm (others.map shown) → errors.Perm others ∧
          (errors = others ↔ (unnamed errors).map shown = (unnamed others).map shown)) := by
  refine ⟨accepts_iff implements, fun accepted => ⟨?_, ?_, ?_⟩⟩
  · intro below inside
    have supported := (validateSchema_ok.1 accepted).1
    exact supported below (reachable_of_subschema inside supported)
  · intro value
    exact ⟨_, validate_eq accepted value,
      payloadFree_of_mem implements accepted (validate_eq accepted value)⟩
  · intro value other errors others validated validated' alike
    exact ⟨validate_perm_of_shown implements accepted validated validated' alike,
      validate_eq_iff_of_shown implements accepted validated validated' alike⟩

/-- A package with what the standard says of the eight keywords. -/
def draft202012 : Jsonschema := { checkSchema := isValid, iterErrors := failures }

theorem draft202012_implements : draft202012.Implements where
  checks _ _ := Iff.rfl
  fails schema _ _ _ _ reported := failures_sound schema reported

/-- An array of numbers of at least one, or of objects without a token. -/
def scoreSchema : Json :=
  .obj [("type", .str "array"),
    ("items", .obj [("type", .arr [.str "number", .str "object"]), ("minimum", .int 1),
      ("properties", .obj [("token", .bool false)])])]

/-- Scores of which the first is a text and the last has a token have evidence that shows
neither. -/
theorem evidence_without_payload_scores :
    (validateSchema draft202012 scoreSchema = .ok () ↔
      ((∃ flag, scoreSchema = .bool flag) ∨ ∃ entries, scoreSchema = .obj entries) ∧
        isValid scoreSchema = true ∧
        ∀ below, Reachable scoreSchema below → UsesSupported below) ∧
    (validateSchema draft202012 scoreSchema = .ok () →
      (∀ below, Subschema scoreSchema below → UsesSupported below) ∧
      (∀ value, ∃ errors, validate draft202012 scoreSchema value = .ok errors ∧
        ∀ error ∈ errors, PayloadFree scoreSchema error) ∧
      ∀ value other errors others, validate draft202012 scoreSchema value = .ok errors →
        validate draft202012 scoreSchema other = .ok others →
        (errors.map shown).Perm (others.map shown) → errors.Perm others ∧
          (errors = others ↔ (unnamed errors).map shown = (unnamed others).map shown)) ∧
    validateSchema draft202012 scoreSchema = .ok () ∧
    validate draft202012 scoreSchema
        (.arr [.str "do-not-leak", .int 0, .obj [("token", .str "do-not-leak")]]) =
      .ok [{ path := "$[0]", keyword := "type", message := "value has an invalid type",
             expected := .arr [.str "number", .str "object"], observed := .str "string" },
           { path := "$[1]", keyword := "minimum", message := "number is below the minimum",
             expected := .int 1, observed := .str "number" },
           { path := "$[2]", keyword := "None", message := "value failed schema validation",
             expected := .null, observed := .str "string" }] := by
  obtain ⟨accepts, evidence⟩ :=
    evidence_without_payload draft202012 draft202012_implements scoreSchema
  refine ⟨accepts, evidence, by decide, ?_⟩
  decide

/-- An object that may have neither of two properties. -/
def emptySchema : Json :=
  .obj [("properties", .obj [("a", .bool false), ("b", .bool false)])]

/-- The error of such a property with a value of a type. -/
def forbiddenAs (name : String) : SchemaError where
  path := "$"
  keyword := "None"
  message := "value failed schema validation"
  expected := .null
  observed := .str name

/-- A number and a text at forbidden properties are the same errors in the other order, where the
text comes first. -/
theorem evidence_order_differs :
    draft202012.Implements ∧ validateSchema draft202012 emptySchema = .ok () ∧
    ∃ errors others,
      validate draft202012 emptySchema (.obj [("a", .int 1), ("b", .str "x")]) = .ok errors ∧
      validate draft202012 emptySchema (.obj [("a", .str "x"), ("b", .int 1)]) = .ok others ∧
      (errors.map shown).Perm (others.map shown) ∧ errors ≠ others := by
  refine ⟨draft202012_implements, by decide, [forbiddenAs "number", forbiddenAs "string"],
    [forbiddenAs "string", forbiddenAs "number"], by decide, by decide, ?_, by decide⟩
  exact List.Perm.swap _ _ _

end IoSchema

end Loom
