import Loom.Deployment.Remote

/-!
# Redaction

What `RenderedProject.redacted_preview` and `_redact` leave of the secrets of a deployment.  The
texts of a project are fixed pieces with places for secrets.  Where every secret occurs at its
places only and the stored ones have no apostrophe, the preview has a mark in each of these places,
and does not depend on the secrets.  An apostrophe is escaped in the environment file, so that the
secret is not found there; the backslashes of a preview tell the number of apostrophes.
-/

namespace Loom

namespace Deployment

open JsonText (Floats stringText escape)
open Replacement (Apart OnlyAt OnlyEach Piece fill marked replace replaceAll weight_replace
  weight_replaceAll)
open SortedBy

/-! ### Secrets -/

/-- The values of the secrets. -/
structure Secrets where
  internalApiSecret : Secret
  postgresPassword : Secret
  minioSecretKey : Secret
  codexApiKey : Option Secret

namespace DeploymentConfig

def secrets (config : DeploymentConfig) : Secrets :=
  ⟨config.internalApiSecret, config.postgresPassword, config.minioSecretKey, config.codexApiKey⟩

/-- The configuration with other secrets. -/
def withSecrets (config : DeploymentConfig) (secrets : Secrets) : DeploymentConfig :=
  { config with
    internalApiSecret := secrets.internalApiSecret
    postgresPassword := secrets.postgresPassword
    minioSecretKey := secrets.minioSecretKey
    codexApiKey := secrets.codexApiKey }

end DeploymentConfig

/-- The preview of a machine. -/
def preview (floats : Floats) (config : DeploymentConfig) (name : String) :
    Except String (List Char) :=
  (renderProject floats config name).map RenderedProject.redactedPreview

/-! ### Characters -/

theorem isAlphanum_upperHex {digit : Nat} (isDigit : digit < 16) :
    (upperHex digit).isAlphanum = true := by
  have all : ∀ digit : Fin 16, (upperHex digit).isAlphanum = true := by decide
  exact all ⟨digit, isDigit⟩

/-- A quoted text has no characters that are special elsewhere. -/
theorem quote_plain {text : List Char} {char : Char} (mem : char ∈ quote text) :
    isUnreserved char = true ∨ char = '%' := by
  unfold quote at mem
  rcases List.mem_flatMap.mp mem with ⟨byte, -, inByte⟩
  unfold quoteByte at inByte
  have less : byte.toNat < 256 := byte.toNat_lt
  have isHex : ∀ digit, digit < 16 → isUnreserved (upperHex digit) = true := by
    intro digit isDigit
    unfold isUnreserved
    rw [isAlphanum_upperHex isDigit]
    rfl
  dsimp only at inByte
  split at inByte
  · rename_i unreserved
    rw [List.mem_singleton] at inByte
    subst inByte
    exact Or.inl unreserved
  · simp only [List.mem_cons, List.not_mem_nil, or_false] at inByte
    rcases inByte with rfl | rfl | rfl
    · exact Or.inr rfl
    · exact Or.inl (isHex _ (by omega))
    · exact Or.inl (isHex _ (by omega))

theorem not_mem_quote {char : Char} (special : isUnreserved char = false) (differs : char ≠ '%')
    (text : List Char) : char ∉ quote text := by
  intro mem
  rcases quote_plain mem with unreserved | isPercent
  · rw [special] at unreserved
    cases unreserved
  · exact differs isPercent

theorem quote_ne_nil {text : List Char} (nonempty : text ≠ []) : quote text ≠ [] := by
  cases text with
  | nil => exact absurd rfl nonempty
  | cons first rest =>
      intro isNil
      unfold quote at isNil
      rw [List.flatMap_cons, List.flatMap_append, List.append_eq_nil_iff] at isNil
      have bytes := List.flatMap_eq_nil_iff.mp isNil.1
      cases encoded : String.utf8EncodeChar first with
      | nil =>
          have length := String.length_utf8EncodeChar first
          rw [encoded] at length
          have positive := first.utf8Size_pos
          rw [List.length_nil] at length
          omega
      | cons byte more =>
          have none := bytes byte (by rw [encoded]; exact List.mem_cons_self)
          unfold quoteByte at none
          dsimp only at none
          split at none
          · cases none
          · cases none

theorem Secret.chars_ne_nil (secret : Secret) : secret.chars ≠ [] := by
  intro isNil
  have isEmpty : secret.1 = "" := String.toList_eq_nil_iff.mp isNil
  have accepted := secret.2
  rw [isEmpty] at accepted
  exact absurd accepted (by decide)

/-! ### Backslashes -/

/-- A backslash counts. -/
def slash (char : Char) : Nat := if char = '\\' then 1 else 0

/-- The backslashes of a text. -/
def slashes (text : List Char) : Nat := (text.map slash).sum

@[simp]
theorem slashes_nil : slashes [] = 0 := rfl

@[simp]
theorem slashes_cons (char : Char) (text : List Char) :
    slashes (char :: text) = slash char + slashes text := rfl

@[simp]
theorem slashes_append (front back : List Char) :
    slashes (front ++ back) = slashes front + slashes back := by
  unfold slashes
  rw [List.map_append, List.sum_append]

theorem slashes_eq_zero {text : List Char} (none : '\\' ∉ text) : slashes text = 0 := by
  induction text with
  | nil => rfl
  | cons first rest ih =>
      rw [List.mem_cons, not_or] at none
      rw [slashes_cons, ih none.2, slash, if_neg (Ne.symm none.1)]

theorem slashes_flatMap {α : Type} (items : List α) (text : α → List Char) :
    slashes (items.flatMap text) = (items.map fun item => slashes (text item)).sum := by
  induction items with
  | nil => rfl
  | cons item items ih => rw [List.flatMap_cons, slashes_append, ih, List.map_cons, List.sum_cons]

theorem slashes_line (level : Nat) : slashes (line level) = 0 := by
  refine slashes_eq_zero fun mem => ?_
  unfold line at mem
  rcases List.mem_cons.mp mem with isFeed | isBlank
  · exact absurd isFeed (by decide)
  · exact absurd (List.eq_of_mem_replicate isBlank) (by decide)

theorem printable_of_plain {char : Char} (plain : isUnreserved char = true ∨ char = '%') :
    ' ' ≤ char ∧ char ≤ '~' := by
  rcases plain with unreserved | rfl
  · unfold isUnreserved Char.isAlphanum Char.isAlpha Char.isUpper Char.isLower
      Char.isDigit at unreserved
    simp only [Bool.or_eq_true, Bool.and_eq_true, decide_eq_true_eq] at unreserved
    simp only [Char.le_def, UInt32.le_iff_toNat_le] at unreserved ⊢
    rcases unreserved with (((((⟨low, high⟩ | ⟨low, high⟩) | ⟨low, high⟩) | rfl) | rfl) | rfl) | rfl
    all_goals simp_all
    all_goals omega
  · decide

/-- A plain character is written as it is. -/
theorem slashes_escape {char : Char} (plain : isUnreserved char = true ∨ char = '%') :
    slashes (escape char) = 0 := by
  have differs : ∀ other : Char, isUnreserved other = false → other ≠ '%' → char ≠ other := by
    rintro other special notPercent rfl
    rcases plain with unreserved | isPercent
    · rw [special] at unreserved
      cases unreserved
    · exact notPercent isPercent
  unfold escape
  rw [if_neg (differs _ (by decide) (by decide)), if_neg (differs _ (by decide) (by decide)),
    if_neg (differs _ (by decide) (by decide)), if_neg (differs _ (by decide) (by decide)),
    if_neg (differs _ (by decide) (by decide)), if_neg (differs _ (by decide) (by decide)),
    if_neg (differs _ (by decide) (by decide)), if_pos (printable_of_plain plain)]
  refine slashes_eq_zero fun mem => ?_
  exact differs '\\' (by decide) (by decide) (List.mem_singleton.mp mem).symm

section Masses

variable (floats : Floats)

mutual

/-- The backslashes of the text of a value. -/
def mass : Json → Nat
  | .null => 0
  | .bool _ => 0
  | .int number => slashes (JsonText.intText number)
  | .float number => slashes (floats.repr number).chars
  | .str text => slashes (stringText text)
  | .arr items => massItems items
  | .obj entries => massEntries entries

def massItems : List Json → Nat
  | [] => 0
  | item :: items => mass item + massItems items

def massEntries : List (String × Json) → Nat
  | [] => 0
  | (key, item) :: entries => slashes (stringText key) + mass item + massEntries entries

end

mutual

theorem slashes_indented : ∀ (level : Nat) (json : Json),
    slashes (indented floats level json) = mass floats json
  | _, .null => rfl
  | _, .bool true => rfl
  | _, .bool false => rfl
  | _, .int _ => rfl
  | _, .float _ => rfl
  | _, .str _ => rfl
  | _, .arr [] => rfl
  | level, .arr (item :: items) => by
      rw [indented, slashes_append, slashes_append, slashes_cons, slashes_line,
        slashes_indented (level + 1) item, slashes_indentedItems level items]
      change 0 + 0 + mass floats item + massItems floats items = _
      rw [mass, massItems]
      omega
  | _, .obj [] => rfl
  | level, .obj ((key, item) :: entries) => by
      rw [indented, slashes_append, slashes_append, slashes_append, slashes_append, slashes_cons,
        slashes_line, slashes_indented (level + 1) item, slashes_indentedEntries level entries]
      change 0 + 0 + slashes (stringText key) + 0 + mass floats item +
        massEntries floats entries = _
      rw [mass, massEntries]
      omega

theorem slashes_indentedItems : ∀ (level : Nat) (items : List Json),
    slashes (indentedItems floats level items) = massItems floats items
  | level, [] => by
      rw [indentedItems, slashes_append, slashes_line]
      rfl
  | level, item :: items => by
      rw [indentedItems, slashes_append, slashes_append, slashes_cons, slashes_line,
        slashes_indented (level + 1) item, slashes_indentedItems level items]
      change 0 + 0 + mass floats item + massItems floats items = _
      rw [massItems]
      omega

theorem slashes_indentedEntries : ∀ (level : Nat) (entries : List (String × Json)),
    slashes (indentedEntries floats level entries) = massEntries floats entries
  | level, [] => by
      rw [indentedEntries, slashes_append, slashes_line]
      rfl
  | level, (key, item) :: entries => by
      rw [indentedEntries, slashes_append, slashes_append, slashes_append, slashes_append,
        slashes_cons, slashes_line, slashes_indented (level + 1) item,
        slashes_indentedEntries level entries]
      change 0 + 0 + slashes (stringText key) + 0 + mass floats item +
        massEntries floats entries = _
      rw [massEntries]
      omega

end

theorem massEntries_eq (entries : List (String × Json)) : massEntries floats entries =
    (entries.map fun entry => slashes (stringText entry.1) + mass floats entry.2).sum := by
  induction entries with
  | nil => rfl
  | cons entry entries ih =>
      obtain ⟨key, item⟩ := entry
      rw [massEntries, ih, List.map_cons, List.sum_cons]

theorem massEntries_append (entries more : List (String × Json)) :
    massEntries floats (entries ++ more) =
      massEntries floats entries + massEntries floats more := by
  rw [massEntries_eq, massEntries_eq, massEntries_eq, List.map_append, List.sum_append]

mutual

/-- Sorting the keys moves the backslashes only. -/
theorem mass_canonical : ∀ json : Json, mass floats json.canonical = mass floats json
  | .null | .bool _ | .int _ | .float _ | .str _ => rfl
  | .arr items => by
      rw [Json.canonical, mass, mass, massItems_canonical items]
  | .obj entries => by
      rw [Json.canonical, mass, mass, massEntries_eq,
        ((sortBy_perm Prod.fst _).map _).sum_eq, ← massEntries_eq, massEntries_canonical entries]

theorem massItems_canonical : ∀ items : List Json,
    massItems floats (Json.canonicalItems items) = massItems floats items
  | [] => rfl
  | item :: items => by
      rw [Json.canonicalItems, massItems, massItems, mass_canonical item, massItems_canonical items]

theorem massEntries_canonical : ∀ entries : List (String × Json),
    massEntries floats (Json.canonicalEntries entries) = massEntries floats entries
  | [] => rfl
  | (key, item) :: entries => by
      rw [Json.canonicalEntries, massEntries, massEntries, mass_canonical item,
        massEntries_canonical entries]

end

theorem slashes_dumpsSorted (document : Json) :
    slashes (dumpsSorted floats document) = mass floats document := by
  unfold dumpsSorted
  rw [slashes_indented, mass_canonical]

end Masses

/-! ### Documents -/

/-- The backslashes of a character in a string of JSON. -/
def escaped (char : Char) : Nat := slashes (escape char)

theorem slashes_stringText (text : String) :
    slashes (stringText text) = (text.toList.map escaped).sum := by
  unfold stringText
  rw [slashes_append, slashes_cons, slashes_flatMap]
  change 0 + (text.toList.map escaped).sum + 0 = _
  omega

theorem sum_escaped {text : List Char}
    (plain : ∀ char ∈ text, isUnreserved char = true ∨ char = '%') :
    (text.map escaped).sum = 0 := by
  refine List.sum_eq_zero fun weight mem => ?_
  rcases List.mem_map.mp mem with ⟨char, isChar, rfl⟩
  exact slashes_escape (plain char isChar)

/-- The URL of a database around the password. -/
def urlFront : List Char := "postgresql+asyncpg://loom:".toList

def urlBack (name : String) : List Char := ("@postgres:5432/" ++ name).toList

/-- The URL of a database. -/
def urlText (secrets : Secrets) (name : String) : List Char :=
  urlFront ++ quote secrets.postgresPassword.chars ++ urlBack name

section Documents

variable (floats : Floats) (config : DeploymentConfig) (machine : MachineConfig)
  (secrets others : Secrets)

theorem databaseUrl_withSecrets :
    (config.withSecrets secrets).databaseUrl machine =
      (DeploymentConfig.databaseName machine).map (urlText secrets) := by
  unfold DeploymentConfig.databaseUrl
  cases DeploymentConfig.databaseName machine with
  | error error => rfl
  | ok name => rfl

theorem urls_withSecrets : (config.withSecrets secrets).urls = config.urls := rfl

theorem baseService_withSecrets (dockerfile : String) (args : Dict) :
    baseService (config.withSecrets secrets) machine dockerfile args =
      baseService config machine dockerfile args := rfl

/-- The template of a URL has the backslashes of what is around the password. -/
theorem escaped_template (name : String) :
    slashes (stringText (databaseTemplate (config.withSecrets secrets) (urlText secrets name))) =
      (urlFront.map escaped).sum + ((urlBack name).map escaped).sum := by
  have quoted : ((quote secrets.postgresPassword.chars).map escaped).sum = 0 :=
    sum_escaped fun char mem => quote_plain mem
  have plainMark : ("${POSTGRES_PASSWORD_URLENCODED}".toList.map escaped).sum = 0 := by
    decide +kernel
  unfold databaseTemplate
  rw [slashes_stringText, String.toList_ofList]
  have same := @weight_replace _ _ _ "${POSTGRES_PASSWORD_URLENCODED}".toList escaped
    (quote_ne_nil secrets.postgresPassword.chars_ne_nil) (quoted.trans plainMark.symm)
    (urlText secrets name)
  refine same.trans ?_
  unfold urlText
  rw [List.map_append, List.map_append, List.sum_append, List.sum_append, quoted, Nat.add_zero]

theorem mass_roleEnvironment (name : String) :
    massEntries floats
        (roleEnvironment (config.withSecrets secrets) machine (urlText secrets name)) =
      massEntries floats
        (roleEnvironment (config.withSecrets others) machine (urlText others name)) := by
  unfold roleEnvironment
  simp only [massEntries, mass]
  rw [escaped_template, escaped_template]
  rfl

variable {secrets others}

/-- The documents of a machine have the same backslashes whatever the secrets are. -/
theorem mass_render (sameKey : secrets.codexApiKey.isSome = others.codexApiKey.isSome) :
    ((render (config.withSecrets secrets) machine).map fun rendered =>
        mass floats (.obj rendered.1)) =
      (render (config.withSecrets others) machine).map fun rendered =>
        mass floats (.obj rendered.1) := by
  unfold render
  cases machine.role with
  | observer =>
      dsimp only
      unfold renderObserver
      rw [databaseUrl_withSecrets, databaseUrl_withSecrets, urls_withSecrets, urls_withSecrets]
      dsimp only [bind, Except.bind, pure, Except.pure, Except.map]
      cases DeploymentConfig.databaseName machine with
      | error error => rfl
      | ok name =>
          cases config.urls with
          | error error => rfl
          | ok urls =>
              dsimp only
              simp only [mass, massEntries, massEntries_append, baseService_withSecrets]
              rw [mass_roleEnvironment floats config machine secrets others name]
  | slave =>
      dsimp only
      unfold renderSlave
      rw [databaseUrl_withSecrets, databaseUrl_withSecrets, urls_withSecrets, urls_withSecrets]
      dsimp only [bind, Except.bind, pure, Except.pure, Except.map]
      cases DeploymentConfig.databaseName machine with
      | error error => rfl
      | ok name =>
          cases config.urls with
          | error error => rfl
          | ok urls =>
              dsimp only
              simp only [mass, massEntries, massEntries_append, baseService_withSecrets]
              rw [mass_roleEnvironment floats config machine secrets others name]
  | driver =>
      dsimp only
      unfold renderDriver
      rw [urls_withSecrets, urls_withSecrets]
      dsimp only [bind, Except.bind, pure, Except.pure, Except.map]
      cases config.urls with
      | error error => rfl
      | ok urls =>
          have sameKey' : (config.withSecrets secrets).codexApiKey.isSome =
              (config.withSecrets others).codexApiKey.isSome := sameKey
          dsimp only
          rw [sameKey', baseService_withSecrets, baseService_withSecrets]
          rfl
  | minio =>
      dsimp only
      unfold renderMinio
      cases machine.consolePort with
      | none => rfl
      | some port => rfl

end Documents

/-! ### Places for secrets -/

/-- A place for a secret. -/
inductive Slot where
  | postgresPassword
  | urlEncoded
  | minioSecretKey
  deriving Repr, DecidableEq

def Secrets.value (secrets : Secrets) : Slot → List Char
  | .postgresPassword => secrets.postgresPassword.chars
  | .urlEncoded => quote secrets.postgresPassword.chars
  | .minioSecretKey => secrets.minioSecretKey.chars

/-- A text with places for secrets. -/
abbrev Template : Type := List (Piece Char Slot)

def urlTemplate (name : String) : Template :=
  [.fixed urlFront, .slot .urlEncoded, .fixed (urlBack name)]

def storageTemplate (config : DeploymentConfig) : List (String × Template) :=
  [("MINIO_ACCESS_KEY", [.fixed config.minioAccessKey.toList]),
    ("MINIO_SECRET_KEY", [.slot .minioSecretKey]),
    ("LOOM_S3_BUCKET", [.fixed "loom-content".toList])]

def endpointTemplate (urls : EndpointMap) : String × Template :=
  ("LOOM_S3_ENDPOINT_URL", [.fixed urls.minio.toList])

def commonTemplate (config : DeploymentConfig) (urls : EndpointMap) (name : String) :
    List (String × Template) :=
  [("LOOM_DATABASE_URL", urlTemplate name),
    ("POSTGRES_PASSWORD", [.slot .postgresPassword]),
    ("POSTGRES_PASSWORD_URLENCODED", [.slot .urlEncoded])] ++ storageTemplate config ++
  [endpointTemplate urls]

/-- The environment of a machine with places for secrets. -/
def envTemplate (config : DeploymentConfig) (machine : MachineConfig) :
    Except String (List (String × Template)) :=
  match machine.role with
  | .observer => do
      let name ← DeploymentConfig.databaseName machine
      let urls ← config.urls
      return commonTemplate config urls name
  | .slave => do
      let name ← DeploymentConfig.databaseName machine
      let urls ← config.urls
      return commonTemplate config urls name ++
        [("LOOM_OBSERVER_URL", [.fixed urls.observer.toList])]
  | .driver => do
      let urls ← config.urls
      return storageTemplate config ++ [endpointTemplate urls]
  | .minio =>
      match machine.consolePort with
      | none => .error "AssertionError"
      | some _ => .ok (storageTemplate config)

/-- The environment with the values of secrets. -/
def fillEntries (value : Slot → List Char) (entries : List (String × Template)) :
    List (String × List Char) :=
  entries.map fun entry => (entry.1, fill value entry.2)

section Templates

variable (config : DeploymentConfig) (machine : MachineConfig) (secrets : Secrets)

@[simp]
theorem fill_fixed (value : Slot → List Char) (text : List Char) :
    fill value [.fixed text] = text :=
  List.append_nil text

@[simp]
theorem fill_slot (value : Slot → List Char) (name : Slot) : fill value [.slot name] = value name :=
  List.append_nil (value name)

theorem fill_urlTemplate (value : Slot → List Char) (name : String) :
    fill value (urlTemplate name) = urlFront ++ value .urlEncoded ++ urlBack name := by
  change urlFront ++ (value .urlEncoded ++ (urlBack name ++ [])) = _
  rw [List.append_nil, List.append_assoc]

theorem commonEnv_eq (urls : EndpointMap) (name : String) :
    commonEnv (config.withSecrets secrets) urls (urlText secrets name) =
      fillEntries secrets.value (commonTemplate config urls name) := by
  simp only [fillEntries, commonTemplate, storageTemplate, endpointTemplate, List.cons_append,
    List.nil_append, List.map_cons, List.map_nil, fill_fixed, fill_slot, fill_urlTemplate]
  rfl

/-- The environment of a machine is its template with the values of the secrets. -/
theorem env_render :
    (render (config.withSecrets secrets) machine).map Prod.snd =
      (envTemplate config machine).map (fillEntries secrets.value) := by
  unfold render envTemplate
  cases machine.role with
  | observer =>
      dsimp only
      unfold renderObserver
      rw [databaseUrl_withSecrets, urls_withSecrets]
      cases DeploymentConfig.databaseName machine with
      | error error => rfl
      | ok name =>
          cases config.urls with
          | error error => rfl
          | ok urls => exact congrArg Except.ok (commonEnv_eq config secrets urls name)
  | slave =>
      dsimp only
      unfold renderSlave
      rw [databaseUrl_withSecrets, urls_withSecrets]
      cases DeploymentConfig.databaseName machine with
      | error error => rfl
      | ok name =>
          cases config.urls with
          | error error => rfl
          | ok urls =>
              refine congrArg Except.ok ?_
              unfold fillEntries
              rw [List.map_append]
              exact congrArg₂ (· ++ ·) (commonEnv_eq config secrets urls name)
                (by rw [List.map_singleton, fill_fixed])
  | driver =>
      dsimp only
      unfold renderDriver
      rw [urls_withSecrets]
      cases config.urls with
      | error error => rfl
      | ok urls =>
          refine congrArg Except.ok ?_
          simp only [fillEntries, storageTemplate, endpointTemplate, List.cons_append,
            List.nil_append, List.map_cons, List.map_nil, fill_fixed, fill_slot]
          rfl
  | minio =>
      dsimp only
      unfold renderMinio
      cases machine.consolePort with
      | none => rfl
      | some port =>
          refine congrArg Except.ok ?_
          simp only [storageTemplate, fillEntries, List.map_cons, List.map_nil, fill_fixed,
            fill_slot]
          rfl

variable {config machine}

/-- A machine is rendered with some secrets exactly where it is with others. -/
theorem render_of_template {entries : List (String × Template)}
    (found : envTemplate config machine = .ok entries) :
    ∃ document, render (config.withSecrets secrets) machine =
      .ok (document, fillEntries secrets.value entries) := by
  have env := env_render config machine secrets
  rw [found] at env
  cases rendered : render (config.withSecrets secrets) machine with
  | error error =>
      rw [rendered] at env
      cases env
  | ok pair =>
      rw [rendered] at env
      obtain ⟨document, values⟩ := pair
      have same : values = fillEntries secrets.value entries := Except.ok.inj env
      exact ⟨document, by rw [same]⟩

theorem template_of_render {document : Dict} {env : List (String × List Char)}
    (rendered : render (config.withSecrets secrets) machine = .ok (document, env)) :
    ∃ entries, envTemplate config machine = .ok entries ∧ env =
      fillEntries secrets.value entries := by
  have same := env_render config machine secrets
  rw [rendered] at same
  cases found : envTemplate config machine with
  | error error =>
      rw [found] at same
      cases same
  | ok entries =>
      rw [found] at same
      exact ⟨entries, rfl, Except.ok.inj same⟩

end Templates

/-! ### Apostrophes -/

/-- The backslashes of a character in an environment file. -/
def quoted (char : Char) : Nat := slash char + if char = '\'' then 1 else 0

theorem slashes_dotenvQuote (value : List Char) :
    slashes (dotenvQuote value) = (value.map quoted).sum := by
  unfold dotenvQuote
  rw [Replacement.replace_singleton, slashes_append, slashes_cons, slashes_flatMap]
  have each : (value.map fun other =>
      slashes (if other = '\'' then ['\\', '\''] else [other])) = value.map quoted := by
    refine List.map_congr_left fun char _ => ?_
    unfold quoted
    split
    · rename_i same
      subst same
      rfl
    · rfl
  rw [each]
  change 0 + (value.map quoted).sum + 0 = _
  omega

theorem slashes_envText (values : List (String × List Char)) :
    slashes (envText values) = (values.map fun entry =>
      slashes entry.1.toList + (entry.2.map quoted).sum).sum := by
  unfold envText
  rw [slashes_flatMap, ((sortBy_perm Prod.fst values).map _).sum_eq]
  refine congrArg List.sum (List.map_congr_left fun entry _ => ?_)
  unfold envLine
  rw [slashes_append, slashes_append, slashes_cons, slashes_dotenvQuote]
  change slashes entry.1.toList + (0 + _) + 0 = _
  omega

/-- The places of a template. -/
def slotsOf (template : Template) : List Slot :=
  template.filterMap fun piece =>
    match piece with
    | .fixed _ => none
    | .slot name => some name

/-- The backslashes that the values in some places have in an environment file. -/
def load (value : Slot → List Char) (slots : List Slot) : Nat :=
  (slots.map fun name => ((value name).map quoted).sum).sum

theorem load_append (value : Slot → List Char) (slots more : List Slot) :
    load value (slots ++ more) = load value slots + load value more := by
  unfold load
  rw [List.map_append, List.sum_append]

/-- Other values change the backslashes by what is in the places. -/
theorem quoted_fill (value other : Slot → List Char) (template : Template) :
    ((fill value template).map quoted).sum + load other (slotsOf template) =
      ((fill other template).map quoted).sum + load value (slotsOf template) := by
  induction template with
  | nil => rfl
  | cons piece template ih =>
      cases piece with
      | fixed text =>
          change ((text ++ fill value template).map quoted).sum + load other (slotsOf template) =
            ((text ++ fill other template).map quoted).sum + load value (slotsOf template)
          rw [List.map_append, List.map_append, List.sum_append, List.sum_append]
          omega
      | slot name =>
          change ((value name ++ fill value template).map quoted).sum +
              (((other name).map quoted).sum + load other (slotsOf template)) =
            ((other name ++ fill other template).map quoted).sum +
              (((value name).map quoted).sum + load value (slotsOf template))
          rw [List.map_append, List.map_append, List.sum_append, List.sum_append]
          omega

theorem slashes_fillEntries (value other : Slot → List Char) (entries : List (String × Template)) :
    slashes (envText (fillEntries value entries)) +
        load other (entries.flatMap fun entry => slotsOf entry.2) =
      slashes (envText (fillEntries other entries)) +
        load value (entries.flatMap fun entry => slotsOf entry.2) := by
  rw [slashes_envText, slashes_envText]
  induction entries with
  | nil => rfl
  | cons entry entries ih =>
      have here := quoted_fill value other entry.2
      rw [List.flatMap_cons, load_append, load_append]
      unfold fillEntries at ih ⊢
      rw [List.map_cons, List.map_cons, List.map_cons, List.map_cons, List.sum_cons, List.sum_cons]
      dsimp only
      omega

/-- The places that a machine's environment has. -/
def storedSlots : Role → List Slot
  | .observer | .slave => [.urlEncoded, .postgresPassword, .urlEncoded, .minioSecretKey]
  | .driver | .minio => [.minioSecretKey]

theorem slots_envTemplate {config : DeploymentConfig} {machine : MachineConfig}
    {entries : List (String × Template)} (found : envTemplate config machine = .ok entries) :
    entries.flatMap (fun entry => slotsOf entry.2) = storedSlots machine.role := by
  unfold envTemplate at found
  cases role : machine.role with
  | observer =>
      rw [role] at found
      dsimp only at found
      cases named : DeploymentConfig.databaseName machine with
      | error error =>
          rw [named] at found
          cases found
      | ok name =>
          rw [named] at found
          cases isUrls : config.urls with
          | error error =>
              rw [isUrls] at found
              cases found
          | ok urls =>
              rw [isUrls] at found
              cases found
              rfl
  | slave =>
      rw [role] at found
      dsimp only at found
      cases named : DeploymentConfig.databaseName machine with
      | error error =>
          rw [named] at found
          cases found
      | ok name =>
          rw [named] at found
          cases isUrls : config.urls with
          | error error =>
              rw [isUrls] at found
              cases found
          | ok urls =>
              rw [isUrls] at found
              cases found
              rfl
  | driver =>
      rw [role] at found
      dsimp only at found
      cases isUrls : config.urls with
      | error error =>
          rw [isUrls] at found
          cases found
      | ok urls =>
          rw [isUrls] at found
          cases found
          rfl
  | minio =>
      rw [role] at found
      dsimp only at found
      split at found
      · cases found
      · cases found
        rfl

theorem quoted_plain {text : List Char} (none : '\\' ∉ text) :
    (text.map quoted).sum = text.count '\'' := by
  induction text with
  | nil => rfl
  | cons first rest ih =>
      rw [List.mem_cons, not_or] at none
      rw [List.map_cons, List.sum_cons, ih none.2, List.count_cons, quoted, slash,
        if_neg (Ne.symm none.1)]
      by_cases same : first = '\''
      · subst same
        rw [if_pos rfl, if_pos (by rfl)]
        omega
      · rw [if_neg same, if_neg (by simpa using same)]
        omega

/-- No secret has a backslash. -/
structure Secrets.Unescaped (secrets : Secrets) : Prop where
  internalApiSecret : '\\' ∉ secrets.internalApiSecret.chars
  postgresPassword : '\\' ∉ secrets.postgresPassword.chars
  minioSecretKey : '\\' ∉ secrets.minioSecretKey.chars
  codexApiKey : ∀ key ∈ secrets.codexApiKey, '\\' ∉ key.chars

/-- The apostrophes in the secrets that the environment of a machine stores. -/
def apostrophes (role : Role) (secrets : Secrets) : Nat :=
  match role with
  | .observer | .slave =>
      secrets.postgresPassword.chars.count '\'' + secrets.minioSecretKey.chars.count '\''
  | .driver | .minio => secrets.minioSecretKey.chars.count '\''

theorem quoted_quote (text : List Char) : ((quote text).map quoted).sum = 0 := by
  rw [quoted_plain (not_mem_quote (by decide) (by decide) text),
    List.count_eq_zero.mpr (not_mem_quote (by decide) (by decide) text)]

theorem load_storedSlots {secrets : Secrets} (unescaped : secrets.Unescaped) (role : Role) :
    load secrets.value (storedSlots role) = apostrophes role secrets := by
  have password := quoted_plain unescaped.postgresPassword
  have key := quoted_plain unescaped.minioSecretKey
  have url := quoted_quote secrets.postgresPassword.chars
  cases role <;>
    simp only [load, storedSlots, apostrophes, Secrets.value, List.map_cons, List.map_nil,
      List.sum_cons, List.sum_nil, password, key, url] <;> omega

/-! ### Previews -/

/-- The words that a preview replaces. -/
def previewWords (secrets : Secrets) : List (List Char) :=
  [secrets.internalApiSecret.chars, secrets.postgresPassword.chars, secrets.minioSecretKey.chars] ++
    secrets.codexApiKey.toList.map Secret.chars ++ [quote secrets.postgresPassword.chars]

section Previews

variable {floats : Floats} {config : DeploymentConfig} {machine : MachineConfig} {name : String}
  {secrets others : Secrets}

theorem preview_withSecrets (found : config.machine name = .ok machine) :
    preview floats (config.withSecrets secrets) name =
      (render (config.withSecrets secrets) machine).map fun rendered =>
        replaceAll (previewWords secrets) redacted
          (dumpsSorted floats (.obj rendered.1) ++ ['\n'] ++ '\n' :: envText rendered.2) := by
  have found' : (config.withSecrets secrets).machine name = .ok machine := found
  unfold preview renderProject
  rw [found']
  dsimp only [bind, Except.bind]
  cases rendered : render (config.withSecrets secrets) machine with
  | error error => rfl
  | ok pair =>
      obtain ⟨document, env⟩ := pair
      obtain ⟨internal, password, key, codex⟩ := secrets
      cases codex with
      | none => rfl
      | some codex => rfl

/-- What a preview is made of. -/
theorem preview_parts {text : List Char}
    (shown : preview floats (config.withSecrets secrets) name = .ok text) :
    ∃ machine document entries, config.machine name = .ok machine ∧
      envTemplate config machine = .ok entries ∧
      render (config.withSecrets secrets) machine =
        .ok (document, fillEntries secrets.value entries) ∧
      text = replaceAll (previewWords secrets) redacted
        (dumpsSorted floats (.obj document) ++ ['\n'] ++
          '\n' :: envText (fillEntries secrets.value entries)) := by
  cases found : config.machine name with
  | error error =>
      have found' : (config.withSecrets secrets).machine name = .error error := found
      unfold preview renderProject at shown
      rw [found'] at shown
      cases shown
  | ok machine =>
      rw [preview_withSecrets found] at shown
      cases rendered : render (config.withSecrets secrets) machine with
      | error error =>
          rw [rendered] at shown
          cases shown
      | ok pair =>
          obtain ⟨document, env⟩ := pair
          obtain ⟨entries, isTemplate, rfl⟩ := template_of_render secrets rendered
          rw [rendered] at shown
          exact ⟨machine, document, entries, rfl, isTemplate, rendered, (Except.ok.inj shown).symm⟩

theorem slashes_previewWords (unescaped : secrets.Unescaped) :
    ∀ word ∈ previewWords secrets, word ≠ [] ∧ (word.map slash).sum = (redacted.map slash).sum := by
  have mark : (redacted.map slash).sum = 0 := by decide +kernel
  intro word mem
  rw [mark]
  unfold previewWords at mem
  simp only [List.mem_append, List.mem_cons, List.not_mem_nil, or_false, List.mem_map,
    Option.mem_toList] at mem
  rcases mem with ((rfl | rfl | rfl) | ⟨key, isKey, rfl⟩) | rfl
  · exact ⟨secrets.internalApiSecret.chars_ne_nil, slashes_eq_zero unescaped.internalApiSecret⟩
  · exact ⟨secrets.postgresPassword.chars_ne_nil, slashes_eq_zero unescaped.postgresPassword⟩
  · exact ⟨secrets.minioSecretKey.chars_ne_nil, slashes_eq_zero unescaped.minioSecretKey⟩
  · exact ⟨key.chars_ne_nil, slashes_eq_zero (unescaped.codexApiKey key isKey)⟩
  · exact ⟨quote_ne_nil secrets.postgresPassword.chars_ne_nil,
      slashes_eq_zero (not_mem_quote (by decide) (by decide) _)⟩

/-- Where no secret has a backslash, the backslashes of previews differ by the apostrophes of the
secrets that are stored. -/
theorem slashes_previews (sameKey : secrets.codexApiKey.isSome = others.codexApiKey.isSome)
    (found : config.machine name = .ok machine) (unescaped : secrets.Unescaped)
    (unescaped' : others.Unescaped) {text text' : List Char}
    (shown : preview floats (config.withSecrets secrets) name = .ok text)
    (shown' : preview floats (config.withSecrets others) name = .ok text') :
    slashes text + apostrophes machine.role others =
      slashes text' + apostrophes machine.role secrets := by
  obtain ⟨machine', document, entries, found', isTemplate, rendered, rfl⟩ := preview_parts shown
  cases found.symm.trans found'
  obtain ⟨machine', document', entries', found', isTemplate', rendered', rfl⟩ :=
    preview_parts shown'
  cases found.symm.trans found'
  cases isTemplate.symm.trans isTemplate'
  have sameMass := mass_render floats config machine sameKey
  rw [rendered, rendered'] at sameMass
  have sameMass : mass floats (.obj document) = mass floats (.obj document') :=
    Except.ok.inj sameMass
  have env := slashes_fillEntries secrets.value others.value entries
  rw [slots_envTemplate isTemplate, load_storedSlots unescaped, load_storedSlots unescaped'] at env
  have first := weight_replaceAll (slashes_previewWords unescaped)
    (dumpsSorted floats (.obj document) ++ ['\n'] ++
      '\n' :: envText (fillEntries secrets.value entries))
  have second := weight_replaceAll (slashes_previewWords unescaped')
    (dumpsSorted floats (.obj document') ++ ['\n'] ++
      '\n' :: envText (fillEntries others.value entries))
  change slashes (replaceAll _ _ _) = slashes _ at first
  change slashes (replaceAll _ _ _) = slashes _ at second
  rw [first, second]
  simp only [slashes_append, slashes_cons, slashes_nil, slashes_dumpsSorted, sameMass]
  omega

end Previews

/-! ### Marked previews -/

/-- A piece of a value in an environment file. -/
def escapePiece : Piece Char Slot → Piece Char Slot
  | .fixed text => .fixed (replace ['\''] ['\\', '\''] text)
  | .slot name => .slot name

/-- A line of an environment file with places for secrets. -/
def lineTemplate (entry : String × Template) : Template :=
  .fixed (entry.1.toList ++ ['=', '\'']) :: entry.2.map escapePiece ++ [.fixed ['\'', '\n']]

/-- The texts of a machine with places for secrets. -/
def textTemplate (floats : Floats) (document : Dict) (entries : List (String × Template)) :
    Template :=
  .fixed (dumpsSorted floats (.obj document) ++ ['\n', '\n']) ::
    (sortBy Prod.fst entries).flatMap lineTemplate

theorem fill_append (value : Slot → List Char) (template more : Template) :
    fill value (template ++ more) = fill value template ++ fill value more :=
  List.flatMap_append

theorem replace_quotes_plain {text : List Char} (plain : '\'' ∉ text) :
    replace ['\''] ['\\', '\''] text = text := by
  rw [Replacement.replace_singleton]
  have each : ∀ char ∈ text, (if char = '\'' then ['\\', '\''] else [char]) = [char] := by
    intro char mem
    rw [if_neg]
    rintro rfl
    exact plain mem
  rw [List.flatMap_congr each]
  exact List.flatMap_singleton' text

theorem fill_escapePiece {value : Slot → List Char} {template : Template}
    (plain : ∀ name ∈ slotsOf template, '\'' ∉ value name) :
    fill value (template.map escapePiece) =
      replace ['\''] ['\\', '\''] (fill value template) := by
  induction template with
  | nil => rfl
  | cons piece template ih =>
      have split : ∀ front back : List Char, replace ['\''] ['\\', '\''] (front ++ back) =
          replace ['\''] ['\\', '\''] front ++ replace ['\''] ['\\', '\''] back := by
        intro front back
        simp only [Replacement.replace_singleton, List.flatMap_append]
      cases piece with
      | fixed text =>
          change replace _ _ text ++ fill value (template.map escapePiece) =
            replace _ _ (text ++ fill value template)
          rw [ih plain, split]
      | slot name =>
          have here : '\'' ∉ value name := plain name List.mem_cons_self
          have later := ih fun other mem => plain other (List.mem_cons_of_mem name mem)
          change value name ++ fill value (template.map escapePiece) =
            replace _ _ (value name ++ fill value template)
          rw [later, split, replace_quotes_plain here]

theorem fill_lineTemplate {value : Slot → List Char} {entry : String × Template}
    (plain : ∀ name ∈ slotsOf entry.2, '\'' ∉ value name) :
    fill value (lineTemplate entry) = envLine (entry.1, fill value entry.2) := by
  unfold lineTemplate envLine dotenvQuote
  change entry.1.toList ++ ['=', '\''] ++
    fill value (entry.2.map escapePiece ++ [.fixed ['\'', '\n']]) =
    _
  rw [fill_append, fill_escapePiece plain]
  change entry.1.toList ++ ['=', '\''] ++ (replace _ _ (fill value entry.2) ++ ['\'', '\n']) = _
  simp

theorem fill_textTemplate {floats : Floats} {value : Slot → List Char}
    {entries : List (String × Template)}
    (plain : ∀ name ∈ entries.flatMap (fun entry => slotsOf entry.2), '\'' ∉ value name)
    (document : Dict) :
    fill value (textTemplate floats document entries) =
      dumpsSorted floats (.obj document) ++ ['\n'] ++
        '\n' :: envText (fillEntries value entries) := by
  have lines : ∀ sorted : List (String × Template), (∀ entry ∈ sorted, entry ∈ entries) →
      fill value (sorted.flatMap lineTemplate) =
        (sorted.map fun entry => (entry.1, fill value entry.2)).flatMap envLine := by
    intro sorted listed
    induction sorted with
    | nil => rfl
    | cons entry sorted ih =>
        have here : ∀ name ∈ slotsOf entry.2, '\'' ∉ value name := fun name mem =>
          plain name (List.mem_flatMap.mpr ⟨entry, listed entry List.mem_cons_self, mem⟩)
        have later := ih fun other mem => listed other (List.mem_cons_of_mem entry mem)
        rw [List.flatMap_cons, fill_append, fill_lineTemplate here, later, List.map_cons,
          List.flatMap_cons]
  change (dumpsSorted floats (.obj document) ++ ['\n', '\n']) ++
    fill value ((sortBy Prod.fst entries).flatMap lineTemplate) = _
  rw [lines _ fun entry mem => (mem_sortBy _).mp mem]
  unfold envText fillEntries
  rw [sortBy_map]
  simp

/-- The secrets are found at their places only: the ones that the environment of the machine stores
have no apostrophe, and each secret occurs in the URL of the database and in the texts of the
machine at the places that hold it only, when the ones before it are marked. -/
structure Redactable (floats : Floats) (config : DeploymentConfig) (name : String)
    (secrets : Secrets) : Prop where
  plain : ∀ machine, config.machine name = .ok machine →
    ∀ slot ∈ storedSlots machine.role, '\'' ∉ secrets.value slot
  url : ∀ machine database, config.machine name = .ok machine →
    DeploymentConfig.databaseName machine = .ok database →
    OnlyAt (quote secrets.postgresPassword.chars) secrets.value [] (urlTemplate database)
  texts : ∀ machine document env entries, config.machine name = .ok machine →
    render (config.withSecrets secrets) machine = .ok (document, env) →
    envTemplate config machine = .ok entries →
    OnlyEach redacted (previewWords secrets) secrets.value (textTemplate floats document entries)

section Marked

variable {floats : Floats} {config : DeploymentConfig} {machine : MachineConfig} {name : String}
  {secrets others : Secrets}

/-- The preview has the mark at all places of secrets. -/
theorem Redactable.preview (redactable : Redactable floats config name secrets)
    (found : config.machine name = .ok machine) {document : Dict}
    {entries : List (String × Template)} (isTemplate : envTemplate config machine = .ok entries)
    (rendered : render (config.withSecrets secrets) machine =
      .ok (document, fillEntries secrets.value entries)) :
    preview floats (config.withSecrets secrets) name =
      .ok (fill (fun _ => redacted) (textTemplate floats document entries)) := by
  have only := redactable.texts machine document _ entries found rendered isTemplate
  have marks := only.replaceAll fun slot _ => Or.inl (by
    cases slot <;> simp [previewWords, Secrets.value])
  have plain := redactable.plain machine found
  rw [← slots_envTemplate isTemplate] at plain
  rw [preview_withSecrets found, rendered]
  change Except.ok (replaceAll (previewWords secrets) redacted _) = _
  rw [← fill_textTemplate plain, marks]

/-- The URL of the database in a document does not tell the password. -/
theorem Redactable.databaseTemplate (redactable : Redactable floats config name secrets)
    (found : config.machine name = .ok machine) {database : String}
    (named : DeploymentConfig.databaseName machine = .ok database) :
    databaseTemplate (config.withSecrets secrets) (urlText secrets database) =
      String.ofList (urlFront ++ "${POSTGRES_PASSWORD_URLENCODED}".toList ++ urlBack database) := by
  have only := redactable.url machine database found named
  have marks := @OnlyAt.replace _ _ _ _ "${POSTGRES_PASSWORD_URLENCODED}".toList
    (quote_ne_nil secrets.postgresPassword.chars_ne_nil) _ _ _ only
  rw [List.nil_append, fill_urlTemplate, List.nil_append, fill_urlTemplate, marked] at marks
  unfold Deployment.databaseTemplate urlText
  rw [show (config.withSecrets secrets).postgresPassword = secrets.postgresPassword from rfl]
  exact congrArg String.ofList (marks.trans (by
    rw [if_pos (show secrets.value .urlEncoded = quote secrets.postgresPassword.chars from rfl)]))

/-- The documents do not tell the secrets. -/
theorem document_agrees (sameKey : secrets.codexApiKey.isSome = others.codexApiKey.isSome)
    (found : config.machine name = .ok machine)
    (redactable : Redactable floats config name secrets)
    (redactable' : Redactable floats config name others) :
    (render (config.withSecrets secrets) machine).map Prod.fst =
      (render (config.withSecrets others) machine).map Prod.fst := by
  have templates : ∀ database, DeploymentConfig.databaseName machine = .ok database →
      databaseTemplate (config.withSecrets secrets) (urlText secrets database) =
        databaseTemplate (config.withSecrets others) (urlText others database) := by
    intro database named
    rw [redactable.databaseTemplate found named, redactable'.databaseTemplate found named]
  have environments : ∀ database, DeploymentConfig.databaseName machine = .ok database →
      roleEnvironment (config.withSecrets secrets) machine (urlText secrets database) =
        roleEnvironment (config.withSecrets others) machine (urlText others database) := by
    intro database named
    unfold roleEnvironment
    rw [templates database named]
    rfl
  unfold render
  cases machine.role with
  | observer =>
      dsimp only
      unfold renderObserver
      rw [databaseUrl_withSecrets, databaseUrl_withSecrets, urls_withSecrets, urls_withSecrets]
      dsimp only [bind, Except.bind, pure, Except.pure, Except.map]
      cases named : DeploymentConfig.databaseName machine with
      | error error => rfl
      | ok database =>
          cases config.urls with
          | error error => rfl
          | ok urls =>
              dsimp only
              rw [baseService_withSecrets, baseService_withSecrets, environments database named]
  | slave =>
      dsimp only
      unfold renderSlave
      rw [databaseUrl_withSecrets, databaseUrl_withSecrets, urls_withSecrets, urls_withSecrets]
      dsimp only [bind, Except.bind, pure, Except.pure, Except.map]
      cases named : DeploymentConfig.databaseName machine with
      | error error => rfl
      | ok database =>
          cases config.urls with
          | error error => rfl
          | ok urls =>
              dsimp only
              rw [baseService_withSecrets, baseService_withSecrets, environments database named]
  | driver =>
      dsimp only
      unfold renderDriver
      rw [urls_withSecrets, urls_withSecrets]
      dsimp only [bind, Except.bind, pure, Except.pure, Except.map]
      cases config.urls with
      | error error => rfl
      | ok urls =>
          have sameKey' : (config.withSecrets secrets).codexApiKey.isSome =
              (config.withSecrets others).codexApiKey.isSome := sameKey
          dsimp only
          rw [sameKey', baseService_withSecrets, baseService_withSecrets]
          rfl
  | minio =>
      dsimp only
      unfold renderMinio
      cases machine.consolePort with
      | none => rfl
      | some port => rfl

/-- Previews of a machine with secrets that are found at their places only agree. -/
theorem previews_agree (sameKey : secrets.codexApiKey.isSome = others.codexApiKey.isSome)
    (redactable : Redactable floats config name secrets)
    (redactable' : Redactable floats config name others) :
    preview floats (config.withSecrets secrets) name =
      preview floats (config.withSecrets others) name := by
  cases found : config.machine name with
  | error error =>
      have found' : (config.withSecrets secrets).machine name = .error error := found
      have found'' : (config.withSecrets others).machine name = .error error := found
      unfold Deployment.preview renderProject
      rw [found', found'']
      rfl
  | ok machine =>
      have documents := document_agrees sameKey found redactable redactable'
      cases isTemplate : envTemplate config machine with
      | error error =>
          have env := env_render config machine secrets
          have env' := env_render config machine others
          rw [isTemplate] at env env'
          rw [preview_withSecrets found, preview_withSecrets found]
          cases rendered : render (config.withSecrets secrets) machine with
          | ok pair =>
              rw [rendered] at env
              cases env
          | error raised =>
              cases rendered' : render (config.withSecrets others) machine with
              | ok pair =>
                  rw [rendered'] at env'
                  cases env'
              | error raised' =>
                  rw [rendered] at env
                  rw [rendered'] at env'
                  cases env
                  cases env'
                  rfl
      | ok entries =>
          obtain ⟨document, rendered⟩ := render_of_template secrets isTemplate
          obtain ⟨document', rendered'⟩ := render_of_template others isTemplate
          rw [rendered, rendered'] at documents
          cases documents
          rw [redactable.preview found isTemplate rendered,
            redactable'.preview found isTemplate rendered']

end Marked

/-! ### Diagnostics -/

theorem redactedWords_nonempty (config : DeploymentConfig) :
    ∀ word ∈ redactedWords config, word ≠ [] := by
  intro word mem
  unfold redactedWords at mem
  exact of_decide_eq_true (List.mem_filter.mp mem).2

/-- Where the words of a configuration are apart from the mark, none of them is left, and a text is
left in some diagnostics exactly where it has none of them. -/
theorem left_iff {config : DeploymentConfig}
    (apart : ∀ word ∈ redactedWords config, Apart word redacted) (text : List Char) :
    (∃ value, text <:+: redact config value) ↔ ∀ word ∈ redactedWords config, ¬ word <:+: text := by
  constructor
  · rintro ⟨value, left⟩ word mem inside
    exact (apart word mem).not_infix_replaceAll mem (redactedWords_nonempty config) value
      (inside.trans left)
  · intro absent
    refine ⟨text, ?_⟩
    have same : redact config text = text := by
      unfold redact
      have each : ∀ words : List (List Char), (∀ word ∈ words, word ≠ [] ∧ ¬ word <:+: text) →
          replaceAll words redacted text = text := by
        intro words absent
        induction words with
        | nil => rfl
        | cons word words ih =>
            obtain ⟨nonempty, isAbsent⟩ := absent word List.mem_cons_self
            rw [replaceAll, List.foldl_cons, Replacement.replace_absent nonempty isAbsent]
            exact ih fun other mem => absent other (List.mem_cons_of_mem word mem)
      exact each _ fun word mem => ⟨redactedWords_nonempty config word mem, absent word mem⟩
    rw [same]

/-! ### Secrets with an apostrophe -/

/-- Secrets of one letter. -/
def plainSecrets (codexApiKey : Option Secret) : Secrets where
  internalApiSecret := ⟨"i", by decide⟩
  postgresPassword := ⟨"p", by decide⟩
  minioSecretKey := ⟨"m", by decide⟩
  codexApiKey := codexApiKey.map fun _ => ⟨"k", by decide⟩

/-- One of the secrets has an apostrophe. -/
def apostropheSecrets (codexApiKey : Option Secret) : Secrets :=
  { plainSecrets codexApiKey with minioSecretKey := ⟨"u's", by decide⟩ }

theorem isSome_plainSecrets (codexApiKey : Option Secret) :
    (plainSecrets codexApiKey).codexApiKey.isSome = codexApiKey.isSome :=
  Option.isSome_map

theorem unescaped_plainSecrets (codexApiKey : Option Secret) :
    (plainSecrets codexApiKey).Unescaped where
  internalApiSecret := (by decide : '\\' ∉ "i".toList)
  postgresPassword := (by decide : '\\' ∉ "p".toList)
  minioSecretKey := (by decide : '\\' ∉ "m".toList)
  codexApiKey := by
    intro key isKey
    obtain ⟨_, -, rfl⟩ := Option.map_eq_some_iff.mp isKey
    decide

theorem unescaped_apostropheSecrets (codexApiKey : Option Secret) :
    (apostropheSecrets codexApiKey).Unescaped :=
  { unescaped_plainSecrets codexApiKey with
    minioSecretKey := (by decide : '\\' ∉ "u's".toList) }

theorem chars_apostropheSecrets (codexApiKey : Option Secret) :
    (apostropheSecrets codexApiKey).minioSecretKey.chars = ['u', '\'', 's'] :=
  (by decide : "u's".toList = ['u', '\'', 's'])

theorem apostrophes_plain_lt (role : Role) (codexApiKey : Option Secret) :
    apostrophes role (plainSecrets codexApiKey) <
      apostrophes role (apostropheSecrets codexApiKey) := by
  have password : (plainSecrets codexApiKey).postgresPassword.chars = ['p'] :=
    (by decide : "p".toList = ['p'])
  have key : (plainSecrets codexApiKey).minioSecretKey.chars = ['m'] :=
    (by decide : "m".toList = ['m'])
  have password' : (apostropheSecrets codexApiKey).postgresPassword.chars = ['p'] := password
  have key' := chars_apostropheSecrets codexApiKey
  cases role <;> simp only [apostrophes, password, key, password', key'] <;> decide

/-- A machine that has a preview has one whatever the secrets are. -/
theorem preview_withSecrets_ok {floats : Floats} {config : DeploymentConfig} {name : String}
    {text : List Char} (shown : preview floats config name = .ok text) (secrets : Secrets) :
    ∃ machine text', config.machine name = .ok machine ∧
      preview floats (config.withSecrets secrets) name = .ok text' := by
  obtain ⟨machine, document, entries, found, isTemplate, -, -⟩ :=
    preview_parts (show preview floats (config.withSecrets config.secrets) name = _ from shown)
  obtain ⟨document', rendered⟩ := render_of_template secrets isTemplate
  have again := @preview_withSecrets floats config machine name secrets found
  rw [rendered] at again
  exact ⟨machine, _, found, again⟩

/-- No preview is the same for all secrets. -/
theorem preview_varies {floats : Floats} {config : DeploymentConfig} {name : String}
    {text : List Char} (shown : preview floats config name = .ok text) :
    ∃ secrets : Secrets, secrets.codexApiKey.isSome = config.codexApiKey.isSome ∧
      preview floats (config.withSecrets secrets) name ≠ .ok text := by
  obtain ⟨machine, text', found, plain⟩ :=
    preview_withSecrets_ok shown (plainSecrets config.codexApiKey)
  obtain ⟨-, text'', -, quoted⟩ :=
    preview_withSecrets_ok shown (apostropheSecrets config.codexApiKey)
  have sameKey : (plainSecrets config.codexApiKey).codexApiKey.isSome =
      (apostropheSecrets config.codexApiKey).codexApiKey.isSome := rfl
  have same := slashes_previews sameKey found (unescaped_plainSecrets config.codexApiKey)
    (unescaped_apostropheSecrets config.codexApiKey) plain quoted
  have less := apostrophes_plain_lt machine.role config.codexApiKey
  by_cases isText : text' = text
  · refine ⟨apostropheSecrets config.codexApiKey, isSome_plainSecrets _, fun again => ?_⟩
    have same' : text'' = text := Except.ok.inj (quoted.symm.trans again)
    rw [isText, same'] at same
    omega
  · refine ⟨plainSecrets config.codexApiKey, isSome_plainSecrets _, fun again => ?_⟩
    exact isText (Except.ok.inj (plain.symm.trans again))

/-- An apostrophe hides a secret from `_redact` as the environment file writes it. -/
theorem quoted_left (config : DeploymentConfig) :
    ∃ value, dotenvQuote (apostropheSecrets config.codexApiKey).minioSecretKey.chars <:+:
      redact (config.withSecrets (apostropheSecrets config.codexApiKey)) value := by
  have words : ∀ word ∈ redactedWords (config.withSecrets (apostropheSecrets config.codexApiKey)),
      word ∈ [['i'], ['p'], ['u', '\'', 's'], ['k'], ['u', '%', '2', '7', 's']] := by
    intro word mem
    have mem := (List.mem_filter.mp mem).1
    have isQuote : quote ['p'] = ['p'] := by decide +kernel
    have isQuote' : quote ['u', '\'', 's'] = ['u', '%', '2', '7', 's'] := by decide +kernel
    cases config.codexApiKey <;>
      simp [DeploymentConfig.withSecrets, apostropheSecrets, plainSecrets, Secret.chars, isQuote,
        isQuote'] at mem ⊢ <;> grind
  rw [chars_apostropheSecrets]
  refine (left_iff (fun word mem => ?_) _).mpr fun word mem => ?_
  · have all : ∀ word ∈ [['i'], ['p'], ['u', '\'', 's'], ['k'], ['u', '%', '2', '7', 's']],
        Apart word redacted := by decide +kernel
    exact all word (words word mem)
  · have all : ∀ word ∈ [['i'], ['p'], ['u', '\'', 's'], ['k'], ['u', '%', '2', '7', 's']],
        ¬ word <:+: dotenvQuote ['u', '\'', 's'] := by decide +kernel
    exact all word (words word mem)

/-- Previews with secrets that are found at their places only agree; previews that agree have the
same number of apostrophes in the secrets that are stored, where no secret has a backslash; and no
preview is the same for all secrets.  Where the words that `_redact` replaces are apart from the
mark, a text is left in some diagnostics exactly where none of the words is in it, so that none of
the words is left; but every deployment has secrets that are left as the environment file writes
them. -/
theorem redaction_depends (floats : Floats) (config : DeploymentConfig) (name : String) :
    (∀ secrets others : Secrets,
      secrets.codexApiKey.isSome = others.codexApiKey.isSome →
      Redactable floats config name secrets → Redactable floats config name others →
      preview floats (config.withSecrets secrets) name =
        preview floats (config.withSecrets others) name) ∧
    (∀ (secrets others : Secrets) (machine : MachineConfig) (text : List Char),
      secrets.codexApiKey.isSome = others.codexApiKey.isSome → secrets.Unescaped →
      others.Unescaped → config.machine name = .ok machine →
      preview floats (config.withSecrets secrets) name = .ok text →
      preview floats (config.withSecrets others) name = .ok text →
      apostrophes machine.role secrets = apostrophes machine.role others) ∧
    (∀ text : List Char, preview floats config name = .ok text →
      ∃ secrets : Secrets, secrets.codexApiKey.isSome = config.codexApiKey.isSome ∧
        preview floats (config.withSecrets secrets) name ≠ .ok text) ∧
    (∀ text : List Char, (∀ word ∈ redactedWords config, Apart word redacted) →
      ((∃ value, text <:+: redact config value) ↔
        ∀ word ∈ redactedWords config, ¬ word <:+: text)) ∧
    ∃ (secrets : Secrets) (value : List Char),
      secrets.codexApiKey.isSome = config.codexApiKey.isSome ∧
        dotenvQuote secrets.minioSecretKey.chars <:+:
          redact (config.withSecrets secrets) value := by
  refine ⟨fun _ _ sameKey first second => previews_agree sameKey first second, ?_, ?_, ?_, ?_⟩
  · intro secrets others machine text sameKey unescaped unescaped' found shown shown'
    have same := slashes_previews sameKey found unescaped unescaped' shown shown'
    omega
  · exact fun _ shown => preview_varies shown
  · exact fun text apart => left_iff apart text
  · obtain ⟨value, left⟩ := quoted_left config
    exact ⟨apostropheSecrets config.codexApiKey, value, isSome_plainSecrets _, left⟩

/-! ### A deployment -/

namespace Demo

/-- The texts of floats do not matter. -/
def floats : Floats where
  isDouble _ := False
  repr _ := ⟨false, ['0'], []⟩
  read _ := some 0
  read_repr _ isDouble := isDouble.elim
  shape _ isDouble := isDouble.elim
  plain _ isDouble := isDouble.elim

def machine (name : String) (role : Role) (servicePort : Nat) (consolePort : Option Nat)
    (serviceId : Option ServiceId)
    (validName : isName name = true)
    (ports : ([22, servicePort] ++ consolePort.toList).all isPort = true)
    (roleFields : (role = .slave ↔ serviceId.isSome) ∧ (role ≠ .minio → consolePort = none)) :
    MachineConfig :=
  { name, sshHost := "10.0.0.1", sshUser := "loom", role, servicePort, consolePort, serviceId,
    validName, sshTokens := by decide, ports, roleFields }

def storage : MachineConfig :=
  machine "s" .minio 9000 (some 9001) none (by decide) (by decide) (by decide)

def config : DeploymentConfig where
  configPath := "deployment.toml"
  name := "c"
  remoteDir := "/srv"
  workspaceId := "w"
  internalApiSecret := ⟨"internal-token", by decide⟩
  postgresPassword := ⟨"pg-password", by decide⟩
  minioAccessKey := "loom"
  minioSecretKey := ⟨"minio-password", by decide⟩
  codexApiKey := none
  machines := [storage,
    machine "o" .observer 8080 none none (by decide) (by decide) (by decide),
    machine "d" .driver 8090 none none (by decide) (by decide) (by decide),
    machine "a" .slave 8081 none (some .slaveA) (by decide) (by decide) (by decide)]
  driver := {}
  secretPaths := []
  accepted := by decide +kernel

theorem machine_storage : config.machine "s" = .ok storage := by decide +kernel

theorem preview_storage (secrets : Secrets) :
    ∃ text, preview floats (config.withSecrets secrets) "s" = .ok text := by
  have isTemplate : envTemplate config storage = .ok (storageTemplate config) := rfl
  obtain ⟨document, rendered⟩ := render_of_template secrets isTemplate
  have again := @preview_withSecrets floats config storage "s" secrets machine_storage
  rw [rendered] at again
  exact ⟨_, again⟩

/-- The secrets occur in the texts of the storage at their places only. -/
def isFoundOnly (secrets : Secrets) : Bool :=
  match render (config.withSecrets secrets) storage, envTemplate config storage with
  | .ok (document, _), .ok entries =>
      decide (OnlyEach redacted (previewWords secrets) secrets.value
        (textTemplate floats document entries))
  | _, _ => false

theorem redactable_storage {secrets : Secrets} (plain : '\'' ∉ secrets.minioSecretKey.chars)
    (foundOnly : isFoundOnly secrets = true) : Redactable floats config "s" secrets where
  plain := by
    intro machine found slot stored
    cases machine_storage.symm.trans found
    rw [List.mem_singleton.mp stored]
    exact plain
  url := by
    intro machine database found named
    cases machine_storage.symm.trans found
    cases named
  texts := by
    intro machine document env entries found rendered isTemplate
    cases machine_storage.symm.trans found
    unfold isFoundOnly at foundOnly
    rw [rendered, isTemplate] at foundOnly
    exact of_decide_eq_true foundOnly

/-- Other secrets, one of which has an apostrophe and is not stored by the storage. -/
def otherSecrets : Secrets where
  internalApiSecret := ⟨"other-token", by decide⟩
  postgresPassword := ⟨"other'word", by decide⟩
  minioSecretKey := ⟨"other-key", by decide⟩
  codexApiKey := none

/-- The preview of the storage is the same with the other secrets, which have as many apostrophes in
what it stores, and no diagnostics have the key of the storage in them. -/
theorem redaction_hides :
    preview floats (config.withSecrets otherSecrets) "s" =
        preview floats (config.withSecrets config.secrets) "s" ∧
      apostrophes storage.role otherSecrets = apostrophes storage.role config.secrets ∧
      ¬∃ value, config.minioSecretKey.chars <:+: redact config value := by
  obtain ⟨agrees, counts, -, left, -⟩ := redaction_depends floats config "s"
  have same := agrees otherSecrets config.secrets rfl
    (redactable_storage (by decide +kernel) (by decide +kernel))
    (redactable_storage (by decide +kernel) (by decide +kernel))
  have unescaped : otherSecrets.Unescaped :=
    ⟨by decide +kernel, by decide +kernel, by decide +kernel, by decide +kernel⟩
  have unescaped' : config.secrets.Unescaped :=
    ⟨by decide +kernel, by decide +kernel, by decide +kernel, by decide +kernel⟩
  have apart : ∀ word ∈ redactedWords config, Apart word redacted := by decide +kernel
  obtain ⟨text, shown⟩ := preview_storage otherSecrets
  refine ⟨same, ?_, fun inside => ?_⟩
  · exact counts _ _ storage text rfl unescaped unescaped' machine_storage shown
      (same.symm.trans shown)
  · have listed : config.minioSecretKey.chars ∈ redactedWords config := by decide +kernel
    exact (left _ apart).mp inside _ listed (List.infix_refl _)

/-- Two secrets of the storage differ by an apostrophe; the previews differ, and what the
environment file holds is left in diagnostics. -/
theorem redaction_reveals :
    preview floats (config.withSecrets (plainSecrets none)) "s" ≠
        preview floats (config.withSecrets (apostropheSecrets none)) "s" ∧
      ∃ value, dotenvQuote (apostropheSecrets none).minioSecretKey.chars <:+:
        redact (config.withSecrets (apostropheSecrets none)) value := by
  refine ⟨fun same => ?_, quoted_left config⟩
  obtain ⟨text, plain⟩ := preview_storage (plainSecrets none)
  have sameKey : (plainSecrets none).codexApiKey.isSome =
      (apostropheSecrets none).codexApiKey.isSome := rfl
  have quoted : preview floats (config.withSecrets (apostropheSecrets none)) "s" = .ok text :=
    same.symm.trans plain
  have same' := slashes_previews sameKey machine_storage (unescaped_plainSecrets none)
    (unescaped_apostropheSecrets none) plain quoted
  have less := apostrophes_plain_lt storage.role none
  omega

end Demo

end Deployment

end Loom
