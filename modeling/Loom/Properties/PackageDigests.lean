import Loom.Contracts.Packages

/-!
# Invariance of the package digest

A restatement of a manifest permutes its exports and their permissions and changes the deployment of
its references, the case of their digests and everything outside of the identity payload.  The
exports are sorted by the normalized identity of their descriptors, but the check for duplicates
compares the resource ids as they are written.  The digest survives all restatements exactly where
exports with one normalized descriptor are the same export.
-/

namespace Loom

open SortedBy

/-- What is used of the functions of a manifest: lower case forgets the case of letters, and texts
are told apart. -/
structure ManifestEnv.Lawful (env : ManifestEnv) : Prop where
  lower : ∀ left right, Loom.lower left = Loom.lower right → env.lower left = env.lower right
  dumps : ∀ left right, env.dumps (.str left) = env.dumps (.str right) → left = right

/-! ### Restatements -/

/-- Two hexadecimal digests that differ in the case of their letters. -/
structure SameDigest (left right : String) : Prop where
  isOld : isHexDigest left
  isNew : isHexDigest right
  same : lower left = lower right

/-- The ids are equal, or content ids of one digest. -/
inductive SameId : Json → Json → Prop where
  | same (value : Json) : SameId value value
  | content {left right : String} (digest : SameDigest left right) :
      SameId (.str (contentPrefix ++ left)) (.str (contentPrefix ++ right))

inductive SameVersion : Json → Json → Prop where
  | same (value : Json) : SameVersion value value
  | digest {left right : String} (digest : SameDigest left right) :
      SameVersion (.str left) (.str right)

/-- Two references that differ in access binding, provenance and the case of digests. -/
structure SameRef (before after : Dict) : Prop where
  isOld : isResourceRef before
  isNew : isResourceRef after
  id : SameId (Dict.get before "resource_id") (Dict.get after "resource_id")
  version : SameVersion (Dict.get before "version_or_digest") (Dict.get after "version_or_digest")
  criterion : Dict.get before "identity_criterion" = Dict.get after "identity_criterion"

mutual

/-- Two values that differ in references anywhere inside. -/
inductive Restates : Json → Json → Prop where
  | same (value : Json) : Restates value value
  | ref {before after : Dict} (ref : SameRef before after) : Restates (.obj before) (.obj after)
  | arr {before after : List Json} (items : RestatesItems before after) :
      Restates (.arr before) (.arr after)
  | obj {before after : Dict} (plain : isResourceRef before = false)
      (entries : RestatesEntries before after) : Restates (.obj before) (.obj after)

inductive RestatesItems : List Json → List Json → Prop where
  | nil : RestatesItems [] []
  | cons {before after : Json} {befores afters : List Json} (item : Restates before after)
      (items : RestatesItems befores afters) : RestatesItems (before :: befores) (after :: afters)

inductive RestatesEntries : Dict → Dict → Prop where
  | nil : RestatesEntries [] []
  | cons {key : String} {before after : Json} {befores afters : Dict}
      (value : Restates before after) (entries : RestatesEntries befores afters) :
      RestatesEntries ((key, before) :: befores) ((key, after) :: afters)

end

/-- Two exports that differ in the order of the permissions and in references. -/
structure RestatesExport (before after : CapabilityExport) : Prop where
  descriptor : SameRef before.capabilityDescriptorRef.entries after.capabilityDescriptorRef.entries
  contract : SameRef before.ioContractRef.entries after.ioContractRef.entries
  effectClass : before.effectClass = after.effectClass
  permissions : before.permissions.Perm after.permissions
  replaySafety : before.replaySafety = after.replaySafety
  binding : Restates before.runtimeBinding after.runtimeBinding

/-- Two packages with the same manifest up to the order of exports and permissions, references, and
all that is not part of the manifest. -/
structure RestatesPackage (before after : CapabilityPackageVersion) : Prop where
  packageType : before.packageType = after.packageType
  execution : before.execution = after.execution
  exports : ∃ middle, before.capabilityExports.Perm middle ∧
    List.Forall₂ RestatesExport middle after.capabilityExports
  body : Restates (.obj before.body) (.obj after.body)

section Normalize

variable {env : ManifestEnv} (lawful : env.Lawful)

include lawful

theorem lower_content {left right : String} (digest : SameDigest left right) :
    env.lower (contentPrefix ++ left) = env.lower (contentPrefix ++ right) := by
  refine lawful.lower _ _ ?_
  have same := congrArg String.toList digest.same
  unfold lower at same ⊢
  rw [String.toList_append, String.toList_append, List.map_append, List.map_append]
  rw [String.toList_ofList, String.toList_ofList] at same
  rw [same]

theorem refVersion_congr {before after : Dict} (ref : SameRef before after)
    {left right : String} (same : isContentId left = isContentId right) :
    refVersion env before left = refVersion env after right := by
  unfold refVersion
  rw [same, ref.criterion]
  obtain ⟨-, -, -, version, -⟩ := ref
  generalize Dict.get before "version_or_digest" = old at version ⊢
  generalize Dict.get after "version_or_digest" = new at version ⊢
  cases version with
  | same value => rfl
  | digest digest =>
      have lowered := lawful.lower _ _ digest.same
      simp only [ManifestEnv.text, digest.isOld, digest.isNew, if_true, lowered]
      rfl

/-- Normalization forgets what references may differ in. -/
theorem normalizeRef_congr {before after : Dict} (ref : SameRef before after) :
    normalizeRef env before = normalizeRef env after := by
  unfold normalizeRef
  dsimp only
  rw [ref.criterion]
  have id := ref.id
  generalize isOld : Dict.get before "resource_id" = old at id ⊢
  generalize isNew : Dict.get after "resource_id" = new at id ⊢
  cases id with
  | same value => rw [refVersion_congr lawful ref rfl]
  | @content left right digest =>
      have inhabited : ∀ text : String, (Json.str (contentPrefix ++ text)).orElse (.str "") =
          .str (contentPrefix ++ text) := by
        intro text
        have apart : contentPrefix ++ text ≠ "" := by
          intro empty
          have length := congrArg String.length empty
          simp [contentPrefix, String.length_append] at length
        simp [Json.orElse, Json.truthy, apart]
      rw [inhabited, inhabited]
      have version := refVersion_congr lawful ref
        ((isContentId_prefixed left).trans (isContentId_prefixed right).symm)
      dsimp only [ManifestEnv.text]
      rw [version]
      unfold refIdentity
      rw [if_pos (isContentId_prefixed left), if_pos (isContentId_prefixed right),
        lower_content lawful digest]

omit lawful in
theorem isResourceRef_congr {before after : Dict}
    (keys : before.map Prod.fst = after.map Prod.fst) :
    isResourceRef before = isResourceRef after := by
  have has : ∀ {before after : Dict}, before.map Prod.fst = after.map Prod.fst →
      Dict.has before "resource_id" = Dict.has after "resource_id" := by
    intro before
    induction before with
    | nil =>
        intro after keys
        cases after with
        | nil => rfl
        | cons entry after => cases keys
    | cons entry before ih =>
        intro after keys
        cases after with
        | nil => cases keys
        | cons entry' after =>
            obtain ⟨name, value⟩ := entry
            obtain ⟨name', value'⟩ := entry'
            simp only [List.map_cons, List.cons.injEq] at keys
            obtain ⟨rfl, keys⟩ := keys
            have rest := ih keys
            unfold Dict.has at rest ⊢
            rw [List.lookup_cons, List.lookup_cons]
            split
            · rfl
            · exact rest
  have all : ∀ entries : Dict, (entries.all fun entry => resourceRefFields.contains entry.1) =
      (entries.map Prod.fst).all fun key => resourceRefFields.contains key := by
    intro entries
    rw [List.all_map]
    rfl
  unfold isResourceRef
  rw [has keys, all, all, keys]

omit lawful in
theorem RestatesEntries.keys {before after : Dict} :
    RestatesEntries before after → before.map Prod.fst = after.map Prod.fst
  | .nil => rfl
  | .cons _ entries => by
      rw [List.map_cons, List.map_cons, entries.keys]

end Normalize

section Values

variable {env : ManifestEnv}

mutual

/-- A restated value is normalized to the same value. -/
theorem normalize_congr (lawful : env.Lawful) {before after : Json} :
    Restates before after → ∀ key, normalize env key before = normalize env key after
  | .same _, _ => rfl
  | .ref ref, key => by
      unfold normalize
      rw [if_pos ref.isOld, if_pos ref.isNew, normalizeRef_congr lawful ref]
  | .arr items, key => by
      unfold normalize
      rw [normalizeItems_congr lawful items key]
  | .obj plain entries, key => by
      have plain' := (isResourceRef_congr entries.keys).symm.trans plain
      unfold normalize
      rw [if_neg (by rw [plain]; simp), if_neg (by rw [plain']; simp),
        normalizeEntries_congr lawful entries]

theorem normalizeItems_congr (lawful : env.Lawful) {before after : List Json} :
    RestatesItems before after →
      ∀ key, normalizeItems env key before = normalizeItems env key after
  | .nil, _ => rfl
  | .cons item items, key => by
      unfold normalizeItems
      rw [normalize_congr lawful item key, normalizeItems_congr lawful items key]

theorem normalizeEntries_congr (lawful : env.Lawful) {before after : Dict} :
    RestatesEntries before after → normalizeEntries env before = normalizeEntries env after
  | .nil => rfl
  | .cons value entries => by
      unfold normalizeEntries
      rw [normalize_congr lawful value, normalizeEntries_congr lawful entries]

end

end Values

/-! ### Exports -/

namespace CapabilityExport

variable (env : ManifestEnv) (exported : CapabilityExport)

/-- The normalized entries of an export before its runtime binding. -/
def normalizedEntries : Dict :=
  [("capability_descriptor_ref",
      .obj (normalizeRef env exported.capabilityDescriptorRef.entries)),
    ("io_contract_ref", .obj (normalizeRef env exported.ioContractRef.entries)),
    ("effect_class", .str exported.effectClass),
    ("permissions", .arr (sortBy env.dumps (exported.permissions.map .str))),
    ("replay_safety", .str exported.replaySafety)]

def normalizedBinding : Except Exc Json :=
  normalize env (some "runtime_binding") exported.runtimeBinding

/-- The normalized export, where the runtime binding can be normalized. -/
def normalized : Json :=
  match exported.normalizedBinding env with
  | .ok binding => .obj (exported.normalizedEntries env ++ [("runtime_binding", binding)])
  | .error _ => .null

/-- The identity of the descriptor that exports are sorted by. -/
def place : String ×ₗ String :=
  let ref := normalizeRef env exported.capabilityDescriptorRef.entries
  toLex (refText env ref "resource_id", refText env ref "version_or_digest")

end CapabilityExport

theorem normalizeItems_texts (env : ManifestEnv) (key : Option String) (texts : List String) :
    normalizeItems env key (texts.map .str) = .ok (texts.map .str) := by
  induction texts with
  | nil => rfl
  | cons text texts ih =>
      rw [List.map_cons, normalizeItems, ih]
      rfl

theorem ResourceRef.entries_isResourceRef (ref : ResourceRef) : isResourceRef ref.entries := by
  rfl

theorem normalize_ref (env : ManifestEnv) (key : Option String) (ref : ResourceRef) :
    normalize env key (.obj ref.entries) = .ok (.obj (normalizeRef env ref.entries)) := by
  rw [normalize, if_pos ref.entries_isResourceRef]

theorem normalize_permissions (env : ManifestEnv) (permissions : List String) :
    normalize env (some "permissions") (.arr (permissions.map .str)) =
      .ok (.arr (sortBy env.dumps (permissions.map .str))) := by
  rw [normalize, normalizeItems_texts]
  rfl

theorem normalize_export (env : ManifestEnv) (key : Option String) (exported : CapabilityExport) :
    normalize env key exported.toJson = (exported.normalizedBinding env).map fun binding =>
      .obj (exported.normalizedEntries env ++ [("runtime_binding", binding)]) := by
  unfold CapabilityExport.toJson
  rw [normalize, if_neg (by simp [isResourceRef, Dict.has, List.lookup_cons])]
  simp only [normalizeEntries, normalize_ref, normalize_permissions]
  unfold CapabilityExport.normalizedBinding
  cases normalize env (some "runtime_binding") exported.runtimeBinding with
  | error error => rfl
  | ok binding => rfl

/-- The runtime binding of an export can be normalized. -/
def CapabilityExport.Normalizes (env : ManifestEnv) (exported : CapabilityExport) : Prop :=
  ∃ binding, exported.normalizedBinding env = .ok binding

section Exports

variable {env : ManifestEnv}

theorem CapabilityExport.Normalizes.eq {exported : CapabilityExport}
    (normalizes : exported.Normalizes env) (key : Option String) :
    normalize env key exported.toJson = .ok (exported.normalized env) := by
  obtain ⟨binding, isBinding⟩ := normalizes
  rw [normalize_export, CapabilityExport.normalized, isBinding]
  rfl

theorem exportKey_normalized {exported : CapabilityExport}
    (normalizes : exported.Normalizes env) : ∃ key, exportKey env (exported.normalized env) =
      .ok key ∧ key.isDescriptor ∧ key.place = exported.place env := by
  obtain ⟨binding, isBinding⟩ := normalizes
  refine ⟨.descriptor (refText env (normalizeRef env exported.capabilityDescriptorRef.entries)
    "resource_id") (refText env (normalizeRef env exported.capabilityDescriptorRef.entries)
      "version_or_digest"), ?_, rfl, rfl⟩
  rw [CapabilityExport.normalized, isBinding]
  rfl

theorem normalizeItems_exports {exports : List CapabilityExport} (key : Option String)
    (normalize : ∀ exported ∈ exports, exported.Normalizes env) :
    normalizeItems env key (exports.map CapabilityExport.toJson) =
      .ok (exports.map (CapabilityExport.normalized env)) := by
  induction exports with
  | nil => rfl
  | cons exported exports ih =>
      rw [List.map_cons, normalizeItems, (normalize exported (by simp)).eq,
        ih fun other member => normalize other (List.mem_cons_of_mem _ member)]
      rfl

theorem each_exportKey {exports : List CapabilityExport}
    (normalizes : ∀ exported ∈ exports, exported.Normalizes env) :
    ∃ keys : CapabilityExport → ExportKey,
      (∀ exported ∈ exports, (keys exported).isDescriptor ∧
        (keys exported).place = exported.place env) ∧
      Except.each (fun item => (exportKey env item).map fun key => (key, item))
        (exports.map (CapabilityExport.normalized env)) =
          .ok (exports.map fun exported => (keys exported, exported.normalized env)) := by
  have chosen : ∀ exported : CapabilityExport, ∃ key, exported ∈ exports →
      exportKey env (exported.normalized env) = .ok key ∧ key.isDescriptor ∧
        key.place = exported.place env := by
    intro exported
    by_cases member : exported ∈ exports
    · obtain ⟨key, isKey⟩ := exportKey_normalized (normalizes exported member)
      exact ⟨key, fun _ => isKey⟩
    · exact ⟨.text "", fun member' => absurd member' member⟩
  choose keys isKey using chosen
  refine ⟨keys, fun exported member => (isKey exported member).2, ?_⟩
  clear normalizes
  induction exports with
  | nil => rfl
  | cons exported exports ih =>
      have rest := ih fun other member => isKey other (List.mem_cons_of_mem _ member)
      rw [List.map_cons, Except.each, (isKey exported (by simp)).1, rest]
      rfl

/-- The exports whose items can all be normalized, sorted by their places. -/
theorem sortExports_normalized {exports : List CapabilityExport}
    (normalizes : ∀ exported ∈ exports, exported.Normalizes env) :
    sortExports env (exports.map (CapabilityExport.normalized env)) =
      .ok ((sortBy (CapabilityExport.place env) exports).map
        (CapabilityExport.normalized env)) := by
  obtain ⟨keys, isKey, each⟩ := each_exportKey normalizes
  have descriptors : ((exports.map fun exported =>
      (keys exported, exported.normalized env)).all fun entry => entry.1.isDescriptor) = true := by
    rw [List.all_map, List.all_eq_true]
    exact fun exported member => (isKey exported member).1
  have sorted : sortBy (fun exported => (keys exported).place) exports =
      sortBy (CapabilityExport.place env) exports := by
    refine sortBy_congr _ fun exported member => (isKey exported member).2
  unfold sortExports
  rw [each]
  change (if (_ || _) = true then _ else _) = _
  rw [descriptors, Bool.true_or, if_pos rfl, sortBy_map, List.map_map, sorted]
  rfl

end Exports

/-! ### The payload -/

/-- The normalized manifest of a package, given its normalized body. -/
def CapabilityPackageVersion.normalizedManifest (env : ManifestEnv)
    (package : CapabilityPackageVersion) (body : Json) : Json :=
  .obj [("package_type", .str package.packageType),
    ("execution", .obj [("kind", .str package.execution.kind),
      ("version", .str package.execution.version)]),
    ("capability_exports", .arr ((sortBy (CapabilityExport.place env)
      package.capabilityExports).map (CapabilityExport.normalized env))),
    ("body", body)]

section Payload

variable {env : ManifestEnv}

theorem normalizeItems_normalizes {exports : List CapabilityExport} {key : Option String}
    {items : List Json}
    (result : normalizeItems env key (exports.map CapabilityExport.toJson) = .ok items) :
    ∀ exported ∈ exports, exported.Normalizes env := by
  induction exports generalizing items with
  | nil => simp
  | cons exported exports ih =>
      rw [List.map_cons, normalizeItems, normalize_export] at result
      cases isBinding : exported.normalizedBinding env with
      | error error =>
          rw [isBinding] at result
          cases result
      | ok binding =>
          rw [isBinding] at result
          cases rest : normalizeItems env key (exports.map CapabilityExport.toJson) with
          | error error =>
              rw [rest] at result
              cases result
          | ok others =>
              intro other member
              rcases List.mem_cons.1 member with rfl | member
              · exact ⟨binding, isBinding⟩
              · exact ih rest other member

theorem normalize_exports {exports : List CapabilityExport}
    (normalizes : ∀ exported ∈ exports, exported.Normalizes env) :
    normalize env (some "capability_exports") (.arr (exports.map CapabilityExport.toJson)) =
      .ok (.arr ((sortBy (CapabilityExport.place env) exports).map
        (CapabilityExport.normalized env))) := by
  rw [normalize, normalizeItems_exports _ normalizes]
  change (sortExports env _).map Json.arr = _
  rw [sortExports_normalized normalizes]
  rfl

theorem identityPayload_eq (package : CapabilityPackageVersion) :
    package.identityPayload env = (do
      let exports ← normalize env (some "capability_exports")
        (.arr (package.capabilityExports.map CapabilityExport.toJson))
      let body ← normalize env (some "body") (.obj package.body)
      .ok (.obj [("package_type", .str package.packageType),
        ("execution", .obj [("kind", .str package.execution.kind),
          ("version", .str package.execution.version)]),
        ("capability_exports", exports), ("body", body)])) := by
  unfold CapabilityPackageVersion.identityPayload CapabilityPackageVersion.manifest
  rw [normalize, if_neg (by simp [isResourceRef, Dict.has, List.lookup_cons])]
  rw [normalizeEntries, normalizeEntries, normalizeEntries, normalizeEntries, normalizeEntries]
  cases normalize env (some "capability_exports")
    (.arr (package.capabilityExports.map CapabilityExport.toJson)) with
  | error error => rfl
  | ok exports =>
      cases normalize env (some "body") (.obj package.body) with
      | error error => rfl
      | ok body => rfl

theorem identityPayload_of {package : CapabilityPackageVersion} {body : Json}
    (normalizes : ∀ exported ∈ package.capabilityExports, exported.Normalizes env)
    (isBody : normalize env (some "body") (.obj package.body) = .ok body) :
    package.identityPayload env = .ok (package.normalizedManifest env body) := by
  rw [identityPayload_eq, normalize_exports normalizes, isBody]
  rfl

/-- Where there is a payload, all exports and the body can be normalized. -/
theorem identityPayload_ok {package : CapabilityPackageVersion} {payload : Json}
    (result : package.identityPayload env = .ok payload) :
    (∀ exported ∈ package.capabilityExports, exported.Normalizes env) ∧
      ∃ body, normalize env (some "body") (.obj package.body) = .ok body := by
  rw [identityPayload_eq] at result
  cases isExports : normalize env (some "capability_exports")
      (.arr (package.capabilityExports.map CapabilityExport.toJson)) with
  | error error =>
      rw [isExports] at result
      cases result
  | ok exports =>
      rw [isExports] at result
      constructor
      · rw [normalize] at isExports
        cases items : normalizeItems env (some "capability_exports")
            (package.capabilityExports.map CapabilityExport.toJson) with
        | ok items' => exact normalizeItems_normalizes items
        | error error =>
            rw [items] at isExports
            cases isExports
      · cases isBody : normalize env (some "body") (.obj package.body) with
        | ok body => exact ⟨body, rfl⟩
        | error error =>
            rw [isBody] at result
            cases result

theorem canonical_normalizedManifest (package : CapabilityPackageVersion) (body : Json) :
    (package.normalizedManifest env body).canonical =
      .obj [("body", body.canonical),
        ("capability_exports", .arr ((sortBy (CapabilityExport.place env)
          package.capabilityExports).map fun exported => (exported.normalized env).canonical)),
        ("execution", .obj [("kind", .str package.execution.kind),
          ("version", .str package.execution.version)]),
        ("package_type", .str package.packageType)] := by
  unfold CapabilityPackageVersion.normalizedManifest
  simp only [Json.canonical, Json.canonicalEntries, Json.canonicalItems_eq, List.map_map]
  simp [sortBy, List.insertionSort, List.orderedInsert]

end Payload

/-! ### Invariance -/

/-- Exports with the same normalized descriptor are the same export. -/
def CapabilityPackageVersion.Distinguished (env : ManifestEnv)
    (package : CapabilityPackageVersion) : Prop :=
  Separates (CapabilityExport.place env) (fun exported => (exported.normalized env).canonical)
    package.capabilityExports

section Invariance

variable {env : ManifestEnv}

theorem permissions_congr (lawful : env.Lawful) {before after : List String}
    (perm : before.Perm after) :
    sortBy env.dumps (before.map .str) = sortBy env.dumps (after.map .str) := by
  have separates : Separates env.dumps id (before.map Json.str) := by
    intro left isLeft right isRight same
    obtain ⟨text, -, rfl⟩ := List.mem_map.1 isLeft
    obtain ⟨text', -, rfl⟩ := List.mem_map.1 isRight
    rw [lawful.dumps text text' same]
  have sorted := (sortBy_invariant_iff env.dumps).2 separates _ (perm.map Json.str)
  rw [List.map_id, List.map_id] at sorted
  exact sorted.symm

namespace RestatesExport

variable {before after : CapabilityExport} (restates : RestatesExport before after)

include restates

theorem place (lawful : env.Lawful) : before.place env = after.place env := by
  unfold CapabilityExport.place
  rw [normalizeRef_congr lawful restates.descriptor]

theorem binding_eq (lawful : env.Lawful) :
    before.normalizedBinding env = after.normalizedBinding env :=
  normalize_congr lawful restates.binding _

theorem normalized (lawful : env.Lawful) : before.normalized env = after.normalized env := by
  unfold CapabilityExport.normalized CapabilityExport.normalizedEntries
  rw [restates.binding_eq lawful, normalizeRef_congr lawful restates.descriptor,
    normalizeRef_congr lawful restates.contract, restates.effectClass, restates.replaySafety,
    permissions_congr lawful restates.permissions]

theorem normalizes (lawful : env.Lawful) (isNormal : before.Normalizes env) :
    after.Normalizes env := by
  obtain ⟨binding, isBinding⟩ := isNormal
  exact ⟨binding, (restates.binding_eq lawful).symm.trans isBinding⟩

end RestatesExport

theorem RestatesExport.refl (exported : CapabilityExport) : RestatesExport exported exported where
  descriptor := ⟨rfl, rfl, .same _, .same _, rfl⟩
  contract := ⟨rfl, rfl, .same _, .same _, rfl⟩
  effectClass := rfl
  permissions := .refl _
  replaySafety := rfl
  binding := .same _

theorem views_of_restates (lawful : env.Lawful) {before after : List CapabilityExport}
    (restates : List.Forall₂ RestatesExport before after) :
    (before.map fun exported => (exported.place env, (exported.normalized env).canonical)) =
      after.map fun exported => (exported.place env, (exported.normalized env).canonical) := by
  induction restates with
  | nil => rfl
  | cons restated _ ih =>
      rw [List.map_cons, List.map_cons, ih, restated.place lawful, restated.normalized lawful]

theorem normalizes_of_restates (lawful : env.Lawful) {before after : List CapabilityExport}
    (restates : List.Forall₂ RestatesExport before after)
    (normalizes : ∀ exported ∈ before, exported.Normalizes env) :
    ∀ exported ∈ after, exported.Normalizes env := by
  induction restates with
  | nil => simp
  | cons restated _ ih =>
      intro exported member
      rcases List.mem_cons.1 member with rfl | member
      · exact restated.normalizes lawful (normalizes _ (by simp))
      · exact ih (fun other isOther => normalizes other (List.mem_cons_of_mem _ isOther))
          exported member

/-- What two packages need for the same canonical payload. -/
theorem canonical_eq_iff {before after : CapabilityPackageVersion} {body : Json}
    (packageType : before.packageType = after.packageType)
    (execution : before.execution = after.execution) :
    (after.normalizedManifest env body).canonical = (before.normalizedManifest env body).canonical ↔
      ((sortBy (CapabilityExport.place env) after.capabilityExports).map fun exported =>
          (exported.normalized env).canonical) =
        (sortBy (CapabilityExport.place env) before.capabilityExports).map fun exported =>
          (exported.normalized env).canonical := by
  rw [canonical_normalizedManifest, canonical_normalizedManifest, packageType, execution]
  simp

theorem identityDigest_of {hash : Json → Except Exc String} {package : CapabilityPackageVersion}
    {body : Json} (normalizes : ∀ exported ∈ package.capabilityExports, exported.Normalizes env)
    (isBody : normalize env (some "body") (.obj package.body) = .ok body) :
    package.identityDigest env hash = hash (package.normalizedManifest env body).canonical := by
  unfold CapabilityPackageVersion.identityDigest
  rw [identityPayload_of normalizes isBody]
  rfl

/-- What the validation of a package says of its payload. -/
theorem CapabilityPackageVersion.validate_ok {hash : Json → Except Exc String}
    {package stored : CapabilityPackageVersion}
    (validates : package.validate env hash = .ok stored) :
    ∃ payload, package.identityPayload env = .ok payload := by
  unfold CapabilityPackageVersion.validate CapabilityPackageVersion.initDigest
    CapabilityPackageVersion.identityDigest at validates
  cases isPayload : package.identityPayload env with
  | ok payload => exact ⟨payload, rfl⟩
  | error error =>
      rw [isPayload] at validates
      by_cases empty : package.capabilityExports = []
      · rw [if_pos empty] at validates
        cases validates
      · rw [if_neg empty] at validates
        cases isEach : Except.each CapabilityExport.validateRefs package.capabilityExports with
        | error error' =>
            rw [isEach] at validates
            cases validates
        | ok units =>
            rw [isEach] at validates
            cases validates

theorem CapabilityPackageVersion.validate_of {hash : Json → Except Exc String}
    {package : CapabilityPackageVersion} {digest : String}
    (inhabited : package.capabilityExports ≠ [])
    (refs : ∀ exported ∈ package.capabilityExports, exported.validateRefs = .ok ())
    (isNew : package.packageDigest = "") (isDigest : package.identityDigest env hash = .ok digest)
    (distinct : (package.capabilityExports.map fun item =>
      (item.capabilityDescriptorRef.resourceId, item.capabilityDescriptorRef.digest)).Nodup)
    (contract : env.contract package.manifest = .ok ()) :
    package.validate env hash = .ok { package with packageDigest := digest } := by
  have each : ∀ exports : List CapabilityExport,
      (∀ exported ∈ exports, exported.validateRefs = .ok ()) →
        Except.each CapabilityExport.validateRefs exports = .ok (exports.map fun _ => ()) := by
    intro exports refs
    induction exports with
    | nil => rfl
    | cons exported exports ih =>
        rw [Except.each, refs exported (by simp),
          ih fun other member => refs other (List.mem_cons_of_mem _ member)]
        rfl
  unfold CapabilityPackageVersion.validate CapabilityPackageVersion.initDigest
  rw [if_neg inhabited, each _ refs, isDigest, isNew]
  change (do
    ({ package with packageDigest := digest } : CapabilityPackageVersion).validateContract env
    Except.ok ({ package with packageDigest := digest } : CapabilityPackageVersion)) = _
  unfold CapabilityPackageVersion.validateContract
  rw [if_neg (not_not.2 distinct)]
  change (do
    env.contract package.manifest
    Except.ok ({ package with packageDigest := digest } : CapabilityPackageVersion)) = _
  rw [contract]
  rfl

/-- A manifest that validates keeps its digest under all restatements, whatever the digest of
canonical JSON is, exactly where exports with the same normalized descriptor are the same export. -/
theorem packageDigest_invariant_iff (lawful : env.Lawful) {hash : Json → Except Exc String}
    {package stored : CapabilityPackageVersion}
    (validates : package.validate env hash = .ok stored) :
    (∀ (hash : Json → Except Exc String) (restated : CapabilityPackageVersion),
      RestatesPackage package restated →
        restated.identityDigest env hash = package.identityDigest env hash) ↔
      package.Distinguished env := by
  obtain ⟨payload, isPayload⟩ := CapabilityPackageVersion.validate_ok validates
  obtain ⟨normalizes, body, isBody⟩ := identityPayload_ok isPayload
  constructor
  · intro invariant
    refine (sortBy_invariant_iff _).1 fun others perm => ?_
    let restated := { package with capabilityExports := others }
    have restates : RestatesPackage package restated :=
      ⟨rfl, rfl, ⟨others, perm, List.forall₂_same.2 fun exported _ => .refl exported⟩, .same _⟩
    have normalizes' : ∀ exported ∈ restated.capabilityExports, exported.Normalizes env :=
      fun exported member => normalizes exported (perm.mem_iff.2 member)
    let canonical := (package.normalizedManifest env body).canonical
    have digests := invariant
      (fun payload => .ok (if payload = canonical then "same" else "other")) restated restates
    rw [identityDigest_of normalizes isBody, identityDigest_of normalizes' isBody,
      if_pos rfl] at digests
    have same : (restated.normalizedManifest env body).canonical = canonical := by
      by_contra other
      rw [if_neg other] at digests
      simp at digests
    have order : package.packageType = restated.packageType ∧
        package.execution = restated.execution := ⟨rfl, rfl⟩
    exact (canonical_eq_iff order.1 order.2).1 same
  · intro distinguished hash' restated restates
    obtain ⟨middle, perm, exports⟩ := restates.exports
    have isMiddle : ∀ exported ∈ middle, exported.Normalizes env :=
      fun exported member => normalizes exported (perm.mem_iff.2 member)
    have isBody' : normalize env (some "body") (.obj restated.body) = .ok body := by
      rw [← normalize_congr lawful restates.body]
      exact isBody
    rw [identityDigest_of normalizes isBody,
      identityDigest_of (normalizes_of_restates lawful exports isMiddle) isBody']
    refine congrArg hash' ((canonical_eq_iff restates.packageType restates.execution).2 ?_)
    rw [← (sortBy_invariant_iff _).2 distinguished middle perm]
    exact sortBy_view_congr _ (views_of_restates lawful exports).symm

end Invariance

/-! ### Two descriptors of one identity -/

namespace Demo

/-- Texts without escapes, and the contract of packages as it answers for the manifests below. -/
def manifestEnv : ManifestEnv where
  lower := lower
  str := fun _ => ""
  dumps
    | .str text => "\"" ++ text ++ "\""
    | _ => ""
  contract := fun _ => .ok ()

def echoExport (descriptor contract : Char) (path : String) : CapabilityExport where
  capabilityDescriptorRef :=
    { resourceId := contentPrefix ++ digestOf descriptor
      versionOrDigest := some (digestOf '1')
      identityCriterion := some "descriptor_digest" }
  ioContractRef :=
    { resourceId := contentPrefix ++ digestOf contract
      identityCriterion := some "content_digest" }
  effectClass := "pure"
  replaySafety := "safe"
  runtimeBinding := .obj [("path", .str path)]

/-- The descriptor with its digest in capital letters. -/
def upperExport : CapabilityExport := echoExport 'A' '2' "/one"

def lowerExport : CapabilityExport := echoExport 'a' '3' "/two"

def echoBody : Dict :=
  [("image_ref", .str ("registry.example/echo@sha256:" ++ digestOf '4')),
    ("container_port", .int 8080), ("health_path", .str "/health")]

def echoService (exports : List CapabilityExport) : CapabilityPackageVersion where
  packageType := "service"
  packageId := "echo"
  packageVersion := "1"
  packageClosureVersionRef := "closure://run-1/1"
  sourceRunRef := "run-1"
  sourceClosureVersionRef := "closure://run-1/1"
  execution := { kind := "container:http" }
  capabilityExports := exports
  body := echoBody

/-- The payload with the export in capital letters first. -/
def upperFirst : Json :=
  ((echoService [upperExport, lowerExport]).normalizedManifest manifestEnv
    (.obj echoBody)).canonical

/-- `digest_json` of the payloads of the two orders. -/
def packageHash (payload : Json) : Except Exc String :=
  .ok (if payload = upperFirst
    then "0014c69c5a675c484ed97734c07397334f81dd22d673d9510eee1e1dd70cf817"
    else "2bf09ea2ca9e4e98c4711a84a57d57fdccbd8414cf42d4930b943a25a2f32fba")

theorem manifestEnv_lawful : manifestEnv.Lawful where
  lower := fun _ _ same => same
  dumps := by
    intro left right same
    have texts := congrArg String.toList same
    simp only [manifestEnv, String.toList_append] at texts
    exact String.toList_inj.1 (List.append_cancel_left (List.append_cancel_right texts))

theorem validateRefs_echoExport {descriptor contract : Char} (path : String)
    (digit : contract ∈ "0123456789abcdef".toList) :
    (echoExport descriptor contract path).validateRefs = .ok () := by
  have apart : contentPrefix ++ digestOf descriptor ≠ "" := by
    simp [contentPrefix]
  simp only [CapabilityExport.validateRefs, ResourceRef.validateIdentity, echoExport,
    isContentId_prefixed, contentSuffix_prefix, isSha256_digestOf (show '1' ∈ _ by decide),
    isSha256_digestOf digit, apart]
  rfl

theorem sameRef_descriptor :
    SameRef upperExport.capabilityDescriptorRef.entries
      lowerExport.capabilityDescriptorRef.entries where
  isOld := rfl
  isNew := rfl
  id := .content ⟨by simp [isHexDigest, digestOf, ← String.length_toList],
    by simp [isHexDigest, digestOf, ← String.length_toList],
    by simp only [lower, digestOf, String.toList_ofList, List.map_replicate]; rfl⟩
  version := .same _
  criterion := rfl

theorem place_descriptor : upperExport.place manifestEnv = lowerExport.place manifestEnv := by
  unfold CapabilityExport.place
  rw [normalizeRef_congr manifestEnv_lawful sameRef_descriptor]

theorem sortBy_pair {left right : CapabilityExport}
    (same : left.place manifestEnv = right.place manifestEnv) :
    sortBy (CapabilityExport.place manifestEnv) [left, right] = [left, right] := by
  simp [sortBy, List.insertionSort, same]

theorem canonical_descriptor : (upperExport.normalized manifestEnv).canonical ≠
    (lowerExport.normalized manifestEnv).canonical := by
  intro same
  have binding : ∀ exported : CapabilityExport,
      exported.normalizedBinding manifestEnv = .ok exported.runtimeBinding →
        (exported.normalized manifestEnv).canonical = .obj (sortBy Prod.fst
          (Json.canonicalEntries (exported.normalizedEntries manifestEnv ++
            [("runtime_binding", exported.runtimeBinding)]))) := by
    intro exported isBinding
    rw [CapabilityExport.normalized, isBinding]
    dsimp only
    rw [Json.canonical]
  rw [binding upperExport rfl, binding lowerExport rfl] at same
  simp [CapabilityExport.normalizedEntries, Json.canonicalEntries, Json.canonical, sortBy,
    List.insertionSort, List.orderedInsert, upperExport, lowerExport, echoExport] at same

theorem payload_descriptor : ((echoService [lowerExport, upperExport]).normalizedManifest
    manifestEnv (.obj echoBody)).canonical ≠ upperFirst := by
  intro same
  unfold upperFirst at same
  have restated : (echoService [upperExport, lowerExport]).packageType =
      (echoService [lowerExport, upperExport]).packageType := rfl
  have order := (canonical_eq_iff restated rfl).1 same
  have upper : sortBy (CapabilityExport.place manifestEnv)
      (echoService [upperExport, lowerExport]).capabilityExports = [upperExport, lowerExport] :=
    sortBy_pair place_descriptor
  have lower : sortBy (CapabilityExport.place manifestEnv)
      (echoService [lowerExport, upperExport]).capabilityExports = [lowerExport, upperExport] :=
    sortBy_pair (place_descriptor).symm
  rw [upper, lower, List.map_cons, List.map_cons] at order
  exact canonical_descriptor (List.cons.inj order).1.symm

/-- The manifest with the two exports, in either order, validates with the digest of its payload. -/
theorem validate_echoService {exports : List CapabilityExport} {digest : String}
    (perm : [upperExport, lowerExport].Perm exports)
    (isDigest : packageHash ((echoService exports).normalizedManifest manifestEnv
      (.obj echoBody)).canonical = .ok digest) :
    (echoService exports).validate manifestEnv packageHash =
      .ok { echoService exports with packageDigest := digest } := by
  have each : ∀ exported ∈ exports, exported = upperExport ∨ exported = lowerExport := by
    intro exported member
    simpa using perm.mem_iff.2 member
  have inhabited : exports ≠ [] := by
    rintro rfl
    simpa using perm.length_eq
  have distinct : ([upperExport, lowerExport].map fun item =>
      (item.capabilityDescriptorRef.resourceId, item.capabilityDescriptorRef.digest)).Nodup := by
    have apart : digestOf 'A' ≠ digestOf 'a' := by
      intro same
      have chars := congrArg String.toList same
      simp [digestOf] at chars
    simp [upperExport, lowerExport, echoExport, apart]
  refine CapabilityPackageVersion.validate_of inhabited ?_ rfl ?_ ((perm.map _).nodup distinct) rfl
  · intro exported member
    rcases each exported member with rfl | rfl
    · exact validateRefs_echoExport _ (by decide)
    · exact validateRefs_echoExport _ (by decide)
  · have isBody : normalize manifestEnv (some "body") (.obj (echoService exports).body) =
        .ok (.obj echoBody) := rfl
    rw [identityDigest_of ?_ isBody]
    · exact isDigest
    · intro exported member
      rcases each exported member with rfl | rfl
      · exact ⟨_, rfl⟩
      · exact ⟨_, rfl⟩

/-- An export with permissions, under another descriptor. -/
def writeExport : CapabilityExport :=
  { echoExport 'b' '2' "/write" with permissions := ["net", "disk"] }

/-- The export with its permissions in the other order and its contract stored elsewhere. -/
def writeRestated : CapabilityExport :=
  { echoExport 'b' '2' "/write" with
    permissions := ["disk", "net"]
    ioContractRef :=
      { resourceId := contentPrefix ++ digestOf '2'
        accessBinding := .obj [("bucket", .str "loom")]
        identityCriterion := some "content_digest"
        provenance := [.str "run-1"] } }

/-- The export with the digest of its descriptor in small letters. -/
def upperRestated : CapabilityExport :=
  { upperExport with capabilityDescriptorRef := lowerExport.capabilityDescriptorRef }

theorem restates_upper : RestatesExport upperExport upperRestated :=
  { RestatesExport.refl upperExport with descriptor := sameRef_descriptor }

theorem restates_write : RestatesExport writeExport writeRestated :=
  { RestatesExport.refl writeExport with
    contract := ⟨rfl, rfl, .same _, .same _, rfl⟩
    permissions := .swap _ _ _ }

theorem place_write : upperExport.place manifestEnv ≠ writeExport.place manifestEnv := by
  decide +kernel

end Demo

/-- A manifest with two exports keeps its digest where these change places, one with its descriptor
in small letters and one with its permissions in the other order and its contract elsewhere. -/
theorem packageDigest_invariant_permuted :
    ({ Demo.echoService [Demo.writeRestated, Demo.upperRestated] with packageVersion := "2" } :
      CapabilityPackageVersion).identityDigest Demo.manifestEnv Demo.packageHash =
        (Demo.echoService [Demo.upperExport, Demo.writeExport]).identityDigest Demo.manifestEnv
          Demo.packageHash := by
  let package := Demo.echoService [Demo.upperExport, Demo.writeExport]
  let hash : Json → Except Exc String := fun _ =>
    .ok "0014c69c5a675c484ed97734c07397334f81dd22d673d9510eee1e1dd70cf817"
  have each : ∀ exported ∈ package.capabilityExports,
      exported = Demo.upperExport ∨ exported = Demo.writeExport := by
    intro exported member
    rcases List.mem_cons.1 member with same | member
    · exact .inl same
    · exact .inr (List.mem_singleton.1 member)
  have refs : ∀ exported ∈ package.capabilityExports, exported.validateRefs = .ok () := by
    intro exported member
    rcases each exported member with rfl | rfl
    · exact Demo.validateRefs_echoExport _ (by decide)
    · exact Demo.validateRefs_echoExport "/write" (by decide)
  have isDigest : package.identityDigest Demo.manifestEnv hash =
      .ok "0014c69c5a675c484ed97734c07397334f81dd22d673d9510eee1e1dd70cf817" := rfl
  have inhabited : package.capabilityExports ≠ [] := by
    simp [package, Demo.echoService]
  have validates := CapabilityPackageVersion.validate_of inhabited refs rfl isDigest
    (by decide +kernel) rfl
  have distinguished : package.Distinguished Demo.manifestEnv := by
    intro left isLeft right isRight same
    rcases each left isLeft with rfl | rfl <;> rcases each right isRight with rfl | rfl
    · rfl
    · exact absurd same Demo.place_write
    · exact absurd same.symm Demo.place_write
    · rfl
  have swap : package.capabilityExports.Perm [Demo.writeExport, Demo.upperExport] := .swap _ _ _
  refine (packageDigest_invariant_iff Demo.manifestEnv_lawful validates).2 distinguished
    Demo.packageHash _ ?_
  exact ⟨rfl, rfl, ⟨_, swap, .cons Demo.restates_write (.cons Demo.restates_upper .nil)⟩, .same _⟩

/-- Two exports whose content ids differ in the case of their digest validate in both orders, with
two digests. -/
theorem packageDigest_depends_on_order :
    RestatesPackage (Demo.echoService [Demo.upperExport, Demo.lowerExport])
        (Demo.echoService [Demo.lowerExport, Demo.upperExport]) ∧
      (Demo.echoService [Demo.upperExport, Demo.lowerExport]).validate Demo.manifestEnv
          Demo.packageHash =
        .ok { Demo.echoService [Demo.upperExport, Demo.lowerExport] with packageDigest :=
          "0014c69c5a675c484ed97734c07397334f81dd22d673d9510eee1e1dd70cf817" } ∧
      (Demo.echoService [Demo.lowerExport, Demo.upperExport]).validate Demo.manifestEnv
          Demo.packageHash =
        .ok { Demo.echoService [Demo.lowerExport, Demo.upperExport] with packageDigest :=
          "2bf09ea2ca9e4e98c4711a84a57d57fdccbd8414cf42d4930b943a25a2f32fba" } := by
  have swap : [Demo.upperExport, Demo.lowerExport].Perm [Demo.lowerExport, Demo.upperExport] :=
    .swap _ _ _
  have first : Demo.packageHash Demo.upperFirst =
      .ok "0014c69c5a675c484ed97734c07397334f81dd22d673d9510eee1e1dd70cf817" := by
    unfold Demo.packageHash
    rw [if_pos rfl]
  have second : Demo.packageHash ((Demo.echoService
      [Demo.lowerExport, Demo.upperExport]).normalizedManifest Demo.manifestEnv
        (.obj Demo.echoBody)).canonical =
      .ok "2bf09ea2ca9e4e98c4711a84a57d57fdccbd8414cf42d4930b943a25a2f32fba" := by
    unfold Demo.packageHash
    rw [if_neg Demo.payload_descriptor]
  refine ⟨⟨rfl, rfl, ⟨_, swap, List.forall₂_same.2 fun exported _ => .refl exported⟩, .same _⟩,
    Demo.validate_echoService (.refl _) first, Demo.validate_echoService swap second⟩

end Loom
