import Loom.Contracts.Closures
import Loom.Keyed

/-!
# What the digest of a closure identifies

`canonical_digest` leaves the access bindings of references out of the payload, and with them every
entry of that name in the values whose shape the contract leaves open.  The rest of a closure is in
its payload, so closures that have no such entry are told apart by their digests.
-/

namespace Loom

open SortedBy

/-! ### Kernels -/

/-- Two functions tell the same values apart. -/
def SameKernel {α β γ : Type} (left : α → β) (right : α → γ) : Prop :=
  ∀ first second, left first = left second ↔ right first = right second

namespace SameKernel

variable {α β γ : Type} {left : α → β} {right : α → γ}

theorem list (same : SameKernel left right) : SameKernel (List.map left) (List.map right) := by
  intro first
  induction first with
  | nil =>
      intro second
      cases second with
      | nil => exact ⟨fun _ => rfl, fun _ => rfl⟩
      | cons item items => simp
  | cons item items ih =>
      intro second
      cases second with
      | nil => simp
      | cons other others =>
          simp only [List.map_cons, List.cons.injEq]
          exact and_congr (same item other) (ih others)

end SameKernel

/-! ### What the digest sees of a value -/

namespace Json

/-- What becomes of a value in the payload of a digest. -/
def digested (value : Json) : Json := value.stripDeploymentBindings.canonical

theorem stripItems_eq (items : List Json) :
    stripItems items = items.map stripDeploymentBindings := by
  induction items with
  | nil => rfl
  | cons item items ih => rw [stripItems, List.map_cons, ih]

theorem stripEntries_eq (entries : Dict) : stripEntries entries =
    (entries.filter fun entry => entry.1 ≠ "access_binding").map
      fun entry => (entry.1, entry.2.stripDeploymentBindings) := by
  induction entries with
  | nil => rfl
  | cons entry entries ih =>
      obtain ⟨key, value⟩ := entry
      rw [stripEntries]
      split
      · rename_i isBinding
        rw [List.filter_cons_of_neg (by simp [isBinding]), ih]
      · rename_i other
        rw [List.filter_cons_of_pos (by simp [other]), List.map_cons, ih]

@[simp]
theorem digested_null : digested .null = .null := rfl

@[simp]
theorem digested_str (text : String) : digested (.str text) = .str text := rfl

@[simp]
theorem digested_bool (flag : Bool) : digested (.bool flag) = .bool flag := rfl

@[simp]
theorem digested_ofOption (text : Option String) : digested (ofOption text) = ofOption text := by
  cases text with
  | none => rfl
  | some text => rfl

@[simp]
theorem digested_arr (items : List Json) : digested (.arr items) = .arr (items.map digested) := by
  unfold digested
  rw [stripDeploymentBindings, canonical, stripItems_eq, canonicalItems_eq, List.map_map]
  rfl

theorem digested_obj (entries : Dict) : digested (.obj entries) =
    .obj (sortBy Prod.fst ((entries.filter fun entry => entry.1 ≠ "access_binding").map
      fun entry => (entry.1, entry.2.digested))) := by
  unfold digested
  rw [stripDeploymentBindings, canonical, stripEntries_eq, canonicalEntries_eq, List.map_map]
  rfl

theorem digested_eq_null {value : Json} : value.digested = .null ↔ value = .null := by
  cases value with
  | obj entries => simp [digested_obj]
  | arr items => simp
  | null => simp
  | _ => simp [digested, stripDeploymentBindings, canonical]

theorem ofOption_injective : Function.Injective ofOption := by
  intro first second same
  cases first <;> cases second <;> simp_all [ofOption]

/-! ### Dumps of models -/

/-- The fields agree in what the digest sees of them. -/
def FieldsAgree (left right : String × Json) : Prop :=
  left.1 = "access_binding" ∨ left.2.digested = right.2.digested

theorem lookup_sortBy {entries : Dict} (distinct : (entries.map Prod.fst).Nodup) (key : String) :
    (sortBy Prod.fst entries).lookup key = entries.lookup key := by
  have perm := sortBy_perm Prod.fst entries
  have distinct' : ((sortBy Prod.fst entries).map Prod.fst).Nodup :=
    (perm.map Prod.fst).nodup_iff.2 distinct
  refine Option.ext fun value => ?_
  constructor
  · intro found
    exact Keyed.lookup_of_mem distinct (perm.mem_iff.1 (Keyed.mem_of_lookup found))
  · intro found
    exact Keyed.lookup_of_mem distinct' (perm.mem_iff.2 (Keyed.mem_of_lookup found))

/-- The entries of a dumped model that the digest sees. -/
def seenEntries (fields : Dict) : Dict :=
  (fields.filter fun field => field.2 ≠ .null ∧ field.1 ≠ "access_binding").map
    fun field => (field.1, field.2.digested)

theorem digested_ofFields (fields : Dict) :
    (ofFields fields).digested = .obj (sortBy Prod.fst (seenEntries fields)) := by
  unfold ofFields seenEntries
  rw [digested_obj, List.filter_filter]
  congr 4
  funext field
  simp [and_comm]

theorem seenEntries_distinct {fields : Dict} (distinct : (fields.map Prod.fst).Nodup) :
    ((seenEntries fields).map Prod.fst).Nodup := by
  unfold seenEntries
  rw [List.map_map]
  exact distinct.sublist (List.filter_sublist.map Prod.fst)

theorem lookup_seenEntries {fields : Dict} (distinct : (fields.map Prod.fst).Nodup)
    {field : String × Json} (member : field ∈ fields) (seen : field.1 ≠ "access_binding") :
    ((seenEntries fields).lookup field.1).getD .null = field.2.digested := by
  by_cases isNull : field.2 = .null
  · cases found : (seenEntries fields).lookup field.1 with
    | none => rw [isNull]; rfl
    | some value =>
        obtain ⟨other, isOther, same⟩ := List.mem_map.1 (Keyed.mem_of_lookup found)
        obtain ⟨isField, kept⟩ := List.mem_filter.1 isOther
        simp only [Prod.mk.injEq] at same
        have isSame := Keyed.lookup_of_mem distinct isField
        rw [same.1, Keyed.lookup_of_mem distinct member] at isSame
        rw [← Option.some.inj isSame, isNull] at kept
        simp at kept
  · have isSeen : (field.1, field.2.digested) ∈ seenEntries fields := by
      refine List.mem_map.2 ⟨field, List.mem_filter.2 ⟨member, ?_⟩, rfl⟩
      simp [isNull, seen]
    rw [Keyed.lookup_of_mem (seenEntries_distinct distinct) isSeen]
    rfl

theorem seenEntries_congr {lefts rights : Dict} (keys : lefts.map Prod.fst = rights.map Prod.fst)
    (agree : List.Forall₂ FieldsAgree lefts rights) : seenEntries lefts = seenEntries rights := by
  induction agree with
  | nil => rfl
  | @cons left right lefts rights first rest ih =>
      obtain ⟨key, value⟩ := left
      obtain ⟨key', value'⟩ := right
      simp only [List.map_cons, List.cons.injEq] at keys
      obtain ⟨rfl, keys⟩ := keys
      have tail := ih keys
      unfold seenEntries at tail ⊢
      by_cases isBinding : key = "access_binding"
      · rw [List.filter_cons_of_neg (by simp [isBinding]),
          List.filter_cons_of_neg (by simp [isBinding])]
        exact tail
      · have same : value.digested = value'.digested := first.resolve_left isBinding
        by_cases isNull : value = .null
        · have isNull' : value' = .null := by
            rw [← digested_eq_null, ← same, digested_eq_null, isNull]
          rw [List.filter_cons_of_neg (by simp [isNull]),
            List.filter_cons_of_neg (by simp [isNull'])]
          exact tail
        · have isNull' : value' ≠ .null := by
            rw [ne_eq, ← digested_eq_null, ← same, digested_eq_null]
            exact isNull
          rw [List.filter_cons_of_pos (by simp [isNull, isBinding]),
            List.filter_cons_of_pos (by simp [isNull', isBinding]), List.map_cons, List.map_cons,
            tail, same]

/-- Two dumps of one model look alike to the digest where their fields do. -/
theorem digested_ofFields_iff {lefts rights : Dict}
    (keys : lefts.map Prod.fst = rights.map Prod.fst) (distinct : (lefts.map Prod.fst).Nodup) :
    (ofFields lefts).digested = (ofFields rights).digested ↔
      List.Forall₂ FieldsAgree lefts rights := by
  rw [digested_ofFields, digested_ofFields]
  constructor
  · intro same
    have entries := Json.obj.inj same
    refine List.forall₂_iff_get.2 ⟨by simpa using congrArg List.length keys, ?_⟩
    intro index bound bound'
    have sameKey : (List.get lefts ⟨index, bound⟩).1 = (List.get rights ⟨index, bound'⟩).1 := by
      have sameIndex := congrArg (fun names : List String => names[index]?) keys
      simpa [bound, bound'] using sameIndex
    by_cases isBinding : (List.get lefts ⟨index, bound⟩).1 = "access_binding"
    · exact .inl isBinding
    · right
      have left := lookup_seenEntries distinct (List.get_mem lefts ⟨index, bound⟩) isBinding
      have right := lookup_seenEntries (keys ▸ distinct) (List.get_mem rights ⟨index, bound'⟩)
        (sameKey ▸ isBinding)
      rw [← left, ← right, ← sameKey, ← lookup_sortBy (seenEntries_distinct distinct), entries,
        lookup_sortBy (seenEntries_distinct (keys ▸ distinct))]
  · intro agree
    rw [seenEntries_congr keys agree]

/-- The digest sees of a dumped value what `seen` keeps of it. -/
def Shows {α β : Type} (dump : α → Json) (seen : α → β) : Prop :=
  SameKernel (fun value => (dump value).digested) seen

namespace Shows

variable {α β : Type} {dump : α → Json} {seen : α → β}

theorem list_iff (shows' : Shows dump seen) {lefts rights : List α} :
    (ofList dump lefts).digested = (ofList dump rights).digested ↔
      lefts.map seen = rights.map seen := by
  unfold ofList
  rw [digested_arr, digested_arr, arr.injEq, List.map_map, List.map_map]
  exact shows'.list lefts rights

theorem optional_iff (shows' : Shows dump seen) (isSome : ∀ value, dump value ≠ .null)
    {left right : Option α} :
    (ofOptional dump left).digested = (ofOptional dump right).digested ↔
      left.map seen = right.map seen := by
  unfold ofOptional
  cases left with
  | none =>
      cases right with
      | none => simp
      | some value =>
          simp only [Option.map_none, Option.getD_none, Option.map_some, Option.getD_some,
            digested_null, reduceCtorEq, iff_false]
          exact fun same => isSome value (digested_eq_null.1 same.symm)
  | some value =>
      cases right with
      | none =>
          simp only [Option.map_none, Option.getD_none, Option.map_some, Option.getD_some,
            digested_null, reduceCtorEq, iff_false]
          exact fun same => isSome value (digested_eq_null.1 same)
      | some other =>
          simp only [Option.map_some, Option.getD_some, Option.some.injEq]
          exact shows' value other

end Shows

theorem shows_str : Shows str id := by
  intro left right
  simp

theorem ofFields_ne_null (fields : Dict) : ofFields fields ≠ .null := by
  unfold ofFields
  simp

/-- The dump of a model shows what its fields show. -/
theorem shows_ofFields {α β : Type} {fields : α → Dict} {seen : α → β}
    (keys : ∀ left right, (fields left).map Prod.fst = (fields right).map Prod.fst)
    (distinct : ∀ model, ((fields model).map Prod.fst).Nodup)
    (agree : ∀ left right, List.Forall₂ FieldsAgree (fields left) (fields right) ↔
      seen left = seen right) : Shows (fun model => ofFields (fields model)) seen :=
  fun left right =>
    (digested_ofFields_iff (keys left right) (distinct left)).trans (agree left right)

end Json

open Json

/-! ### What the digest sees of each model -/

theorem ResourceRef.shows_dump : Shows dump (unbound digested) := by
  refine shows_ofFields (fun _ _ => rfl) (fun _ => by simp) fun left right => ?_
  cases left
  cases right
  simp [FieldsAgree, unbound, (ofOption_injective).eq_iff]

theorem ExecutionContract.shows_dump : Shows dump id := by
  refine shows_ofFields (fun _ _ => rfl) (fun _ => by simp) fun left right => ?_
  cases left
  cases right
  simp [FieldsAgree]

theorem NodeInputBinding.shows_dump : Shows dump (unbound digested) := by
  refine shows_ofFields (fun _ _ => rfl) (fun _ => by simp) fun left right => ?_
  have inputRef := ResourceRef.shows_dump left.inputRef right.inputRef
  cases left
  cases right
  simp [FieldsAgree, unbound, inputRef]

theorem TypedTerm.shows_dump : Shows dump (unbound digested) := by
  refine shows_ofFields (fun _ _ => rfl) (fun _ => by simp) fun left right => ?_
  cases left
  cases right
  simp [FieldsAgree, unbound, (ofOption_injective).eq_iff]

theorem ConstraintRef.shows_dump : Shows dump id := by
  refine shows_ofFields (fun _ _ => rfl) (fun _ => by simp) fun left right => ?_
  cases left
  cases right
  simp [FieldsAgree]

theorem Constraint.shows_dump : Shows dump (unbound digested) := by
  refine shows_ofFields (fun _ _ => rfl) (fun _ => by simp) fun left right => ?_
  cases left
  cases right
  simp [FieldsAgree, unbound, (shows_str).list_iff]

namespace Closure

theorem DataApplication.shows_dump : Shows dump (unbound digested) := by
  refine shows_ofFields (fun _ _ => rfl) (fun _ => by simp) fun left right => ?_
  cases left
  cases right
  simp [FieldsAgree, unbound, (ResourceRef.shows_dump).list_iff, (TypedTerm.shows_dump).list_iff]

theorem DataSystems.shows_dump : Shows dump (unbound digested) := by
  refine shows_ofFields (fun _ _ => rfl) (fun _ => by simp) fun left right => ?_
  cases left
  cases right
  simp [FieldsAgree, unbound, (TypedTerm.shows_dump).list_iff]

theorem optionalRef_iff {left right : Option ResourceRef} :
    (Json.ofOptional ResourceRef.dump left).digested =
      (Json.ofOptional ResourceRef.dump right).digested ↔
    left.map (ResourceRef.unbound digested) = right.map (ResourceRef.unbound digested) :=
  (ResourceRef.shows_dump).optional_iff fun _ => ofFields_ne_null _

theorem ProgramApplication.shows_dump : Shows dump (unbound digested) := by
  refine shows_ofFields (fun _ _ => rfl) (fun _ => by simp) fun left right => ?_
  cases left
  cases right
  simp [FieldsAgree, unbound, optionalRef_iff, (TypedTerm.shows_dump).list_iff]

theorem ProgramSystems.shows_dump : Shows dump (unbound digested) := by
  refine shows_ofFields (fun _ _ => rfl) (fun _ => by simp) fun left right => ?_
  have execution := ExecutionContract.shows_dump left.execution right.execution
  cases left
  cases right
  simp [FieldsAgree, unbound, execution, optionalRef_iff, (shows_str).list_iff,
    (TypedTerm.shows_dump).list_iff]

theorem ComputeApplication.shows_dump : Shows dump (unbound digested) := by
  refine shows_ofFields (fun _ _ => rfl) (fun _ => by simp) fun left right => ?_
  cases left
  cases right
  simp [FieldsAgree, unbound, (shows_str).list_iff, (TypedTerm.shows_dump).list_iff]

theorem ComputeSystems.shows_dump : Shows dump (unbound digested) := by
  refine shows_ofFields (fun _ _ => rfl) (fun _ => by simp) fun left right => ?_
  cases left
  cases right
  simp [FieldsAgree, unbound, (shows_str).list_iff, (TypedTerm.shows_dump).list_iff]

theorem ComputeRequirement.shows_dump : Shows dump (unbound digested) := by
  refine shows_ofFields (fun _ _ => rfl) (fun _ => by simp) fun left right => ?_
  have constraintRef {left right : Option ConstraintRef} :=
    @Shows.optional_iff _ _ _ _ (ConstraintRef.shows_dump) (fun _ => ofFields_ne_null _) left right
  cases left
  cases right
  simp [FieldsAgree, unbound, constraintRef]

theorem TypedHole.shows_dump : Shows dump id := by
  refine shows_ofFields (fun _ _ => rfl) (fun _ => by simp) fun left right => ?_
  cases left
  cases right
  simp [FieldsAgree, (ofOption_injective).eq_iff, (ConstraintRef.shows_dump).list_iff]

theorem ComputeSpec.shows_dump : Shows dump (unbound digested) := by
  refine shows_ofFields (fun _ _ => rfl) (fun _ => by simp) fun left right => ?_
  cases left
  cases right
  simp [FieldsAgree, unbound, (TypedTerm.shows_dump).list_iff,
    (ComputeRequirement.shows_dump).list_iff, (TypedHole.shows_dump).list_iff]

theorem ComputeBinding.shows_dump : Shows dump (unbound digested) := by
  refine shows_ofFields (fun _ _ => rfl) (fun _ => by simp) fun left right => ?_
  have descriptorRef :=
    ResourceRef.shows_dump left.capabilityDescriptorRef right.capabilityDescriptorRef
  have targetRef := ResourceRef.shows_dump left.targetResourceRef right.targetResourceRef
  cases left
  cases right
  simp [FieldsAgree, unbound, descriptorRef, targetRef, optionalRef_iff,
    (ofOption_injective).eq_iff, (shows_str).list_iff]

/-- The digest sees of a closure all but the access bindings of its references and the entries of
that name in the values whose shape is open. -/
theorem shows_dump : Shows dump (unbound digested) := by
  refine shows_ofFields (fun _ _ => rfl) (fun _ => by simp) fun left right => ?_
  have data := DataApplication.shows_dump left.data right.data
  have dataSystems := DataSystems.shows_dump left.dataSystems right.dataSystems
  have program := ProgramApplication.shows_dump left.program right.program
  have programSystems := ProgramSystems.shows_dump left.programSystems right.programSystems
  have compute := ComputeSpec.shows_dump left.compute right.compute
  have computeApplication :=
    ComputeApplication.shows_dump left.computeApplication right.computeApplication
  have computeSystems := ComputeSystems.shows_dump left.computeSystems right.computeSystems
  cases left
  cases right
  simp [FieldsAgree, unbound, data, dataSystems, program, programSystems, compute,
    computeApplication, computeSystems, (NodeInputBinding.shows_dump).list_iff,
    (ComputeBinding.shows_dump).list_iff, (TypedTerm.shows_dump).list_iff,
    (Constraint.shows_dump).list_iff]

end Closure

/-! ### Changes of the open values -/

section Compose

variable (first second : Json → Json)

@[simp]
theorem ResourceRef.unbound_unbound (ref : ResourceRef) :
    (ref.unbound first).unbound second = ref.unbound (second ∘ first) := by
  simp [unbound]

@[simp]
theorem NodeInputBinding.unbound_unbound (binding : NodeInputBinding) :
    (binding.unbound first).unbound second = binding.unbound (second ∘ first) := by
  simp [unbound]

@[simp]
theorem TypedTerm.unbound_unbound (term : TypedTerm) :
    (term.unbound first).unbound second = term.unbound (second ∘ first) := by
  simp [unbound]

@[simp]
theorem Constraint.unbound_unbound (constraint : Constraint) :
    (constraint.unbound first).unbound second = constraint.unbound (second ∘ first) := by
  simp [unbound]

namespace Closure

@[simp]
theorem ComputeRequirement.unbound_unbound (requirement : ComputeRequirement) :
    (requirement.unbound first).unbound second = requirement.unbound (second ∘ first) := rfl

@[simp]
theorem ComputeBinding.unbound_unbound (binding : ComputeBinding) :
    (binding.unbound first).unbound second = binding.unbound (second ∘ first) := by
  simp [unbound, Function.comp_def]

theorem unbound_unbound (closure : Closure) :
    (closure.unbound first).unbound second = closure.unbound (second ∘ first) := by
  simp [unbound, DataApplication.unbound, DataSystems.unbound, ProgramApplication.unbound,
    ProgramSystems.unbound, ComputeSpec.unbound, ComputeApplication.unbound,
    ComputeSystems.unbound, Function.comp_def]

end Closure

end Compose

/-! ### Closures with one digest -/

namespace Closure

/-- The closures are equal but for the access bindings of their references.  Dictionaries are
compared without regard to the order of their entries. -/
def Same (left right : Closure) : Prop := left.unbound canonical = right.unbound canonical

instance (left right : Closure) : Decidable (left.Same right) :=
  inferInstanceAs (Decidable (left.unbound canonical = right.unbound canonical))

/-- The closure without the entries that are named `access_binding` in its open values. -/
def erased (closure : Closure) : Closure := closure.unbound stripDeploymentBindings

/-- No open value of the closure has an entry that is named `access_binding`. -/
def Plain (closure : Closure) : Prop := closure.erased = closure.unbound id

instance (closure : Closure) : Decidable closure.Plain :=
  inferInstanceAs (Decidable (closure.erased = closure.unbound id))

/-- The closures differ, but only in entries of open values that are named `access_binding`. -/
def HiddenDifference (left right : Closure) : Prop :=
  left.erased.Same right.erased ∧ ¬left.Same right

theorem same_erased (left right : Closure) : left.erased.Same right.erased ↔
    left.unbound digested = right.unbound digested := by
  unfold Same erased
  rw [unbound_unbound, unbound_unbound]
  exact Iff.rfl

theorem Plain.erased_same {left right : Closure} (isPlain : left.Plain) (isPlain' : right.Plain)
    (same : left.erased.Same right.erased) : left.Same right := by
  unfold Same at same ⊢
  rw [isPlain, isPlain', unbound_unbound, unbound_unbound] at same
  exact same

/-- Closures have one digest exactly where they are equal but for the access bindings of references
and the entries of that name in open values.  So closures with one digest are equal but for the
access bindings of references exactly where they do not differ in such entries alone, as closures
without such entries do not. -/
theorem digest_identifies_iff {Digest : Type} {hash : Json → Digest}
    (injective : Function.Injective hash) (left right : Closure) :
    (left.canonicalDigest hash = right.canonicalDigest hash ↔ left.erased.Same right.erased) ∧
    ((left.canonicalDigest hash = right.canonicalDigest hash → left.Same right) ↔
      ¬left.HiddenDifference right) ∧
    (left.Plain → right.Plain → ¬left.HiddenDifference right) := by
  have digests : left.canonicalDigest hash = right.canonicalDigest hash ↔
      left.erased.Same right.erased := by
    rw [same_erased, canonicalDigest, canonicalDigest, injective.eq_iff]
    exact shows_dump left right
  refine ⟨digests, ?_, fun isPlain isPlain' hidden => ?_⟩
  · rw [digests]
    unfold HiddenDifference
    rw [not_and, not_not]
  · exact hidden.2 (isPlain.erased_same isPlain' hidden.1)

/-- A closure whose program names its package at some endpoint. -/
def located (endpoint : String) : Closure :=
  { programSystems :=
      { packageRef := some
          { resourceId := "capability-package://double/v1"
            accessBinding := .obj [("endpoint", .str endpoint)] } }
    metadata := .obj [("goal", .str "goal")] }

/-- The endpoint of a package is not part of the digest, and it is all that the closures differ
in. -/
theorem digest_identifies_located :
    (located "a").canonicalDigest id = (located "b").canonicalDigest id ∧
      (located "a").Same (located "b") := by
  obtain ⟨-, iff, plain⟩ := digest_identifies_iff Function.injective_id (located "a") (located "b")
  have same : (located "a").canonicalDigest id = (located "b").canonicalDigest id := by
    decide +kernel
  exact ⟨same, iff.2 (plain (by decide +kernel) (by decide +kernel)) same⟩

/-- A closure whose metadata has an entry of that name. -/
def annotated (binding : String) : Closure :=
  { metadata := .obj [("access_binding", .str binding)] }

/-- The metadata of closures with one digest differ. -/
theorem metadata_lost : (annotated "a").digestPayload = (annotated "b").digestPayload ∧
    ¬(annotated "a").Same (annotated "b") := by
  decide +kernel

end Closure

end Loom
