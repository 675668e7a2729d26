import Loom.Contracts.Tightening
import Loom.Properties.Drafts

/-!
# Refinement of constraints

`tighten_constraint` compares the two constraints that its caller sends and keeps the second one.
Nothing looks up the first, so a patch may tighten a constraint that the contract never declared.
In an interleaving in which every patch names a constraint that the closure has, each constraint
that is kept goes back to one of the contract.
-/

namespace Loom

open Coroutine

namespace TaskClosure

/-- The predicates of the declared constraints. -/
def declared (closure : TaskClosure) : List Json :=
  closure.constraints.map fun constraint => Dict.get constraint.entries "predicate"

/-- `metadata["refined_constraints"]`. -/
def refined (closure : TaskClosure) : List Json :=
  (Dict.get closure.metadata "refined_constraints").items

/-- The constraints that a patch can refine. -/
def known (closure : TaskClosure) : List Json := closure.declared ++ closure.refined

/-- A closure whose constraints come from those of a contract.  The constraints that patches have
refined tighten constraints that the closure had when they were added. -/
inductive Grounds (contract : TaskClosure) : TaskClosure → Prop where
  | start : Grounds contract contract
  | declares {before after : TaskClosure} (added : List Json) (grounds : Grounds contract before)
      (declared : after.declared = before.declared ++ added)
      (refined : after.refined = before.refined) : Grounds contract after
  | refines {before after : TaskClosure} {parent child : Json} (grounds : Grounds contract before)
      (declared : after.declared = before.declared) (isKnown : parent ∈ before.known)
      (tightens : Tightens parent child) (refined : after.refined = before.refined ++ [child]) :
      Grounds contract after

namespace Grounds

variable {contract closure : TaskClosure}

/-- The constraints that the contract has or that were declared later. -/
def sources (contract closure : TaskClosure) : List Json := closure.declared ++ contract.refined

theorem widen {known more : List Json} (wider : known ⊆ more) {source constraint : Json}
    (path : Relation.ReflTransGen (fun parent child => parent ∈ known ∧ Tightens parent child)
      source constraint) :
    Relation.ReflTransGen (fun parent child => parent ∈ more ∧ Tightens parent child) source
      constraint :=
  Relation.ReflTransGen.mono (fun _ _ step => ⟨wider step.1, step.2⟩) _ _ path

/-- Every constraint of a grounded closure is reached by tightening from one of its sources. -/
theorem reached (grounds : Grounds contract closure) : ∀ constraint ∈ closure.known,
    ∃ source ∈ sources contract closure,
      Relation.ReflTransGen (fun parent child => parent ∈ closure.known ∧ Tightens parent child)
        source constraint := by
  induction grounds with
  | start => exact fun constraint member => ⟨constraint, member, .refl⟩
  | @declares before after added grounds declared refined ih =>
      have wider : before.known ⊆ after.known := by
        unfold known
        rw [declared, refined]
        intro constraint member
        simp only [List.mem_append] at member ⊢
        tauto
      intro constraint member
      unfold known at member
      rw [declared, refined] at member
      rcases List.mem_append.1 member with isDeclared | isRefined
      · refine ⟨constraint, ?_, .refl⟩
        unfold sources
        rw [declared]
        exact List.mem_append_left _ isDeclared
      · obtain ⟨source, isSource, path⟩ := ih constraint (List.mem_append_right _ isRefined)
        refine ⟨source, ?_, widen wider path⟩
        unfold sources at isSource ⊢
        rw [declared]
        rcases List.mem_append.1 isSource with isDeclared | isInitial
        · exact List.mem_append_left _ (List.mem_append_left _ isDeclared)
        · exact List.mem_append_right _ isInitial
  | @refines before after parent child grounds declared isKnown tightens refined ih =>
      have wider : before.known ⊆ after.known := by
        unfold known
        rw [declared, refined]
        intro constraint member
        simp only [List.mem_append] at member ⊢
        tauto
      have same : sources contract after = sources contract before := by
        unfold sources
        rw [declared]
      have earlier : ∀ constraint ∈ before.known, ∃ source ∈ sources contract after,
          Relation.ReflTransGen (fun parent child => parent ∈ after.known ∧ Tightens parent child)
            source constraint := by
        intro constraint member
        obtain ⟨source, isSource, path⟩ := ih constraint member
        exact ⟨source, same ▸ isSource, widen wider path⟩
      intro constraint member
      unfold known at member
      rw [declared, refined, ← List.append_assoc] at member
      rcases List.mem_append.1 member with isOld | isNew
      · exact earlier constraint isOld
      · cases List.mem_singleton.1 isNew
        obtain ⟨source, isSource, path⟩ := earlier parent isKnown
        exact ⟨source, isSource, path.tail ⟨wider isKnown, tightens⟩⟩

/-- Each constraint of a grounded closure is one of its sources, or tightens one that is before
it. -/
theorem parents (grounds : Grounds contract closure) :
    ∃ added, closure.refined = contract.refined ++ added ∧
      ∀ earlier child later, added = earlier ++ child :: later →
        ∃ parent ∈ closure.declared ++ contract.refined ++ earlier, Tightens parent child := by
  induction grounds with
  | start => exact ⟨[], (List.append_nil _).symm, fun earlier child later same => by simp at same⟩
  | @declares before after more grounds declared refined ih =>
      obtain ⟨added, same, each⟩ := ih
      refine ⟨added, refined.trans same, fun earlier child later isAdded => ?_⟩
      obtain ⟨parent, isParent, tightens⟩ := each earlier child later isAdded
      refine ⟨parent, ?_, tightens⟩
      rw [declared]
      simp only [List.mem_append] at isParent ⊢
      tauto
  | @refines before after parent child grounds declared isKnown tightens refined ih =>
      obtain ⟨added, same, each⟩ := ih
      refine ⟨added ++ [child], by rw [refined, same, List.append_assoc], ?_⟩
      intro earlier other later isAdded
      rw [declared]
      rcases List.eq_nil_or_concat later with rfl | ⟨front, last, rfl⟩
      · obtain ⟨rfl, isLast⟩ := List.append_inj' isAdded rfl
        cases isLast
        refine ⟨parent, ?_, tightens⟩
        unfold known at isKnown
        rwa [same, ← List.append_assoc] at isKnown
      · rw [List.concat_eq_append, ← List.cons_append, ← List.append_assoc] at isAdded
        obtain ⟨isAdded, -⟩ := List.append_inj' isAdded rfl
        exact each earlier other front isAdded

end Grounds

end TaskClosure

/-! ### What one operation does to the constraints -/

/-- The parent and the child that a patch operation names. -/
def tightened? (operation : Dict) : Option (Json × Json) :=
  if patchKind operation = .str "tighten_constraint" then do
    let value ← operation.lookup "value"
    let parent ← value.entries.lookup "parent"
    let child ← value.entries.lookup "child"
    return (parent, child)
  else none

/-- The predicate that a patch operation declares. -/
def declared? (env : Env) (operation : Dict) : Option Json :=
  if patchKind operation = .str "add_constraint" then do
    let value ← operation.lookup "value"
    let constraint ← (env.constraint value).toOption
    return Dict.get constraint.entries "predicate"
  else none

/-- What a patch operation makes of the constraints. -/
inductive Refines (env : Env) (operation : Dict) (before after : TaskClosure) : Prop where
  | declares (declared : after.declared = before.declared ++ (declared? env operation).toList)
      (refined : after.refined = before.refined) (untightened : tightened? operation = none)
  | refines (parent child : Json) (isTightened : tightened? operation = some (parent, child))
      (undeclared : declared? env operation = none)
      (declared : after.declared = before.declared) (tightens : Tightens parent child)
      (refined : after.refined = before.refined ++ [child])

theorem lookup_of_required {entries : Dict} {key : String} {value : Json}
    (required : Dict.required entries key = .ok value) : entries.lookup key = some value := by
  unfold Dict.required at required
  split at required
  · rename_i found
    cases required
    exact found
  · cases required

theorem ok_of_bind {α β : Type} {outcome : Except Exc α} {rest : α → Except Exc β} {value : β}
    (ends : (outcome >>= rest) = .ok value) : ∃ first, outcome = .ok first ∧
      rest first = .ok value := by
  cases outcome with
  | error error => cases ends
  | ok first => exact ⟨first, rfl, ends⟩

theorem ok_of_map {α β : Type} {outcome : Except Exc α} {change : α → β} {value : β}
    (ends : outcome.map change = .ok value) : ∃ first, outcome = .ok first ∧
      change first = value := by
  cases outcome with
  | error error => cases ends
  | ok first => exact ⟨first, rfl, Except.ok.inj ends⟩

/-- `append` leaves the other keys alone and adds one item to the list under its own. -/
theorem appendMetadata_ok {metadata after : Dict} {key : String} {item : Json}
    (appended : appendMetadata metadata key item = .ok after) :
    (∀ other, other ≠ key → Dict.get after other = Dict.get metadata other) ∧
      (Dict.get after key).items = (Dict.get metadata key).items ++ [item] := by
  have others : ∀ value other, other ≠ key →
      Dict.get (Dict.set metadata key value) other = Dict.get metadata other := by
    intro value other differs
    rw [Dict.set, Dict.get_cons, if_neg differs]
  have own : ∀ value, Dict.get (Dict.set metadata key value) key = value := by
    intro value
    rw [Dict.set, Dict.get_cons, if_pos rfl]
  unfold appendMetadata at appended
  split at appended
  · rename_i missing
    cases appended
    refine ⟨others _, ?_⟩
    rw [own, Dict.get, missing]
    rfl
  · rename_i items found
    cases appended
    refine ⟨others _, ?_⟩
    rw [own, Dict.get, found]
    rfl
  · cases appended

/-- An operation of another kind than the two keeps the constraints. -/
theorem Refines.of_other {env : Env} {operation : Dict} {before after : TaskClosure}
    (notAdd : patchKind operation ≠ .str "add_constraint")
    (notTighten : patchKind operation ≠ .str "tighten_constraint")
    (constraints : after.constraints = before.constraints)
    (refined : Dict.get after.metadata "refined_constraints" =
      Dict.get before.metadata "refined_constraints") : Refines env operation before after := by
  refine .declares ?_ ?_ (if_neg notTighten)
  · unfold TaskClosure.declared declared?
    rw [constraints, if_neg notAdd]
    exact (List.append_nil _).symm
  · unfold TaskClosure.refined
    rw [refined]

/-- What an operation that changes only the snapshot makes of the constraints. -/
theorem patchSnapshot_refines {env : Env} {view : SlaveView} {operation : Dict}
    {before after : TaskClosure} (patched : patchSnapshot env view operation before = .ok after) :
    Refines env operation before after := by
  have other : ∀ {kind : String}, patchKind operation = .str kind → kind ≠ "add_constraint" →
      kind ≠ "tighten_constraint" → after.constraints = before.constraints →
      Dict.get after.metadata "refined_constraints" =
        Dict.get before.metadata "refined_constraints" → Refines env operation before after := by
    intro kind isKind notAdd notTighten constraints refined
    refine .of_other ?_ ?_ constraints refined
    · rw [isKind]
      exact fun same => notAdd (Json.str.inj same)
    · rw [isKind]
      exact fun same => notTighten (Json.str.inj same)
  unfold patchSnapshot at patched
  split at patched
  · rename_i isKind
    cases patched
    refine other isKind (by decide) (by decide) rfl ?_
    rw [Dict.set, Dict.get_cons]
    dsimp only
    exact if_neg (by decide)
  · rename_i isKind
    obtain ⟨_, -, patched⟩ := ok_of_bind patched
    obtain ⟨compute, -, patched⟩ := ok_of_bind patched
    cases patched
    exact other isKind (by decide) (by decide) rfl rfl
  · rename_i isKind
    obtain ⟨value, isValue, patched⟩ := ok_of_bind patched
    obtain ⟨constraint, isConstraint, patched⟩ := ok_of_bind patched
    cases patched
    refine .declares ?_ rfl (if_neg ?_)
    · unfold TaskClosure.declared declared?
      rw [if_pos isKind, lookup_of_required isValue]
      dsimp only [bind, Option.bind]
      rw [isConstraint, List.map_append]
      rfl
    · rw [isKind]
      exact fun same => absurd (Json.str.inj same) (by decide)
  · rename_i isKind
    obtain ⟨value, isValue, patched⟩ := ok_of_bind patched
    split at patched
    · rename_i entries
      obtain ⟨parent, isParent, patched⟩ := ok_of_bind patched
      obtain ⟨child, isChild, patched⟩ := ok_of_bind patched
      obtain ⟨answer, tightens, patched⟩ := ok_of_bind patched
      split at patched
      · rename_i passes
        obtain ⟨metadata, appended, patched⟩ := ok_of_bind patched
        cases patched
        rw [passes] at tightens
        refine .refines parent child ?_ (if_neg ?_) rfl tightens
          (appendMetadata_ok appended).2
        · unfold tightened?
          rw [if_pos isKind, lookup_of_required isValue]
          dsimp only [bind, Option.bind, Json.entries]
          rw [lookup_of_required isParent]
          dsimp only
          rw [lookup_of_required isChild]
          rfl
        · rw [isKind]
          exact fun same => absurd (Json.str.inj same) (by decide)
      · cases patched
    · cases patched
  · rename_i isKind
    dsimp only at patched
    split at patched
    · split at patched
      · cases patched
      · cases patched
        exact other isKind (by decide) (by decide) rfl rfl
    · cases patched
  · rename_i isKind
    dsimp only at patched
    split at patched
    · cases patched
      exact other isKind (by decide) (by decide) rfl rfl
    · cases patched
  · rename_i isKind
    obtain ⟨_, -, patched⟩ := ok_of_bind patched
    obtain ⟨hole, -, patched⟩ := ok_of_bind patched
    split at patched
    · cases patched
    · cases patched
      exact other isKind (by decide) (by decide) rfl rfl
  · rename_i isKind
    obtain ⟨binding, -, patched⟩ := ok_of_bind patched
    dsimp only at patched
    split at patched
    · cases patched
      exact other isKind (by decide) (by decide) rfl rfl
    · cases patched
  · rename_i isKind
    split at patched
    · split at patched
      · cases patched
      · split at patched
        · cases patched
        · obtain ⟨provenance, -, rfl⟩ := ok_of_map patched
          exact other isKind (by decide) (by decide) rfl rfl
    · cases patched
  · cases patched

/-- A package that a patch binds leaves the constraints alone. -/
theorem bindPackage_constraints {package : CapabilityPackageVersion} {before after : TaskClosure}
    (bound : bindPackage package before = .ok after) :
    after.constraints = before.constraints ∧ Dict.get after.metadata "refined_constraints" =
      Dict.get before.metadata "refined_constraints" := by
  have rest : ∀ systems, (do
      let metadata ←
        appendMetadata before.metadata "capability_package_refs" (.str package.versionRef)
      Except.ok { before with programSystems := systems, metadata }) = .ok after →
      after.constraints = before.constraints ∧ Dict.get after.metadata "refined_constraints" =
        Dict.get before.metadata "refined_constraints" := by
    intro systems bound
    obtain ⟨metadata, appended, bound⟩ := ok_of_bind bound
    cases bound
    exact ⟨rfl, (appendMetadata_ok appended).1 _ (by decide)⟩
  unfold bindPackage at bound
  dsimp only at bound
  split at bound
  · obtain ⟨exported, -, bound⟩ := ok_of_bind bound
    exact rest _ bound
  · exact rest _ bound

/-! ### What a patch does to the constraints -/

section Returns

variable {σ ε ω Q α β : Type} {A : Q → Type} {ok : (query : Q) → A query → Prop}

theorem returns_of_bind {program : Prog σ ε ω A α} {rest : α → Prog σ ε ω A β} {value : β}
    (returns : (program.bind rest).Returns ok (.ok value)) :
    ∃ first, program.Returns ok (.ok first) ∧ (rest first).Returns ok (.ok value) := by
  induction program with
  | ret first => exact ⟨first, .ret, returns⟩
  | raise error => cases returns
  | read next ih =>
      cases returns with
      | read state returns =>
          obtain ⟨first, one, two⟩ := ih state returns
          exact ⟨first, .read state one, two⟩
  | write update next ih =>
      cases returns with
      | write returns =>
          obtain ⟨first, one, two⟩ := ih returns
          exact ⟨first, .write one, two⟩
  | await query next ih =>
      cases returns with
      | await answer allowed returns =>
          obtain ⟨first, one, two⟩ := ih answer returns
          exact ⟨first, .await answer allowed one, two⟩

theorem ok_of_ofExcept {outcome : Except ε α} {value : α}
    (returns : (Prog.ofExcept outcome : Prog σ ε ω A α).Returns ok (.ok value)) :
    outcome = .ok value := by
  cases outcome with
  | error error => cases returns
  | ok first =>
      cases returns
      rfl

end Returns

variable {env : Env} {ok : (query : Query) → Answer query → Prop}

/-- What one operation of a patch makes of the constraints. -/
theorem applyOperation_refines {address : Nat} {operation : Dict} {before after : TaskClosure}
    (returns : (Op.applyOperation env address operation before).Returns ok (.ok after)) :
    Refines env operation before after := by
  unfold Op.applyOperation at returns
  split at returns
  · rename_i isKind
    have bound : ∀ {package : CapabilityPackageVersion},
        bindPackage package before = .ok after → Refines env operation before after := by
      intro package bound
      obtain ⟨constraints, refined⟩ := bindPackage_constraints bound
      refine .of_other ?_ ?_ constraints refined
      · rw [isKind]
        exact fun same => absurd (Json.str.inj same) (by decide)
      · rw [isKind]
        exact fun same => absurd (Json.str.inj same) (by decide)
    obtain ⟨package, -, returns⟩ := returns_of_bind returns
    obtain ⟨record, -, returns⟩ := returns_of_bind returns
    split at returns
    · obtain ⟨_, -, returns⟩ := returns_of_bind returns
      exact bound (ok_of_ofExcept returns)
    · obtain ⟨_, -, returns⟩ := returns_of_bind returns
      exact bound (ok_of_ofExcept returns)
  · cases returns with
    | read repo returns => exact patchSnapshot_refines (ok_of_ofExcept returns)

/-- A constraint is equal to one of those. -/
def isAmong (constraints : List Json) (constraint : Json) : Bool :=
  constraints.any fun other => constraint.pyEq other && other.pyEq constraint

/-- Every parent that the operations name is a constraint that the closure has then. -/
def namesParents (env : Env) : List Json → List Dict → Bool
  | _, [] => true
  | known, operation :: rest =>
      (match tightened? operation with
        | some (parent, child) => isAmong known parent && namesParents env (known ++ [child]) rest
        | none => namesParents env (known ++ (declared? env operation).toList) rest)

theorem exists_of_isAmong {constraints : List Json} {constraint : Json}
    (among : isAmong constraints constraint = true) :
    ∃ other ∈ constraints, constraint.Alike other := by
  obtain ⟨other, member, same⟩ := List.any_eq_true.1 among
  exact ⟨other, member, Bool.and_eq_true_iff.1 same⟩

theorem isAmong_mono {few many : List Json} (within : few ⊆ many) {constraint : Json}
    (among : isAmong few constraint = true) : isAmong many constraint = true := by
  obtain ⟨other, member, same⟩ := List.any_eq_true.1 among
  exact List.any_eq_true.2 ⟨other, within member, same⟩

theorem namesParents_mono {few many : List Json} {operations : List Dict} (within : few ⊆ many)
    (names : namesParents env few operations = true) :
    namesParents env many operations = true := by
  induction operations generalizing few many with
  | nil => rfl
  | cons operation rest ih =>
      unfold namesParents at names ⊢
      split at names
      · obtain ⟨among, names⟩ := Bool.and_eq_true_iff.1 names
        refine Bool.and_eq_true_iff.2 ⟨isAmong_mono within among, ih ?_ names⟩
        exact List.append_subset.2 ⟨List.subset_append_of_subset_left _ within,
          List.subset_append_right _ _⟩
      · refine ih ?_ names
        exact List.append_subset.2 ⟨List.subset_append_of_subset_left _ within,
          List.subset_append_right _ _⟩

/-- The operations of a patch that name their parents keep the closure grounded. -/
theorem applyOperations_grounds {contract : TaskClosure} {address : Nat}
    {operations : List Dict} {before after : TaskClosure}
    (grounds : contract.Grounds before)
    (names : namesParents env before.known operations = true)
    (returns : (Op.applyOperations env address operations before).Returns ok (.ok after)) :
    contract.Grounds after := by
  induction operations generalizing before with
  | nil =>
      cases returns
      exact grounds
  | cons operation rest ih =>
      obtain ⟨middle, first, returns⟩ := returns_of_bind returns
      unfold namesParents at names
      cases applyOperation_refines first with
      | declares declared refined untightened =>
          rw [untightened] at names
          refine ih (.declares _ grounds declared refined) (namesParents_mono ?_ names) returns
          unfold TaskClosure.known
          rw [declared, refined]
          intro constraint member
          simp only [List.mem_append] at member ⊢
          tauto
      | refines parent child isTightened undeclared declared tightens refined =>
          rw [isTightened] at names
          obtain ⟨among, names⟩ := Bool.and_eq_true_iff.1 names
          obtain ⟨source, isKnown, alike⟩ := exists_of_isAmong among
          refine ih (.refines grounds declared isKnown (tightens.congr alike) refined)
            (namesParents_mono ?_ names) returns
          unfold TaskClosure.known
          rw [declared, refined, List.append_assoc]
          exact List.Subset.refl _

/-! ### Runs -/

/-- The drafts that a segment writes. -/
def draftsWritten (segment : ObserverSegment) : List ClosureVersion :=
  segment.made.filterMap fun
    | .record _ (.setDraft version) => some version
    | .alloc record => some record.draft
    | _ => none

/-- A patch call names its parents where it is applied to a draft. -/
def Call.namesParents (env : Env) (draft : ClosureVersion) : Call → Bool
  | .applyPatch _ baseVersion baseDigest _ operations =>
      if draft.versionId = baseVersion ∧ draft.snapshotDigest = baseDigest then
        Loom.namesParents env draft.snapshot.known operations
      else true
  | _ => true

/-- Every patch tightens constraints that the draft it names has then: declared ones, or ones that
were refined before. -/
def patchesNameParents (env : Env) (segments : List ObserverSegment) : Bool :=
  segments.all fun segment => segments.all fun other =>
    (draftsWritten other).all fun draft => segment.label.namesParents env draft

/-- A call opens a run with a contract. -/
def Opens? (segments : List ObserverSegment) (contract : ClosureContract) : Prop :=
  ∃ segment ∈ segments, ∃ args, segment.label = .openRun args ∧ args.contract = .ok contract

/-- A draft that a segment has written, with constraints that go back to an opened contract. -/
structure Rooted (segments : List ObserverSegment) (draft : ClosureVersion) : Prop where
  written : ∃ segment ∈ segments, draft ∈ draftsWritten segment
  grounded : ∃ contract, Opens? segments contract ∧ contract.body.Grounds draft.snapshot

/-- Drafts stay rooted, and were so before. -/
theorem rooted_law {segments : List ObserverSegment}
    (named : patchesNameParents env segments = true) :
    Law env ok (· ∈ segments)
      (fun before after => Rooted segments after.draft → Rooted segments before.draft)
      (fun _ record => Rooted segments record.draft) where
  still {before after} still := by
    obtain ⟨events, packages, -, rfl⟩ := still
    exact id
  trans one two := one ∘ two
  touch {segment address after} member sound bound touched := by
    have rooted := sound.fine address bound
    refine ⟨fun _ => rooted, ?_⟩
    have kept : ∀ {record : RunRecord}, record.draft = (segment.origin.start.heap address).draft →
        Rooted segments record.draft := by
      intro record same
      rwa [same]
    cases touched with
    | kept => exact rooted
    | changed site updates fate isSite place change =>
        exact kept (draft_applyAll change.keepsDraft _)
    | concluded runId baseVersion baseDigest operationId operations events isPatch =>
        exact kept (draft_packed [] events _)
    | patched site runId baseVersion baseDigest operationId operations packages draft events isSite
        place isPatch admitted drafted isMade =>
        rcases drafted with rfl | change
        · exact kept (draft_packed packages events _)
        · obtain ⟨number, digest, snapshot, rest, rfl, keep, -, returns⟩ := change.installs
          rw [draft_patched packages _ keep events]
          have names : segment.label.runId? = some runId := by
            rw [isPatch]
            rfl
          obtain ⟨bound', moves⟩ := place.evolved sound.allocated (fun _ => id) names
          -- What the patch has loaded was rooted, as what is there now is.
          have loaded : Rooted segments site.loaded.draft := by
            refine moves ?_
            rw [Site.record, place.start]
            exact sound.fine _ bound'
          obtain ⟨⟨write, isWrite, written⟩, contract, opened, grounds⟩ := loaded
          have parents : namesParents env site.loaded.draft.snapshot.known operations = true := by
            have here := List.all_eq_true.1 (List.all_eq_true.1 (List.all_eq_true.1 named _ member)
              _ isWrite) _ written
            rw [isPatch, Call.namesParents, if_pos admitted] at here
            exact here
          refine ⟨⟨segment, member, ?_⟩, contract, opened,
            applyOperations_grounds grounds parents returns⟩
          exact List.mem_filterMap.2 ⟨_, isMade _ List.mem_cons_self, rfl⟩
  create {segment record} member sound created := by
    have copied : ∀ {site : Site} {args : ReassignArgs} {copy : RunRecord},
        segment.label = .reassignDynamicNode args →
        site.Place (Evolves fun before after =>
          Rooted segments after.draft → Rooted segments before.draft) segment.label segment.origin
          segment.made →
        copy.draft = site.record.draft → Rooted segments copy.draft := by
      intro site args copy isReassign place same
      have names : segment.label.runId? = some args.runId := by
        rw [isReassign]
        rfl
      obtain ⟨bound, -⟩ := place.evolved sound.allocated (fun _ => id) names
      rw [same, Site.record, place.start]
      exact sound.fine _ bound
    cases created with
    | opened args record contract number isOpen contracted isNew drawn drafted body isMade =>
        refine ⟨⟨segment, member, List.mem_filterMap.2 ⟨_, isMade, rfl⟩⟩, contract,
          ⟨segment, member, args, isOpen, contracted⟩, ?_⟩
        rw [body]
        exact .start
    | copied site args move isReassign place =>
        exact copied isReassign place (draft_applyAll move.keepsDraft _)
    | copyFailed site args isReassign place => exact copied isReassign place rfl

/-- A meaning of constraints that equal constraints share. -/
def Respectful (meaning : Json → Json → Prop) : Prop :=
  ∀ first second value, first.Alike second → meaning second value → meaning first value

/-- Every value that satisfies a constraint satisfies the one it goes back to. -/
theorem satisfies_of_path {meaning : Json → Json → Prop} (respects : Respectful meaning)
    {known : List Json} (distinct : ∀ constraint ∈ known, constraint.Distinct)
    {source constraint value : Json} (distinctValue : value.Distinct)
    (path : Relation.ReflTransGen (fun parent child => parent ∈ known ∧ Tightens parent child)
      source constraint) (isKnown : constraint ∈ known)
    (satisfied : Satisfies meaning constraint value) : Satisfies meaning source value := by
  induction path with
  | refl => exact satisfied
  | tail path step ih =>
      refine ih step.1 ?_
      exact Tightens.satisfies respects (distinct _ step.1) (distinct _ isKnown) distinctValue
        step.2 satisfied

/-- In every interleaving in which each patch names constraints that the closure has as the parents
of those that it refines, every refined constraint of every draft tightens one that the closure had
when it was added, and no value that satisfies it is beyond what was declared.  The check itself is
an order on the constraints that it accepts, and what it accepts is entailed. -/
theorem refinement_tightens {ready : Query → Repo → Prop} {segments : List ObserverSegment}
    {pool : ObserverPool}
    (run : Pool.Run (Call.prog env) ok ready ⟨Repo.empty, []⟩ segments pool)
    (named : patchesNameParents env segments = true) :
    (∀ segment ∈ segments, ∀ address < segment.final.next,
      ∃ contract : ClosureContract, Opens? segments contract ∧
        contract.body.Grounds (segment.final.heap address).draft.snapshot ∧
        (∃ added, (segment.final.heap address).draft.snapshot.refined =
            contract.body.refined ++ added ∧
          ∀ earlier child later, added = earlier ++ child :: later →
            ∃ parent ∈ (segment.final.heap address).draft.snapshot.declared ++
              contract.body.refined ++ earlier, Tightens parent child) ∧
        ∀ meaning, Respectful meaning →
          (∀ constraint ∈ (segment.final.heap address).draft.snapshot.known,
            constraint.Distinct) →
          ∀ constraint ∈ (segment.final.heap address).draft.snapshot.refined,
            ∃ source ∈ (segment.final.heap address).draft.snapshot.declared ++
                contract.body.refined,
              ∀ value : Json, value.Distinct → Satisfies meaning constraint value →
                Satisfies meaning source value) ∧
    (∀ parent child, Tightens (.obj parent) (.obj child) ↔
      (Dict.get parent "field").pyEq (Dict.get child "field") = true ∧ Tightening parent child) ∧
    (∀ meaning, Respectful meaning → ∀ parent child value : Json, parent.Distinct →
      child.Distinct → value.Distinct → Tightens parent child → Satisfies meaning child value →
        Satisfies meaning parent value) ∧
    (∀ (constraint : Json) answer, constraint.Distinct →
      isMonotonicTightening constraint constraint = .ok answer → Tightens constraint constraint) ∧
    ∀ first second third : Json, first.Distinct → second.Distinct → third.Distinct →
      Tightens first second → Tightens second third → Tightens first third := by
  have law : Law env ok (· ∈ segments)
      (fun before after => Rooted segments after.draft → Rooted segments before.draft)
      (fun _ record => Rooted segments record.draft) := rooted_law named
  refine ⟨?_, fun parent child => tightens_iff, fun meaning respects parent child value distinct
    distinct' distinctValue tightens => tightens.satisfies respects distinct distinct'
    distinctValue, fun constraint answer distinct accepts => tightens_refl distinct accepts,
    fun first second third distinct distinct' distinct'' => tightens_trans distinct distinct'
    distinct''⟩
  intro segment member address bound
  obtain ⟨block, sound, -⟩ := law.run run (fun _ member => member) (sound_empty _) segment member
  have after := (law.segment member block sound).2
  obtain ⟨-, contract, opened, grounds⟩ := after.fine address bound
  refine ⟨contract, opened, grounds, grounds.parents, ?_⟩
  intro meaning respects distinct constraint isRefined
  have isKnown := List.mem_append_right
    (segment.final.heap address).draft.snapshot.declared isRefined
  obtain ⟨source, isSource, path⟩ := grounds.reached constraint isKnown
  exact ⟨source, isSource, fun value distinctValue =>
    satisfies_of_path respects distinct distinctValue path isKnown⟩

/-- An upper bound of the budget. -/
def budgetLimit (value : Int) : Json :=
  .obj [("field", .str "budget"), ("op", .str "le"), ("value", .int value)]

/-- A patch that declares a limit of 60 and then tightens a limit. -/
def limitPatch (parent child : Int) : Call :=
  .applyPatch "run" "draft-0" (Demo.digest 1) "operation"
    [[("kind", .str "add_constraint"), ("value", .obj [("predicate", budgetLimit 60)])],
      [("kind", .str "tighten_constraint"),
        ("value", .obj [("parent", budgetLimit parent), ("child", budgetLimit child)])]]

/-- A segment installs a draft with these limits. -/
def installsLimits (declared refined : List Json) (segment : ObserverSegment) : Bool :=
  (installed? segment 0).any fun version =>
    version.snapshot.declared = declared && version.snapshot.refined = refined

/-- A patch that tightens the declared limit. -/
def tighteningPatch : Demo.Checked fun segments => patchesNameParents Demo.env segments &&
    segments.any (installsLimits [budgetLimit 60] [budgetLimit 50]) where
  schedule := Demo.refining ++ .spawn (limitPatch 60 50) :: Demo.answered 2 6
  passes := by decide +kernel

theorem refinement_tightens_budget :
    ∃ segments, Demo.Plays tighteningPatch.schedule segments ∧
      patchesNameParents Demo.env segments = true ∧
      (∀ segment ∈ segments, ∀ address < segment.final.next, ∃ contract : ClosureContract,
        contract.body.Grounds (segment.final.heap address).draft.snapshot) ∧
      ∃ segment ∈ segments, installsLimits [budgetLimit 60] [budgetLimit 50] segment = true := by
  obtain ⟨segments, plays, checked⟩ := tighteningPatch.plays
  obtain ⟨pool, run⟩ := plays.interleaves
  obtain ⟨named, installs⟩ := Bool.and_eq_true_iff.1 checked
  obtain ⟨each, -⟩ := refinement_tightens run named
  refine ⟨segments, plays, named, fun segment member address bound => ?_,
    List.any_eq_true.1 installs⟩
  obtain ⟨contract, -, grounds, -⟩ := each segment member address bound
  exact ⟨contract, grounds⟩

/-- A patch that tightens a limit which was never declared. -/
def looseningPatch : Demo.Checked fun segments =>
    segments.any (installsLimits [budgetLimit 60] [budgetLimit 900]) where
  schedule := Demo.refining ++ .spawn (limitPatch 1000 900) :: Demo.answered 2 6
  passes := by decide +kernel

/-- The draft of the patch has a refined constraint that tightens neither the declared one nor one
that was refined before, as there is none, and that a value beyond the declared limit satisfies. -/
theorem patch_loosens_limit :
    ∃ segments, Demo.Plays looseningPatch.schedule segments ∧ ∃ segment ∈ segments, ∃ version,
      Installs segment 0 version ∧ version.snapshot.declared = [budgetLimit 60] ∧
      version.snapshot.refined = [budgetLimit 900] ∧
      ¬Tightens (budgetLimit 60) (budgetLimit 900) ∧
      ∀ meaning, Satisfies meaning (budgetLimit 900) (.int 700) ∧
        ¬Satisfies meaning (budgetLimit 60) (.int 700) := by
  obtain ⟨segments, plays, checked⟩ := looseningPatch.plays
  obtain ⟨segment, member, installs⟩ := List.any_eq_true.1 checked
  obtain ⟨version, isVersion, limits⟩ := (Option.any_eq_true _ _).1 installs
  simp only [Bool.and_eq_true, decide_eq_true_eq] at limits
  refine ⟨segments, plays, segment, member, version, installs_of_installed? isVersion, limits.1,
    limits.2, by decide +kernel, fun meaning => ⟨?_, ?_⟩⟩
  · rw [budgetLimit, satisfies_le (by decide)]
    decide +kernel
  · rw [budgetLimit, satisfies_le (by decide)]
    decide +kernel

end Loom
