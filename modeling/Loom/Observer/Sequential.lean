import Loom.Coroutine.History
import Loom.Observer.Blocks

/-!
# Calls that do not overlap

In a sequential run nothing happens between the segments of a call.  The moves that a call then
has to tolerate are its own light writes (`Repo.Still`): between its checks and its write block
a record gains at most light events and packages.
-/

namespace Loom

open Coroutine

/-- `after` is `before` with further packages and light events. -/
structure RunRecord.Still (before after : RunRecord) : Prop where
  same : ∃ events packages,
    (∀ event ∈ events, Event.isLight event) ∧
    after = { before with
      events := before.events ++ events
      capabilityPackages := before.capabilityPackages ++ packages }

namespace RunRecord.Still

variable {before after : RunRecord}

theorem refl (record : RunRecord) : record.Still record :=
  ⟨[], [], by simp, by simp⟩

theorem trans {first second third : RunRecord} (one : first.Still second)
    (two : second.Still third) : first.Still third := by
  obtain ⟨events, packages, plain, rfl⟩ := one
  obtain ⟨moreEvents, morePackages, morePlain, rfl⟩ := two
  refine ⟨events ++ moreEvents, packages ++ morePackages, ?_, by simp⟩
  intro event member
  rcases List.mem_append.1 member with member | member
  · exact plain event member
  · exact morePlain event member

theorem appendEvent (record : RunRecord) {event : Event}
    (isLight : event.isLight) :
    record.Still (apply (RecordWrite.appendEvent event) record) := by
  refine ⟨[event], [], ?_, by simp [apply, RecordWrite.apply]⟩
  intro other member
  rw [List.mem_singleton.1 member]
  exact isLight

theorem appendPackage (record : RunRecord) (package : CapabilityPackageVersion) :
    record.Still (apply (RecordWrite.appendPackage package) record) :=
  ⟨[], [package], by simp, by simp [apply, RecordWrite.apply]⟩

end RunRecord.Still

/-- Nothing but light events and packages was added to the records. -/
structure Repo.Still (before after : Repo) : Prop where
  next : after.next = before.next
  runs : after.runs = before.runs
  record : ∀ address, (before.heap address).Still (after.heap address)

namespace Repo.Still

theorem refl (repo : Repo) : repo.Still repo := ⟨rfl, rfl, fun _ => .refl _⟩

theorem trans {first second third : Repo} (one : first.Still second) (two : second.Still third) :
    first.Still third :=
  ⟨two.next.trans one.next, two.runs.trans one.runs,
    fun address => (one.record address).trans (two.record address)⟩

theorem write {write : Write} (repo : Repo) (isLight : write.isLight) :
    repo.Still (apply write repo) := by
  have still : ∀ (address : Nat) (update : RecordWrite),
      (repo.heap address).Still (apply update (repo.heap address)) →
      repo.Still (apply (Write.record address update) repo) := by
    intro address update moved
    refine ⟨rfl, rfl, fun other => ?_⟩
    by_cases same : other = address
    · subst same
      simpa [apply] using moved
    · simpa [apply, Function.update_of_ne same] using RunRecord.Still.refl _
  cases write with
  | record address update =>
      cases update with
      | appendEvent event => exact still address _ (.appendEvent _ isLight)
      | appendPackage package => exact still address _ (.appendPackage _ package)
      | _ => cases isLight
  | alloc record => cases isLight
  | install runId address => cases isLight
  | storeReceipt operationId receipt => cases isLight
  | takeUuid => exact ⟨rfl, rfl, fun _ => .refl _⟩
  | storeSlaves view => exact ⟨rfl, rfl, fun _ => .refl _⟩
  | acquire runId => exact ⟨rfl, rfl, fun _ => .refl _⟩
  | release runId => exact ⟨rfl, rfl, fun _ => .refl _⟩
  | acquireCapability lock => exact ⟨rfl, rfl, fun _ => .refl _⟩
  | releaseCapability lock => exact ⟨rfl, rfl, fun _ => .refl _⟩

end Repo.Still

theorem still_tolerant : Tolerant Repo.Still :=
  ⟨Repo.Still.refl, Repo.Still.trans, fun repo isLight => Repo.Still.write repo isLight⟩

theorem Repo.Alike.still {repo other : Repo} (alike : repo.Alike other) : repo.Still other := by
  refine ⟨alike.next.symm, alike.runs.symm, fun address => ?_⟩
  rw [alike.heap]
  exact .refl _

theorem lookup_replaced (entries : List (String × Nat)) (key other : String) (address : Nat) :
    (entries.map fun entry => if entry.1 = key then (key, address) else entry).lookup other =
      if other = key then (entries.lookup key).map fun _ => address else entries.lookup other := by
  induction entries with
  | nil => simp
  | cons entry entries ih =>
      obtain ⟨name, old⟩ := entry
      rw [List.map_cons]
      by_cases here : name = key
      · subst here
        by_cases same : other = name
        · simp [same]
        · have differs : (other == name) = false := by simpa using same
          simp [List.lookup_cons, differs, same, ih]
      · have apart : (key == name) = false := by simpa using fun same : key = name => here same.symm
        by_cases found : other = name
        · subst found
          simp [here]
        · have differs : (other == name) = false := by simpa using found
          simp [List.lookup_cons, here, differs, apart, ih]

theorem lookup_assign (entries : List (String × Nat)) (key other : String) (address : Nat) :
    (assign entries key address).lookup other =
      if other = key then some address else entries.lookup other := by
  unfold assign
  split
  · rename_i known
    obtain ⟨old, found⟩ := Option.isSome_iff_exists.1 known
    rw [lookup_replaced, found]
    rfl
  · rename_i unknown
    rw [List.lookup_append]
    by_cases same : other = key
    · subst same
      simp [Option.not_isSome_iff_eq_none.1 unknown]
    · have differs : (other == key) = false := by simpa using same
      simp [List.lookup_cons, differs, same]

section

variable {env : Env} {ok : (query : Query) → Answer query → Prop}

/-- A block of a call that nothing interrupts. -/
abbrev Stage (env : Env) (ok : (query : Query) → Answer query → Prop) :=
  Block env ok Repo.Still

/-- A sequential run of a call is a chain of its blocks. -/
theorem Call.stages {call : Call} {before after : Repo} {result : Except Exc Reply}
    (runs : (call.prog env).Runs ok before after result) :
    Prog.Chain (Stage env ok call) ⟨none, before⟩ after result :=
  runs.chain Repo.Still.refl (by rfl) (Call.does still_tolerant call before)

/-- A block of a call with one write block touches no record or is that block. -/
theorem Block.single {rely : Repo → Repo → Prop} {call : Call} {origin : Origin Repo Query}
    {made : List Write} {stop : Stop Exc Query Reply} (single : call.isSingle)
    (block : Block env ok rely call origin made stop) :
    (effects made = [] ∧ Silent ok call origin stop) ∨
      ∃ site updates fate, site.Place rely call origin made ∧
        effects made = writesAt site.address updates ∧ stop = site.stop updates fate ∧
        Change env ok rely site call updates fate := by
  cases block with
  | quiet untouched silent => exact .inl ⟨untouched, silent⟩
  | change site updates fate place writes ends change =>
      exact .inr ⟨site, updates, fate, place, writes, ends, change⟩
  | opened _ _ _ isOpen =>
      subst isOpen
      cases single
  | copied _ _ _ isReassign =>
      subst isReassign
      cases single
  | copyFailed _ _ _ isReassign =>
      subst isReassign
      cases single
  | swapped _ _ _ _ isReassign =>
      subst isReassign
      cases single
  | patched _ _ _ _ _ _ _ _ _ isPatch =>
      subst isPatch
      cases single
  | concluded _ _ _ _ _ _ _ _ _ _ _ isPatch =>
      subst isPatch
      cases single

/-- The record that a write block starts from is the loaded one, up to light writes. -/
structure Site.Undisturbed (site : Site) : Prop where
  still : site.before.Still site.start
  later : site.start.uuids ≤ site.uuids

theorem Site.Place.undisturbed {site : Site} {call : Call} {origin : Origin Repo Query}
    {made : List Write} (place : site.Place Repo.Still call origin made) :
    site.Undisturbed := by
  refine ⟨?_, ?_⟩
  · rcases place.since with ⟨same, -⟩ | ⟨moved, -⟩
    · rw [same]
      exact .refl _
    · exact moved
  · rw [place.uuids, place.start]
    exact uuids_le made origin.start

end

end Loom
