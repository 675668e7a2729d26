import Loom.Observer.Blocks

/-!
# What a segment does to one record

A segment of an interleaving writes to the record that its call has loaded, or makes a new one.
`Touched` says, for one address, what the segment of a call makes of the record there.
-/

namespace Loom

open Coroutine

/-- A segment of a call takes the record at `address` from `before` to `after`. -/
inductive Touched (env : Env) (ok : (query : Query) → Answer query → Prop)
    (rely : Repo → Repo → Prop) (call : Call) (origin : Origin Repo Query) (made : List Write)
    (address : Nat) (before : RunRecord) : RunRecord → Prop where
  | kept : Touched env ok rely call origin made address before before
  | changed (site : Site) (updates : List RecordWrite) (fate : Fate)
      (isSite : site.address = address) (place : site.Place rely call origin made)
      (change : Change env ok rely site call updates fate) :
      Touched env ok rely call origin made address before (applyAll updates before)
  | patched (site : Site) (runId baseVersion baseDigest operationId : String)
      (operations : List Dict) (packages : List CapabilityPackageVersion)
      (draft : List RecordWrite) (events : List Event)
      (isSite : site.address = address) (place : site.Place rely call origin made)
      (isPatch : call = .applyPatch runId baseVersion baseDigest operationId operations)
      (admitted : site.loaded.draft.versionId = baseVersion ∧
        site.loaded.draft.snapshotDigest = baseDigest)
      (drafted : draft = [] ∨ DraftChange env ok site operations draft)
      (isMade : ∀ update ∈ draft, Write.record address update ∈ made) :
      Touched env ok rely call origin made address before
        (applyAll (packages.map .appendPackage ++ draft ++ events.map .appendEvent) before)
  | concluded (runId baseVersion baseDigest operationId : String) (operations : List Dict)
      (events : List Event)
      (isPatch : call = .applyPatch runId baseVersion baseDigest operationId operations) :
      Touched env ok rely call origin made address before
        (applyAll (events.map RecordWrite.appendEvent) before)

/-- A segment of a call makes a new record. -/
inductive Created (env : Env) (rely : Repo → Repo → Prop) (call : Call)
    (origin : Origin Repo Query) (made : List Write) : RunRecord → Prop where
  | opened (args : OpenArgs) (record : RunRecord) (contract : ClosureContract) (number : Nat)
      (isOpen : call = .openRun args) (contracted : args.contract = .ok contract)
      (isNew : ∃ createdAt, record = args.newRecord record.runId contract record.draft createdAt)
      (drawn : origin.start.uuids ≤ number ∧ number < (applyAll made origin.start).uuids)
      (drafted : record.draft.versionId = "draft-" ++ env.hex number)
      (body : record.draft.snapshot = contract.body) (isMade : Write.alloc record ∈ made) :
      Created env rely call origin made record
  | copied (site : Site) (args : ReassignArgs) (move : Reassignment env rely site args)
      (isReassign : call = .reassignDynamicNode args)
      (place : site.Place rely call origin made) :
      Created env rely call origin made (applyAll move.updates site.record)
  | copyFailed (site : Site) (args : ReassignArgs)
      (isReassign : call = .reassignDynamicNode args)
      (place : site.Place rely call origin made) :
      Created env rely call origin made site.record

variable {env : Env} {ok : (query : Query) → Answer query → Prop} {rely : Repo → Repo → Prop}
variable {call : Call} {origin : Origin Repo Query} {made : List Write}
variable {stop : Stop Exc Query Reply}

theorem heap_untouched {repo : Repo} (untouched : effects made = []) :
    (applyAll made repo).heap = repo.heap := by
  have alike := (alike_effects made repo).heap
  rwa [untouched] at alike

/-- The writes of a receipt append its events to the record. -/
theorem heap_receipt (repo : Repo) {operationId : String} {address : Nat} {receipt : List Write}
    (isReceipt : receipt = [] ∨ IsReceipt operationId address receipt) :
    ∃ events : List Event, (applyAll receipt repo).heap =
      Function.update repo.heap address
        (applyAll (events.map RecordWrite.appendEvent) (repo.heap address)) := by
  rcases isReceipt with rfl | ⟨stored, events, -, rfl⟩
  · refine ⟨[], ?_⟩
    rw [List.map_nil, applyAll_nil, applyAll_nil, Function.update_eq_self]
  · refine ⟨events, ?_⟩
    rw [applyAll_cons, applyAll_writesAt]
    rfl

theorem heap_patched (repo : Repo) {site : Site} {updates : List RecordWrite}
    {operationId : String} {receipt : List Write}
    (writes : effects made = writesAt site.address updates ++ receipt)
    (isReceipt : receipt = [] ∨ IsReceipt operationId site.address receipt) :
    ∃ events : List Event, (applyAll made repo).heap =
      Function.update repo.heap site.address
        (applyAll (updates ++ events.map .appendEvent) (repo.heap site.address)) := by
  obtain ⟨events, same⟩ := heap_receipt
    (applyAll (writesAt site.address updates) repo) isReceipt
  refine ⟨events, ?_⟩
  rw [(alike_effects made repo).heap, writes, applyAll_append, same, applyAll_writesAt]
  simp only [Function.update_self, Function.update_idem, applyAll_append]

theorem runs_of_writes (repo : Repo) {address : Nat} {updates : List RecordWrite}
    {receipt : List Write} {operationId : String}
    (writes : effects made = writesAt address updates ++ receipt)
    (isReceipt : receipt = [] ∨ IsReceipt operationId address receipt) :
    (applyAll made repo).runs = repo.runs ∧ (applyAll made repo).next = repo.next := by
  have alike := alike_effects made repo
  rw [writes, applyAll_append, applyAll_writesAt] at alike
  rcases isReceipt with rfl | ⟨stored, events, -, rfl⟩
  · exact ⟨alike.runs, alike.next⟩
  · rw [applyAll_cons, applyAll_writesAt] at alike
    exact ⟨alike.runs, alike.next⟩

theorem runs_of_receipt (repo : Repo) {address : Nat} {receipt : List Write}
    {operationId : String} (writes : effects made = receipt)
    (isReceipt : IsReceipt operationId address receipt) :
    (applyAll made repo).runs = repo.runs ∧ (applyAll made repo).next = repo.next := by
  have whole : effects made = writesAt address [] ++ receipt := writes
  exact runs_of_writes repo whole (.inr isReceipt)

/-- Every segment of every call touches each allocated record as described. -/
theorem Block.touches (block : Block env ok rely call origin made stop) {address : Nat}
    (bound : address < origin.start.next) :
    Touched env ok rely call origin made address (origin.start.heap address)
      ((applyAll made origin.start).heap address) := by
  have elsewhere : ∀ {target : Nat} {record : RunRecord},
      (applyAll made origin.start).heap = Function.update origin.start.heap target record →
      address ≠ target → Touched env ok rely call origin made address (origin.start.heap address)
        ((applyAll made origin.start).heap address) := by
    intro target record same differs
    rw [same, Function.update_of_ne differs]
    exact .kept
  have alike := (alike_effects made origin.start).heap
  cases block with
  | quiet untouched _ =>
      rw [heap_untouched untouched]
      exact .kept
  | change site updates fate place writes ends change =>
      have same : (applyAll made origin.start).heap = _ := heap_of_writes writes
      by_cases isSite : address = site.address
      · subst isSite
        rw [same, Function.update_self]
        exact .changed site updates fate rfl place change
      · exact elsewhere same isSite
  | opened args record contract isOpen first writes named contracted isNew ends number drawn
      drafted =>
      rw [writes] at alike
      exact elsewhere alike bound.ne
  | copied site args move isReassign place writes ends =>
      rw [place.start] at writes
      exact elsewhere (heap_of_alloc writes).1 bound.ne
  | copyFailed site args error isReassign place writes ends =>
      rw [writes] at alike
      exact elsewhere alike bound.ne
  | swapped args copied copy target isReassign query isCopy allocated moved writes ends =>
      rw [writes] at alike
      rw [alike]
      exact .kept
  | patched site runId baseVersion baseDigest operationId operations packages draft receipt isPatch
      place admitted editable writes drafted concluded =>
      obtain ⟨events, same⟩ := heap_patched origin.start writes concluded
      by_cases isSite : address = site.address
      · subst isSite
        rw [same, Function.update_self]
        refine .patched site runId baseVersion baseDigest operationId operations packages draft
          events rfl place isPatch admitted drafted fun update member => ?_
        have isEffect : Write.record site.address update ∈ effects made := by
          rw [writes]
          refine List.mem_append_left _ (List.mem_map_of_mem (List.mem_append_right _ member))
        exact (List.mem_filter.1 isEffect).1
      · exact elsewhere same isSite
  | concluded runId baseVersion baseDigest operationId operations target before middle earlier
      receipt updates isPatch found moved wrote movedAgain late writes isReceipt =>
      obtain ⟨events, same⟩ := heap_receipt origin.start (.inr isReceipt)
      rw [writes, same] at alike
      by_cases isTarget : address = target
      · subst isTarget
        rw [alike, Function.update_self]
        exact .concluded runId baseVersion baseDigest operationId operations events isPatch
      · exact elsewhere alike isTarget

/-- A segment that makes a record makes it as described. -/
theorem Block.creates (block : Block env ok rely call origin made stop)
    (grown : (applyAll made origin.start).next = origin.start.next + 1) :
    Created env rely call origin made ((applyAll made origin.start).heap origin.start.next) := by
  have alike := alike_effects made origin.start
  cases block with
  | quiet untouched _ =>
      rw [untouched] at alike
      have same : (applyAll made origin.start).next = origin.start.next := alike.next
      omega
  | change site updates fate place writes ends change =>
      rw [writes, applyAll_writesAt] at alike
      have same : (applyAll made origin.start).next = origin.start.next := alike.next
      omega
  | opened args record contract isOpen first writes named contracted isNew ends number drawn
      drafted body =>
      have heap := alike.heap
      rw [writes] at heap
      have same : (applyAll made origin.start).heap origin.start.next = record := by
        rw [heap]
        exact Function.update_self _ _ _
      have isEffect : Write.alloc record ∈ effects made := by
        rw [writes]
        exact List.mem_cons_self
      rw [same]
      exact .opened args record contract number isOpen contracted isNew drawn drafted body
        (List.mem_filter.1 isEffect).1
  | copied site args move isReassign place writes ends =>
      rw [place.start] at writes
      rw [(heap_of_alloc writes).1, Function.update_self]
      exact .copied site args move isReassign place
  | copyFailed site args error isReassign place writes ends =>
      have heap := alike.heap
      rw [writes] at heap
      have same : (applyAll made origin.start).heap origin.start.next = site.record := by
        rw [heap]
        exact Function.update_self _ _ _
      rw [same]
      exact .copyFailed site args isReassign place
  | swapped args copied copy target isReassign query isCopy allocated moved writes ends =>
      rw [writes] at alike
      have same : (applyAll made origin.start).next = origin.start.next := alike.next
      omega
  | patched site runId baseVersion baseDigest operationId operations packages draft receipt isPatch
      place admitted editable writes drafted concluded =>
      have same := (runs_of_writes origin.start writes concluded).2
      omega
  | concluded runId baseVersion baseDigest operationId operations target before middle earlier
      receipt updates isPatch found moved wrote movedAgain late writes isReceipt =>
      have same := (runs_of_receipt origin.start writes isReceipt).2
      omega

end Loom
