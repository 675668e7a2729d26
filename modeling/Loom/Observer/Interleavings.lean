import Loom.Observer.Histories
import Loom.Observer.Touches

/-!
# What interleaved calls do to the records

`Law` is the proof rule for interleavings: a reflexive and transitive relation between a record
and what becomes of it (`moves`), and a property of every record (`fine`), that every permitted
segment keeps.  `Law.run` gives both for all segments of an interleaving, together with the
description of each segment in which the environment moves records along `moves`.
-/

namespace Loom

open Coroutine

/-- A segment of an interleaving of the Observer's operations. -/
abbrev ObserverSegment := Segment Repo Exc Write Query Reply Call

/-- Interleavings of the Observer's operations. -/
abbrev ObserverPool := Pool Repo Exc Write Answer Reply Call

/-- The records of one repository have moved to those of another.  The relation looks back: where
run ids are bound to allocated records now, they were so before. -/
structure Evolves (moves : RunRecord → RunRecord → Prop) (before after : Repo) : Prop where
  next : before.next ≤ after.next
  uuids : before.uuids ≤ after.uuids
  allocated : after.Allocated → before.Allocated
  records : ∀ address < before.next, moves (before.heap address) (after.heap address)

/-- Run ids are bound to allocated records, and these are fine. -/
structure Repo.Sound (fine : Nat → RunRecord → Prop) (repo : Repo) : Prop where
  allocated : repo.Allocated
  fine : ∀ address < repo.next, fine repo.uuids (repo.heap address)

/-- A relation and a property of records that every permitted segment keeps. -/
structure Law (env : Env) (ok : (query : Query) → Answer query → Prop)
    (permits : ObserverSegment → Prop) (moves : RunRecord → RunRecord → Prop)
    (fine : Nat → RunRecord → Prop) : Prop where
  still : ∀ {before after : RunRecord}, before.Still after → moves before after
  trans : ∀ {first second third : RunRecord}, moves first second → moves second third →
    moves first third
  touch : ∀ {segment : ObserverSegment} {address : Nat} {after : RunRecord}, permits segment →
    segment.origin.start.Sound fine → address < segment.origin.start.next →
    Touched env ok (Evolves moves) segment.label segment.origin segment.made address
      (segment.origin.start.heap address) after →
    moves (segment.origin.start.heap address) after ∧ fine segment.final.uuids after
  create : ∀ {segment : ObserverSegment} {record : RunRecord}, permits segment →
    segment.origin.start.Sound fine →
    Created env (Evolves moves) segment.label segment.origin segment.made record →
    fine segment.final.uuids record

theorem Repo.Still.allocated {before after : Repo} (still : before.Still after) :
    after.Allocated ↔ before.Allocated := by
  unfold Repo.Allocated Repo.address?
  rw [still.runs, still.next]

/-- Where run ids are bound to allocated records when a segment starts, the record that its call
has loaded is allocated and has moved since. -/
theorem Site.Place.evolved {moves : RunRecord → RunRecord → Prop} {site : Site} {call : Call}
    {origin : Origin Repo Query} {made : List Write}
    (place : site.Place (Evolves moves) call origin made) (allocated : origin.start.Allocated)
    (reflexive : ∀ record, moves record record) {runId : String}
    (names : call.runId? = some runId) :
    site.address < origin.start.next ∧ moves site.loaded site.record := by
  rcases place.since with ⟨same, -⟩ | ⟨moved, -⟩
  · have found := place.loaded runId names
    rw [same, place.start] at found
    refine ⟨allocated runId _ found, ?_⟩
    unfold Site.loaded Site.record
    rw [same]
    exact reflexive _
  · rw [← place.start] at allocated ⊢
    have bound := moved.allocated allocated runId _ (place.loaded runId names)
    exact ⟨lt_of_lt_of_le bound moved.next, moved.records _ bound⟩

namespace Law

variable {env : Env} {ok : (query : Query) → Answer query → Prop}
variable {permits : ObserverSegment → Prop} {moves : RunRecord → RunRecord → Prop}
variable {fine : Nat → RunRecord → Prop} (law : Law env ok permits moves fine)
include law

theorem refl (record : RunRecord) : moves record record := law.still (.refl record)

theorem evolves_refl (repo : Repo) : Evolves moves repo repo :=
  ⟨le_refl _, le_refl _, id, fun _ _ => law.refl _⟩

theorem evolves_trans {first second third : Repo} (one : Evolves moves first second)
    (two : Evolves moves second third) : Evolves moves first third := by
  refine ⟨le_trans one.next two.next, le_trans one.uuids two.uuids,
    fun allocated => one.allocated (two.allocated allocated), ?_⟩
  intro address bound
  exact law.trans (one.records address bound)
    (two.records address (lt_of_lt_of_le bound one.next))

theorem tolerant : Tolerant (Evolves moves) := by
  refine ⟨law.evolves_refl, law.evolves_trans, ?_⟩
  intro write repo isLight
  have still : repo.Still (apply write repo) := (still_tolerant).write repo isLight
  exact ⟨le_of_eq still.next.symm, uuids_le [write] repo, still.allocated.1,
    fun address _ => law.still (still.record address)⟩

end Law

/-! ### Allocation -/

section Allocation

variable {env : Env} {ok : (query : Query) → Answer query → Prop} {rely : Repo → Repo → Prop}
variable {call : Call} {origin : Origin Repo Query} {made : List Write}
variable {stop : Stop Exc Query Reply}

theorem Repo.Allocated.of_runs {before after : Repo} (allocated : before.Allocated)
    (runs : after.runs = before.runs) (next : before.next ≤ after.next) : after.Allocated := by
  intro runId address installed
  unfold Repo.address? at installed
  rw [runs] at installed
  exact lt_of_lt_of_le (allocated runId address installed) next

theorem Repo.Allocated.of_assign {before after : Repo} (allocated : before.Allocated)
    {runId : String} {address : Nat} (runs : after.runs = assign before.runs runId address)
    (next : before.next ≤ after.next) (bound : address < after.next) : after.Allocated := by
  intro other target installed
  unfold Repo.address? at installed
  rw [runs, lookup_assign] at installed
  split at installed
  · cases installed
    exact bound
  · exact lt_of_lt_of_le (allocated other target installed) next

/-- A segment makes at most one record, and binds run ids to allocated ones. -/
theorem Block.allocates (mono : ∀ {before after : Repo}, rely before after →
      before.next ≤ after.next) (block : Block env ok rely call origin made stop)
    (allocated : origin.start.Allocated) :
    (applyAll made origin.start).Allocated ∧
      ((applyAll made origin.start).next = origin.start.next ∨
        (applyAll made origin.start).next = origin.start.next + 1) := by
  have alike := alike_effects made origin.start
  cases block with
  | quiet untouched _ =>
      rw [untouched] at alike
      exact ⟨allocated.of_runs alike.runs (le_of_eq alike.next.symm), .inl alike.next⟩
  | change site updates fate place writes ends change =>
      rw [writes, applyAll_writesAt] at alike
      exact ⟨allocated.of_runs alike.runs (le_of_eq alike.next.symm), .inl alike.next⟩
  | opened args record contract isOpen first writes named contracted isNew ends number drawn
      drafted =>
      rw [writes] at alike
      have next : (applyAll made origin.start).next = origin.start.next + 1 := alike.next
      exact ⟨allocated.of_assign alike.runs (by omega) (by omega), .inr next⟩
  | copied site args move isReassign place writes ends =>
      rw [writes, applyAll_cons, applyAll_writesAt] at alike
      have next : (applyAll made origin.start).next = origin.start.next + 1 := alike.next
      exact ⟨allocated.of_runs alike.runs (by omega), .inr next⟩
  | copyFailed site args error isReassign place writes ends =>
      rw [writes] at alike
      have next : (applyAll made origin.start).next = origin.start.next + 1 := alike.next
      exact ⟨allocated.of_runs alike.runs (by omega), .inr next⟩
  | swapped args copied copy target isReassign query isCopy isLast moved writes ends =>
      rw [writes] at alike
      have next : (applyAll made origin.start).next = origin.start.next := alike.next
      have bound := mono moved
      exact ⟨allocated.of_assign alike.runs (by omega) (by omega), .inl next⟩
  | patched site runId baseVersion baseDigest operationId operations packages draft receipt isPatch
      place admitted editable writes drafted concluded =>
      obtain ⟨runs, next⟩ := runs_of_writes origin.start writes concluded
      exact ⟨allocated.of_runs runs (le_of_eq next.symm), .inl next⟩
  | concluded runId baseVersion baseDigest operationId operations target before middle earlier
      receipt updates isPatch found moved wrote movedAgain late writes isReceipt =>
      obtain ⟨runs, next⟩ := runs_of_receipt origin.start writes isReceipt
      exact ⟨allocated.of_runs runs (le_of_eq next.symm), .inl next⟩

end Allocation

/-! ### Interleavings -/

namespace Law

variable {env : Env} {ok : (query : Query) → Answer query → Prop}
variable {permits : ObserverSegment → Prop} {moves : RunRecord → RunRecord → Prop}
variable {fine : Nat → RunRecord → Prop} (law : Law env ok permits moves fine)
include law

/-- A permitted segment keeps the law. -/
theorem segment {segment : ObserverSegment} (permitted : permits segment)
    (block : Block env ok (Evolves moves) segment.label segment.origin segment.made segment.stop)
    (sound : segment.origin.start.Sound fine) :
    Evolves moves segment.origin.start segment.final ∧ segment.final.Sound fine := by
  obtain ⟨allocated, next⟩ := block.allocates Evolves.next sound.allocated
  refine ⟨⟨?_, uuids_le _ _, fun _ => sound.allocated, ?_⟩, allocated, ?_⟩
  · unfold Segment.final
    omega
  · intro address bound
    exact (law.touch permitted sound bound (block.touches bound)).1
  · intro address bound
    by_cases old : address < segment.origin.start.next
    · exact (law.touch permitted sound old (block.touches old)).2
    · unfold Segment.final at bound
      have isNext : address = segment.origin.start.next := by omega
      subst isNext
      refine law.create permitted sound (block.creates ?_)
      omega

/-- Every segment of an interleaving of permitted segments is as described, and keeps the law. -/
theorem run {ready : Query → Repo → Prop} {start : Repo} {segments : List ObserverSegment}
    {pool : ObserverPool} (run : Pool.Run (Call.prog env) ok ready ⟨start, []⟩ segments pool)
    (permitted : ∀ segment ∈ segments, permits segment) (sound : start.Sound fine) :
    ∀ segment ∈ segments,
      Block env ok (Evolves moves) segment.label segment.origin segment.made segment.stop ∧
      segment.origin.start.Sound fine ∧ Evolves moves segment.origin.start segment.final := by
  have blocks := run.blocks law.evolves_refl (fun _ _ _ => law.evolves_trans)
    (fun call state => Call.does law.tolerant call state)
    (fun segment member block sound => law.segment (permitted segment member) block sound) sound
  intro segment member
  obtain ⟨block, sound⟩ := blocks segment member
  exact ⟨block, sound, (law.segment (permitted segment member) block sound).1⟩

/-- The records of an earlier segment have moved when a later one starts. -/
theorem ordered {ready : Query → Repo → Prop} {start : Repo} {segments : List ObserverSegment}
    {pool : ObserverPool} (run : Pool.Run (Call.prog env) ok ready ⟨start, []⟩ segments pool)
    (permitted : ∀ segment ∈ segments, permits segment) (sound : start.Sound fine) :
    segments.Pairwise fun earlier later => Evolves moves earlier.final later.origin.start := by
  have moved := law.run run permitted sound
  exact run.ordered law.evolves_refl (fun _ _ _ => law.evolves_trans)
    fun segment member => (moved segment member).2.2

end Law

end Loom
