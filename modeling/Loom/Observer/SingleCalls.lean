import Loom.Observer.Histories

/-!
# Calls with one write block

A sequential call with one write block (`Call.isSingle`) leaves the repository alone, or it
performs one `Change` in the state it was called in.  It then ends with the exception of that
change or, after the storage call, with what storage answers.
-/

namespace Loom

open Coroutine

/-- How a call ends whose write block had a fate: with the exception that was raised, or after
storage was called with a record. -/
def Fate.Ends (fate : Fate) (answers : (query : Query) → Answer query → Prop) (call : Call)
    (record : RunRecord) (result : Except Exc Reply) : Prop :=
  match fate with
  | .raised error => result = .error error
  | .stored => call.storesLast → ∀ error, result = .error error →
      answers (.persist record) (.error error)

/-- A write block that a call performs in the state it was called in. -/
structure Performs (env : Env) (answers : (query : Query) → Answer query → Prop) (call : Call)
    (before after : Repo) (site : Site) (updates : List RecordWrite) (fate : Fate) : Prop where
  change : Change env answers Repo.Still site call updates fate
  undisturbed : site.Undisturbed
  start : before.Alike site.start
  named : ∀ runId, call.runId? = some runId → before.address? runId = some site.address
  final : after.Alike (applyAll (writesAt site.address updates) site.start)
  drawn : before.uuids ≤ site.start.uuids ∧ site.uuids ≤ after.uuids

/-- What a call with one write block does. -/
inductive Performed (env : Env) (answers : (query : Query) → Answer query → Prop) (call : Call)
    (before after : Repo) (result : Except Exc Reply) : Prop where
  | idle (same : before.Alike after)
  | wrote (site : Site) (updates : List RecordWrite) (fate : Fate)
      (performs : Performs env answers call before after site updates fate)
      (ends : fate.Ends answers call (applyAll updates site.record) result)

section

variable {env : Env} {answers : (query : Query) → Answer query → Prop}
variable {call : Call} {before after : Repo} {result : Except Exc Reply}

/-- The state of a call between its segments: nothing is written, or its change is stored. -/
def Underway (env : Env) (answers : (query : Query) → Answer query → Prop) (call : Call)
    (before : Repo) (origin : Origin Repo Query) : Prop :=
  before.uuids ≤ origin.start.uuids ∧
    (before.Alike origin.start ∧ (∀ record, origin.query ≠ some (.persist record)) ∨
      ∃ site updates, Performs env answers call before origin.start site updates .stored ∧
        origin.query = some (.persist (applyAll updates site.record)))

theorem Performs.minor {site : Site} {updates : List RecordWrite} {fate : Fate} {repo : Repo}
    {made : List Write} (performs : Performs env answers call before repo site updates fate)
    (untouched : effects made = []) :
    Performs env answers call before (applyAll made repo) site updates fate := by
  have alike := alike_effects made repo
  rw [untouched] at alike
  refine ⟨performs.change, performs.undisturbed, performs.start, performs.named,
    alike.trans performs.final, performs.drawn.1, ?_⟩
  exact performs.drawn.2.trans (uuids_le made repo)

/-- A write block of a call is performed in the state it was called in. -/
theorem performs_of_block {origin : Origin Repo Query} {made : List Write} {site : Site}
    {updates : List RecordWrite} {fate : Fate} (single : call.isSingle)
    (underway : Underway env answers call before origin)
    (place : site.Place Repo.Still call origin made)
    (writes : effects made = writesAt site.address updates)
    (change : Change env answers Repo.Still site call updates fate) :
    Performs env answers call before (applyAll made origin.start) site updates fate := by
  have fresh : (∃ record, origin.query = some (.persist record)) ∨ before.Alike origin.start := by
    rcases underway.2 with ⟨alike, -⟩ | ⟨_, _, -, query⟩
    · exact .inr alike
    · exact .inl ⟨_, query⟩
  have permitted : Permitted (fun _ repo => repo = before) call site :=
    Rule.permitted_at rfl fresh place single
  obtain ⟨start, rfl, alike, named⟩ := permitted.start
  refine ⟨change, place.undisturbed, alike, named, ?_, ?_, ?_⟩
  · have final := alike_effects made origin.start
    rw [writes] at final
    rw [place.start]
    exact final
  · rw [place.start]
    exact underway.1
  · rw [place.uuids]

theorem underway_next {origin : Origin Repo Query} {made : List Write} {query : Query}
    (single : call.isSingle) (stage : Stage env answers call origin made (.awaits query))
    (underway : Underway env answers call before origin) :
    Underway env answers call before ⟨some query, applyAll made origin.start⟩ := by
  refine ⟨underway.1.trans (uuids_le made origin.start), ?_⟩
  rcases stage.single single with
    ⟨untouched, silent⟩ | ⟨site, updates, fate, place, writes, ends, change⟩
  · rcases underway.2 with ⟨alike, -⟩ | ⟨_, _, -, stored⟩
    · have same := alike_effects made origin.start
      rw [untouched] at same
      refine .inl ⟨alike.trans same.symm, ?_⟩
      rintro record isStored
      cases isStored
      have notPatch : call.isPatch = false := by cases call <;> first | rfl | cases single
      cases silent.unasked notPatch
    · cases silent.final single _ stored
  · cases fate with
    | stored =>
        cases ends
        exact .inr ⟨site, updates, performs_of_block single underway place writes change, rfl⟩
    | raised error => cases ends

theorem performed_last {origin : Origin Repo Query} {made : List Write}
    {stop : Stop Exc Query Reply} (single : call.isSingle)
    (stage : Stage env answers call origin made stop)
    (underway : Underway env answers call before origin)
    (isEnd : (∃ value, stop = .returns value ∧ result = .ok value) ∨
      ∃ error, stop = .raises error ∧ result = .error error) :
    Performed env answers call before (applyAll made origin.start) result := by
  rcases stage.single single with
    ⟨untouched, silent⟩ | ⟨site, updates, fate, place, writes, ends, change⟩
  · rcases underway.2 with ⟨alike, -⟩ | ⟨site, updates, performs, stored⟩
    · have same := alike_effects made origin.start
      rw [untouched] at same
      exact .idle (alike.trans same.symm)
    · refine .wrote site updates .stored (performs.minor untouched) ?_
      intro last error raised
      rcases isEnd with ⟨value, -, returned⟩ | ⟨raising, stops, raisedToo⟩
      · rw [raised] at returned
        cases returned
      · rw [raised] at raisedToo
        cases raisedToo
        exact silent.stored last _ _ stored stops
  · refine .wrote site updates fate (performs_of_block single underway place writes change) ?_
    cases fate with
    | stored => rcases isEnd with ⟨_, stops, -⟩ | ⟨_, stops, -⟩ <;> cases ends.symm.trans stops
    | raised error =>
        rcases isEnd with ⟨_, stops, -⟩ | ⟨_, stops, raised⟩
        · cases ends.symm.trans stops
        · cases ends.symm.trans stops
          exact raised

/-- A sequential call with one write block writes nothing or performs one change. -/
theorem Call.performed (single : call.isSingle)
    (runs : (call.prog env).Runs answers before after result) :
    Performed env answers call before after result := by
  refine Prog.Chain.induct (Underway env answers call before)
    (fun state result => Performed env answers call before state result) ?_ ?_ ?_
    (Call.stages runs) ⟨le_refl _, .inl ⟨.refl _, fun record stored => by cases stored⟩⟩
  · exact fun origin made query stage underway => underway_next single stage underway
  · exact fun origin made value stage underway =>
      performed_last single stage underway (.inl ⟨value, rfl, rfl⟩)
  · exact fun origin made error stage underway =>
      performed_last single stage underway (.inr ⟨error, rfl, rfl⟩)

end

end Loom
