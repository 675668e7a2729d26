import Loom.Coroutine.Segments

/-!
# Runs of coroutines

A sequential run of a coroutine is a chain of its segments (`Prog.Chain`).  A `Pool` is a set
of suspended coroutines over one state; a step starts a coroutine or answers the await of one,
and runs one segment.  `Pool.Run.blocks` lifts a description of the segments of each coroutine
(`Prog.Does`) to every interleaving.
-/

namespace Coroutine

variable {σ ε ω Q : Type} {A : Q → Type} {α : Type} [Update ω σ]

namespace Prog

/-! ### Sequential runs -/

/-- The segments of a sequential run that starts at `origin` and ends in a state with a
result. -/
inductive Chain (block : Origin σ Q → List ω → Stop ε Q α → Prop) :
    Origin σ Q → σ → Except ε α → Prop where
  | returns {origin : Origin σ Q} {made : List ω} {value : α}
      (holds : block origin made (.returns value)) :
      Chain block origin (applyAll made origin.start) (.ok value)
  | raises {origin : Origin σ Q} {made : List ω} {error : ε}
      (holds : block origin made (.raises error)) :
      Chain block origin (applyAll made origin.start) (.error error)
  | awaits {origin : Origin σ Q} {made : List ω} {query : Q} {state : σ}
      {result : Except ε α} (holds : block origin made (.awaits query))
      (rest : Chain block ⟨some query, applyAll made origin.start⟩ state result) :
      Chain block origin state result

theorem Runs.chain {ok : (query : Q) → A query → Prop} {rely : σ → σ → Prop}
    {block : Origin σ Q → List ω → Stop ε Q α → Prop} (reflexive : ∀ state, rely state state)
    {program : Prog σ ε ω A α} {state state' : σ} {result : Except ε α}
    (runs : Runs ok program state state' result) :
    ∀ {origin : Origin σ Q} {made : List ω}, applyAll made origin.start = state →
      Does ok rely block program origin made → Chain block origin state' result := by
  induction runs with
  | ret =>
      intro origin made reached does
      rw [← reached]
      exact .returns does
  | raise =>
      intro origin made reached does
      rw [← reached]
      exact .raises does
  | read rest ih =>
      intro origin made reached does
      refine ih reached ?_
      rw [← reached]
      exact does
  | write rest ih =>
      intro origin made reached does
      exact ih (by rw [applyAll_append, reached]; rfl) does
  | await answer allowed rest ih =>
      intro origin made reached does
      refine .awaits does.1 ?_
      rw [reached]
      refine ih rfl (does.2 _ ?_ answer allowed)
      rw [reached]
      exact reflexive _

/-- Induction along a sequential run: `holds` at every origin, `finished` at the end. -/
theorem Chain.induct {block : Origin σ Q → List ω → Stop ε Q α → Prop}
    (holds : Origin σ Q → Prop) (finished : σ → Except ε α → Prop)
    (awaits : ∀ origin made query, block origin made (.awaits query) → holds origin →
      holds ⟨some query, applyAll made origin.start⟩)
    (returns : ∀ origin made value, block origin made (.returns value) → holds origin →
      finished (applyAll made origin.start) (.ok value))
    (raises : ∀ origin made error, block origin made (.raises error) → holds origin →
      finished (applyAll made origin.start) (.error error))
    {origin : Origin σ Q} {state : σ} {result : Except ε α}
    (chain : Chain block origin state result) (start : holds origin) : finished state result := by
  induction chain with
  | returns one => exact returns _ _ _ one start
  | raises one => exact raises _ _ _ one start
  | awaits one rest ih => exact ih (awaits _ _ _ one start)

/-! ### One segment of a program -/

/-- The writes of a program up to its next await or its end. -/
def writes : Prog σ ε ω A α → σ → List ω
  | .ret _, _ => []
  | .raise _, _ => []
  | .read next, state => (next state).writes state
  | .write update next, state => update :: next.writes (apply update state)
  | .await _ _, _ => []

/-- What is left of a program at its next await or its end. -/
def residue : Prog σ ε ω A α → σ → Prog σ ε ω A α
  | .ret value, _ => .ret value
  | .raise error, _ => .raise error
  | .read next, state => (next state).residue state
  | .write update next, state => next.residue (apply update state)
  | .await query next, _ => .await query next

/-- Where a program stops next. -/
def stop : Prog σ ε ω A α → σ → Stop ε Q α
  | .ret value, _ => .returns value
  | .raise error, _ => .raises error
  | .read next, state => (next state).stop state
  | .write update next, state => next.stop (apply update state)
  | .await query _, _ => .awaits query

/-- The answers to a suspended program are as `block` says, from any state the environment may
have moved to. -/
def Suspended (ok : (query : Q) → A query → Prop) (rely : σ → σ → Prop)
    (block : Origin σ Q → List ω → Stop ε Q α → Prop) (state : σ) :
    Prog σ ε ω A α → Prop
  | .await query next => ∀ state', rely state state' → ∀ answer, ok query answer →
      Does ok rely block (next answer) ⟨some query, state'⟩ []
  | _ => True

theorem Does.segment {ok : (query : Q) → A query → Prop} {rely : σ → σ → Prop}
    {block : Origin σ Q → List ω → Stop ε Q α → Prop} {program : Prog σ ε ω A α}
    {origin : Origin σ Q} {made : List ω} (does : Does ok rely block program origin made) :
    let state := applyAll made origin.start
    block origin (made ++ program.writes state) (program.stop state) ∧
      Suspended ok rely block (applyAll (program.writes state) state) (program.residue state) := by
  induction program generalizing origin made with
  | ret value => exact ⟨by simpa [writes, stop, Does] using does, trivial⟩
  | raise error => exact ⟨by simpa [writes, stop, Does] using does, trivial⟩
  | read next ih => exact ih _ does
  | write update next ih =>
      have rest := ih does
      simp only [applyAll_append, applyAll_cons, applyAll_nil, List.append_assoc,
        List.singleton_append] at rest
      exact rest
  | await query next ih =>
      exact ⟨by simpa [writes, stop] using does.1, does.2⟩

end Prog

/-! ### Interleavings -/

/-- A coroutine that was started for `label` and is suspended or over. -/
structure Thread (σ ε ω : Type) {Q : Type} (A : Q → Type) (α L : Type) where
  label : L
  rest : Prog σ ε ω A α

/-- A state shared by coroutines. -/
structure Pool (σ ε ω : Type) {Q : Type} (A : Q → Type) (α L : Type) where
  state : σ
  threads : List (Thread σ ε ω A α L)

/-- One segment of a coroutine in an interleaving. -/
structure Segment (σ ε ω Q α L : Type) where
  label : L
  origin : Origin σ Q
  made : List ω
  stop : Stop ε Q α

/-- The state after a segment. -/
def Segment.final {L : Type} (segment : Segment σ ε ω Q α L) : σ :=
  applyAll segment.made segment.origin.start

namespace Pool

variable {L : Type}

/-- One step of an interleaving: a coroutine starts, or one whose query is `ready` is answered,
and runs one segment. -/
inductive Step (code : L → Prog σ ε ω A α) (ok : (query : Q) → A query → Prop)
    (ready : Q → σ → Prop) :
    Pool σ ε ω A α L → Segment σ ε ω Q α L → Pool σ ε ω A α L → Prop where
  | spawn {state : σ} {threads : List (Thread σ ε ω A α L)} (label : L) :
      Step code ok ready ⟨state, threads⟩
        ⟨label, ⟨none, state⟩, (code label).writes state, (code label).stop state⟩
        ⟨applyAll ((code label).writes state) state,
          threads ++ [⟨label, (code label).residue state⟩]⟩
  | resume {state : σ} {before after : List (Thread σ ε ω A α L)} {label : L} {query : Q}
      {next : A query → Prog σ ε ω A α} (answer : A query) (allowed : ok query answer)
      (isReady : ready query state) :
      Step code ok ready ⟨state, before ++ ⟨label, .await query next⟩ :: after⟩
        ⟨label, ⟨some query, state⟩, (next answer).writes state, (next answer).stop state⟩
        ⟨applyAll ((next answer).writes state) state,
          before ++ ⟨label, (next answer).residue state⟩ :: after⟩

/-- An interleaving: the segments in the order in which they ran. -/
inductive Run (code : L → Prog σ ε ω A α) (ok : (query : Q) → A query → Prop)
    (ready : Q → σ → Prop) (start : Pool σ ε ω A α L) :
    List (Segment σ ε ω Q α L) → Pool σ ε ω A α L → Prop where
  | nil : Run code ok ready start [] start
  | step {segments : List (Segment σ ε ω Q α L)} {pool pool' : Pool σ ε ω A α L}
      {segment : Segment σ ε ω Q α L} (run : Run code ok ready start segments pool)
      (next : Step code ok ready pool segment pool') :
      Run code ok ready start (segments ++ [segment]) pool'

variable {code : L → Prog σ ε ω A α} {ok : (query : Q) → A query → Prop}
  {ready : Q → σ → Prop}

theorem Step.start_eq {pool pool' : Pool σ ε ω A α L} {segment : Segment σ ε ω Q α L}
    (step : Step code ok ready pool segment pool') : segment.origin.start = pool.state := by
  cases step <;> rfl

theorem Step.final_eq {pool pool' : Pool σ ε ω A α L} {segment : Segment σ ε ω Q α L}
    (step : Step code ok ready pool segment pool') : segment.final = pool'.state := by
  cases step <;> rfl

/-- A segment that answers no query is the first of its coroutine. -/
theorem Step.spawned {pool pool' : Pool σ ε ω A α L} {segment : Segment σ ε ω Q α L}
    (step : Step code ok ready pool segment pool') (first : segment.origin.query = none) :
    segment.made = (code segment.label).writes pool.state ∧
      segment.stop = (code segment.label).stop pool.state := by
  cases step with
  | spawn label => exact ⟨rfl, rfl⟩
  | resume answer allowed isReady => cases first

section Blocks

variable {rely : σ → σ → Prop} {block : L → Origin σ Q → List ω → Stop ε Q α → Prop}
variable {holds : σ → Prop} (reflexive : ∀ state, rely state state)
variable (transitive : ∀ first second third, rely first second → rely second third →
  rely first third)
variable (does : ∀ label state, (code label).Does ok rely (block label) ⟨none, state⟩ [])

/-- Every suspended coroutine of a pool goes on as its description says. -/
def Described (ok : (query : Q) → A query → Prop) (rely : σ → σ → Prop)
    (block : L → Origin σ Q → List ω → Stop ε Q α → Prop) (pool : Pool σ ε ω A α L) : Prop :=
  ∀ thread ∈ pool.threads, thread.rest.Suspended ok rely (block thread.label) pool.state

theorem suspended_mono (transitive : ∀ first second third, rely first second →
      rely second third → rely first third) {holds : Origin σ Q → List ω → Stop ε Q α → Prop}
        {program : Prog σ ε ω A α}
    {state state' : σ} (moved : rely state state')
    (suspended : program.Suspended ok rely holds state) :
    program.Suspended ok rely holds state' := by
  cases program with
  | await query next =>
      exact fun later moved' answer allowed =>
        suspended later (transitive _ _ _ moved moved') answer allowed
  | ret _ => trivial
  | raise _ => trivial
  | read _ => trivial
  | write _ _ => trivial

include reflexive transitive does

theorem Step.described {pool pool' : Pool σ ε ω A α L} {segment : Segment σ ε ω Q α L}
    (step : Step code ok ready pool segment pool') (described : Described ok rely block pool)
    (guarantee : block segment.label segment.origin segment.made segment.stop →
      rely segment.origin.start segment.final) :
    block segment.label segment.origin segment.made segment.stop ∧
      Described ok rely block pool' := by
  cases step with
  | spawn label =>
      obtain ⟨here, rest⟩ := (does label _).segment
      refine ⟨here, ?_⟩
      intro thread member
      rcases List.mem_append.1 member with member | member
      · exact suspended_mono transitive (guarantee here) (described thread member)
      · rw [List.mem_singleton.1 member]
        exact rest
  | resume answer allowed isReady =>
      rename_i state before after label query next
      have suspended := described ⟨label, .await query next⟩ (by simp)
      obtain ⟨here, rest⟩ := (suspended state (reflexive state) answer allowed).segment
      refine ⟨here, ?_⟩
      intro thread member
      rcases List.mem_append.1 member with member | member
      · exact suspended_mono transitive (guarantee here)
          (described thread (List.mem_append_left _ member))
      · rcases List.mem_cons.1 member with rfl | member
        · exact rest
        · exact suspended_mono transitive (guarantee here)
            (described thread (List.mem_append_right _ (List.mem_cons_of_mem _ member)))

/-- In every interleaving that starts without suspended coroutines, every segment is as its
coroutine's description says, and the invariant that the segments keep holds before it. -/
theorem Run.blocks {start : σ} {segments : List (Segment σ ε ω Q α L)}
    {pool : Pool σ ε ω A α L} (run : Run code ok ready ⟨start, []⟩ segments pool)
    (guarantee : ∀ segment ∈ segments,
      block segment.label segment.origin segment.made segment.stop → holds segment.origin.start →
        rely segment.origin.start segment.final ∧ holds segment.final)
    (initial : holds start) :
    ∀ segment ∈ segments, block segment.label segment.origin segment.made segment.stop ∧
      holds segment.origin.start := by
  suffices all : (Described ok rely block pool ∧ holds pool.state) ∧ ∀ segment ∈ segments,
      block segment.label segment.origin segment.made segment.stop ∧
        holds segment.origin.start from all.2
  induction run with
  | nil =>
      exact ⟨⟨fun thread member => by simp at member, initial⟩,
        fun segment member => by simp at member⟩
  | @step segments pool pool' last run next ih =>
      obtain ⟨⟨earlier, held⟩, segmentsHold⟩ :=
        ih fun segment member => guarantee segment (List.mem_append_left _ member)
      have start := next.start_eq
      have kept := fun here => guarantee last (by simp) here (by rwa [start])
      obtain ⟨here, described⟩ :=
        next.described reflexive transitive does earlier fun here => (kept here).1
      refine ⟨⟨described, ?_⟩, ?_⟩
      · rw [← next.final_eq]
        exact (kept here).2
      · intro segment member
        rcases List.mem_append.1 member with member | member
        · exact segmentsHold segment member
        · rw [List.mem_singleton.1 member, start]
          exact ⟨here, held⟩

end Blocks

/-- A description that stands under all interference holds of every segment. -/
theorem Run.described {block : L → Origin σ Q → List ω → Stop ε Q α → Prop}
    (does : ∀ label state,
      (code label).Does ok (fun _ _ => True) (block label) ⟨none, state⟩ [])
    {start : σ} {segments : List (Segment σ ε ω Q α L)} {pool : Pool σ ε ω A α L}
    (run : Run code ok ready ⟨start, []⟩ segments pool) :
    ∀ segment ∈ segments, block segment.label segment.origin segment.made segment.stop := by
  intro segment member
  exact (@Run.blocks σ ε ω Q A α _ L code ok ready (fun _ _ => True) block (fun _ => True)
    (fun _ => trivial) (fun _ _ _ _ _ => trivial) does _ _ _ run
    (fun _ _ _ _ => ⟨trivial, trivial⟩) trivial segment member).1

/-- A transitive relation that every segment respects relates each segment to the later ones. -/
theorem Run.ordered {rely : σ → σ → Prop} (reflexive : ∀ state, rely state state)
    (transitive : ∀ first second third, rely first second → rely second third →
      rely first third) {start pool : Pool σ ε ω A α L} {segments : List (Segment σ ε ω Q α L)}
    (run : Run code ok ready start segments pool)
    (moves : ∀ segment ∈ segments, rely segment.origin.start segment.final) :
    segments.Pairwise fun earlier later => rely earlier.final later.origin.start := by
  suffices both : (∀ segment ∈ segments, rely segment.final pool.state) ∧ segments.Pairwise
      fun earlier later => rely earlier.final later.origin.start from both.2
  induction run with
  | nil => exact ⟨fun segment member => by simp at member, List.Pairwise.nil⟩
  | @step segments pool pool' last run next ih =>
      obtain ⟨reach, ordered⟩ := ih fun segment member =>
        moves segment (List.mem_append_left _ member)
      constructor
      · intro segment member
        rw [← next.final_eq]
        rcases List.mem_append.1 member with member | member
        · refine transitive _ _ _ (reach segment member) ?_
          rw [← next.start_eq]
          exact moves last (by simp)
        · rw [List.mem_singleton.1 member]
          exact reflexive _
      · refine List.pairwise_append.2 ⟨ordered, List.pairwise_singleton _ _, ?_⟩
        intro segment member other isLast
        rw [List.mem_singleton.1 isLast, next.start_eq]
        exact reach segment member

/-- What every segment of an interleaving preserves holds at its end. -/
theorem Run.preserves {start pool : Pool σ ε ω A α L} {segments : List (Segment σ ε ω Q α L)}
    {holds : σ → Prop} (run : Run code ok ready start segments pool)
    (step : ∀ segment ∈ segments, holds segment.origin.start → holds segment.final)
    (initial : holds start.state) : holds pool.state := by
  induction run with
  | nil => exact initial
  | step run next ih =>
      rw [← next.final_eq]
      refine step _ (by simp) ?_
      rw [next.start_eq]
      exact ih fun segment member => step segment (List.mem_append_left _ member)

/-- A property of states that segments preserve holds at the start of every segment. -/
theorem Run.preserves_at {start pool : Pool σ ε ω A α L}
    {segments : List (Segment σ ε ω Q α L)} {holds : σ → Prop}
    (run : Run code ok ready start segments pool)
    (step : ∀ segment ∈ segments, holds segment.origin.start → holds segment.final)
    (initial : holds start.state) : ∀ segment ∈ segments, holds segment.origin.start := by
  induction run with
  | nil => exact fun segment member => by simp at member
  | step run next ih =>
      intro segment member
      have earlier := fun segment member => step segment (List.mem_append_left _ member)
      rcases List.mem_append.1 member with member | member
      · exact ih earlier segment member
      · rw [List.mem_singleton.1 member, next.start_eq]
        exact run.preserves earlier initial

end Pool

end Coroutine
