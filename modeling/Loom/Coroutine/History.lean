import Loom.Coroutine.Pool

/-!
# Histories of completed calls

A history is a sequence of calls that do not overlap: each runs to its end, with a value or an
exception, before the next one starts, and has its own answers.  `play` and `Pool.play` execute a
list of calls and a schedule against one fixed answering function.
-/

namespace Coroutine

variable {σ ε ω Q : Type} {A : Q → Type} {α L : Type} [Update ω σ]

/-- A completed call: the answers it may have got, the states around it and its result. -/
structure Entry (σ ε : Type) {Q : Type} (A : Q → Type) (α L : Type) where
  label : L
  answers : (query : Q) → A query → Prop
  before : σ
  after : σ
  result : Except ε α

theorem Prog.Runs.mono {answers ok : (query : Q) → A query → Prop}
    (allowed : ∀ query answer, answers query answer → ok query answer)
    {program : Prog σ ε ω A α} {state state' : σ} {result : Except ε α}
    (runs : program.Runs answers state state' result) : program.Runs ok state state' result := by
  induction runs with
  | ret => exact .ret
  | raise => exact .raise
  | read rest ih => exact .read ih
  | write rest ih => exact .write ih
  | await answer isAnswer rest ih => exact .await answer (allowed _ _ isAnswer) ih

/-- `History code ok start entries state`: the calls of `entries`, one after the other, lead
from `start` to `state`. -/
inductive History (code : L → Prog σ ε ω A α) (ok : (query : Q) → A query → Prop) (start : σ) :
    List (Entry σ ε A α L) → σ → Prop where
  | nil : History code ok start [] start
  | call {entries : List (Entry σ ε A α L)} {before after : σ} {result : Except ε α}
      (history : History code ok start entries before) (label : L)
      (answers : (query : Q) → A query → Prop)
      (allowed : ∀ query answer, answers query answer → ok query answer)
      (runs : (code label).Runs answers before after result) :
      History code ok start (entries ++ [⟨label, answers, before, after, result⟩]) after

namespace History

variable {code : L → Prog σ ε ω A α} {ok : (query : Q) → A query → Prop} {start state : σ}
variable {entries : List (Entry σ ε A α L)}

/-- Every call of a history runs with its own answers, which `ok` allows. -/
theorem runs_answered (history : History code ok start entries state) :
    ∀ entry ∈ entries, (code entry.label).Runs entry.answers entry.before entry.after
      entry.result ∧ ∀ query answer, entry.answers query answer → ok query answer := by
  induction history with
  | nil => exact fun entry member => by simp at member
  | call history label answers allowed runs ih =>
      intro entry member
      rcases List.mem_append.1 member with member | member
      · exact ih entry member
      · rw [List.mem_singleton.1 member]
        exact ⟨runs, allowed⟩

theorem runs (history : History code ok start entries state) :
    ∀ entry ∈ entries, (code entry.label).Runs ok entry.before entry.after entry.result := by
  intro entry member
  obtain ⟨runs, allowed⟩ := history.runs_answered entry member
  exact runs.mono allowed

/-- Histories compose. -/
theorem append {middle : σ} {more : List (Entry σ ε A α L)}
    (history : History code ok start entries middle)
    (later : History code ok middle more state) :
    History code ok start (entries ++ more) state := by
  induction later with
  | nil => rwa [List.append_nil]
  | call _ label answers allowed runs ih =>
      rw [← List.append_assoc]
      exact ih.call label answers allowed runs

/-- What every call of a history preserves holds at its end. -/
theorem preserves {holds : σ → Prop} (history : History code ok start entries state)
    (step : ∀ entry ∈ entries, holds entry.before → holds entry.after) (initial : holds start) :
    holds state := by
  induction history with
  | nil => exact initial
  | @call entries before after result history label answers allowed runs ih =>
      refine step ⟨label, answers, before, after, result⟩ (by simp) ?_
      exact ih fun entry member => step entry (List.mem_append_left _ member)

/-- What every call of a history preserves holds before each of its calls. -/
theorem preserves_at {holds : σ → Prop} (history : History code ok start entries state)
    (step : ∀ entry ∈ entries, holds entry.before → holds entry.after) (initial : holds start) :
    ∀ entry ∈ entries, holds entry.before := by
  induction history with
  | nil => exact fun entry member => by simp at member
  | call history label answers allowed runs ih =>
      have earlier := fun entry member => step entry (List.mem_append_left _ member)
      intro entry member
      rcases List.mem_append.1 member with member | member
      · exact ih earlier entry member
      · rw [List.mem_singleton.1 member]
        exact history.preserves earlier initial

end History

/-! ### Execution -/

theorem Prog.runs_run {ok : (query : Q) → A query → Prop} (world : (query : Q) → A query)
    (allowed : ∀ query, ok query (world query)) (program : Prog σ ε ω A α) (state : σ) :
    program.Runs ok state (program.run world state).1 (program.run world state).2 := by
  induction program generalizing state with
  | ret value => exact .ret
  | raise error => exact .raise
  | read next ih => exact .read (ih state state)
  | write update next ih => exact .write (ih (apply update state))
  | await query next ih => exact .await (world query) (allowed query) (ih (world query) state)

/-- Run calls one after the other, each against its own answering function. -/
def play (code : L → Prog σ ε ω A α) :
    List (L × ((query : Q) → A query)) → σ → List (Entry σ ε A α L) × σ
  | [], state => ([], state)
  | (label, world) :: calls, state =>
      let final := (code label).run world state
      let rest := play code calls final.1
      (⟨label, fun query answer => answer = world query, state, final.1, final.2⟩ :: rest.1, rest.2)

/-- The entries of `play` are its calls, each with its own answers. -/
theorem mem_play {code : L → Prog σ ε ω A α} (calls : List (L × ((query : Q) → A query)))
    (state : σ) : ∀ entry ∈ (play code calls state).1, ∃ call ∈ calls,
      entry.label = call.1 ∧ entry.answers = fun query answer => answer = call.2 query := by
  induction calls generalizing state with
  | nil => exact fun entry member => by cases member
  | cons call calls ih =>
      intro entry member
      rcases List.mem_cons.1 member with rfl | member
      · exact ⟨call, List.mem_cons_self, rfl, rfl⟩
      · obtain ⟨other, isOther, same⟩ := ih _ entry member
        exact ⟨other, List.mem_cons_of_mem _ isOther, same⟩

theorem History.append_play {code : L → Prog σ ε ω A α} {ok : (query : Q) → A query → Prop}
    {start : σ} (calls : List (L × ((query : Q) → A query)))
    (allowed : ∀ call ∈ calls, ∀ query, ok query (call.2 query)) :
    ∀ {entries : List (Entry σ ε A α L)} {state : σ}, History code ok start entries state →
      History code ok start (entries ++ (play code calls state).1) (play code calls state).2 := by
  induction calls with
  | nil =>
      intro entries state history
      simpa [play] using history
  | cons call calls ih =>
      intro entries state history
      have runs : (code call.1).Runs (fun query answer => answer = call.2 query) state
          ((code call.1).run call.2 state).1 ((code call.1).run call.2 state).2 := by
        refine Prog.runs_run call.2 ?_ (code call.1) state
        exact fun query => rfl
      have one := history.call call.1 (fun query answer => answer = call.2 query)
        (fun query answer same => by
          subst same
          exact allowed call List.mem_cons_self query) runs
      have rest := ih (fun other member => allowed other (List.mem_cons_of_mem _ member)) one
      simpa only [play, List.append_assoc, List.cons_append, List.nil_append] using rest

/-- The calls that `play` runs are a history. -/
theorem History.of_play {code : L → Prog σ ε ω A α} {ok : (query : Q) → A query → Prop}
    (calls : List (L × ((query : Q) → A query)))
    (allowed : ∀ call ∈ calls, ∀ query, ok query (call.2 query)) (start : σ) :
    History code ok start (play code calls start).1 (play code calls start).2 := by
  have history := History.append_play calls allowed (.nil : History code ok start [] start)
  rwa [List.nil_append] at history

/-! ### Schedules -/

namespace Pool

/-- A step of a schedule: start a coroutine, or answer the query of the one at a position. -/
inductive Action (A : Q → Type) (L : Type) where
  | spawn (label : L)
  | resume (index : Nat) (world : (query : Q) → A query)

/-- Perform one step of a schedule; `none` where there is nothing to answer. -/
def act (code : L → Prog σ ε ω A α) (ready : Q → σ → Bool) (pool : Pool σ ε ω A α L) :
    Action A L → Option (Segment σ ε ω Q α L × Pool σ ε ω A α L)
  | .spawn label => some
      (⟨label, ⟨none, pool.state⟩, (code label).writes pool.state, (code label).stop pool.state⟩,
        ⟨applyAll ((code label).writes pool.state) pool.state,
          pool.threads ++ [⟨label, (code label).residue pool.state⟩]⟩)
  | .resume index world =>
      match pool.threads[index]? with
      | some ⟨label, .await query next⟩ =>
          if ready query pool.state then
            let rest := next (world query)
            some (⟨label, ⟨some query, pool.state⟩, rest.writes pool.state, rest.stop pool.state⟩,
              ⟨applyAll (rest.writes pool.state) pool.state,
                pool.threads.set index ⟨label, rest.residue pool.state⟩⟩)
          else none
      | _ => none

/-- Perform a schedule. -/
def play (code : L → Prog σ ε ω A α) (ready : Q → σ → Bool) :
    List (Action A L) → Pool σ ε ω A α L →
      Option (List (Segment σ ε ω Q α L) × Pool σ ε ω A α L)
  | [], pool => some ([], pool)
  | action :: actions, pool =>
      match act code ready pool action with
      | none => none
      | some (segment, next) =>
          (play code ready actions next).map fun rest => (segment :: rest.1, rest.2)

theorem act_step {code : L → Prog σ ε ω A α} {ready : Q → σ → Bool}
    {pool pool' : Pool σ ε ω A α L} {action : Action A L} {segment : Segment σ ε ω Q α L}
    (acted : act code ready pool action = some (segment, pool')) :
    Step code (fun _ _ => True) (fun query state => ready query state) pool segment pool' := by
  cases action with
  | spawn label =>
      cases acted
      exact .spawn label
  | resume index world =>
      unfold act at acted
      dsimp only at acted
      split at acted
      · rename_i label query next found
        split at acted
        · rename_i isReady
          cases acted
          obtain ⟨bound, same⟩ := List.getElem?_eq_some_iff.1 found
          have parts : pool.threads = pool.threads.take index ++
              ⟨label, .await query next⟩ :: pool.threads.drop (index + 1) := by
            rw [← same, List.getElem_cons_drop, List.take_append_drop]
          have changed : pool.threads.set index ⟨label, (next (world query)).residue pool.state⟩ =
              pool.threads.take index ++
                ⟨label, (next (world query)).residue pool.state⟩ ::
                  pool.threads.drop (index + 1) := by
            rw [List.set_eq_take_append_cons_drop, if_pos bound]
          rw [changed]
          have step : Step code (fun _ _ => True) (fun query state => ready query state)
              ⟨pool.state, pool.threads.take index ++
                ⟨label, .await query next⟩ :: pool.threads.drop (index + 1)⟩ _ _ :=
            .resume (world query) trivial isReady
          rwa [← parts] at step
        · cases acted
      · cases acted

/-- What `play` performs is an interleaving. -/
theorem Run.of_play {code : L → Prog σ ε ω A α} {ready : Q → σ → Bool}
    (actions : List (Action A L)) {start : Pool σ ε ω A α L} :
    ∀ {segments : List (Segment σ ε ω Q α L)} {pool pool' : Pool σ ε ω A α L}
      {more : List (Segment σ ε ω Q α L)},
      Run code (fun _ _ => True) (fun query state => ready query state) start segments pool →
      play code ready actions pool = some (more, pool') →
      Run code (fun _ _ => True) (fun query state => ready query state) start
        (segments ++ more) pool' := by
  induction actions with
  | nil =>
      intro segments pool pool' more run played
      cases played
      rwa [List.append_nil]
  | cons action actions ih =>
      intro segments pool pool' more run played
      unfold play at played
      split at played
      · cases played
      · rename_i segment next acted
        obtain ⟨rest, playedRest, same⟩ := Option.map_eq_some_iff.1 played
        cases same
        have later := ih (run.step (act_step acted)) playedRest
        simpa only [List.append_assoc, List.cons_append, List.nil_append] using later

end Pool

end Coroutine
