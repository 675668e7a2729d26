import Mathlib.Logic.Basic

/-!
# Machines

A machine is a partial step function: `step move state` is the state after a move, `none` where the
move is impossible.  A run is a sequence of moves, each of which is permitted in the state that it
is made in.
-/

namespace Machine

variable {σ μ : Type}

/-- `Run step permits start moves state`: permitted moves lead from `start` to `state`. -/
inductive Run (step : μ → σ → Option σ) (permits : σ → μ → Prop) (start : σ) :
    List μ → σ → Prop where
  | nil : Run step permits start [] start
  | move {moves : List μ} {state state' : σ} (run : Run step permits start moves state) (move : μ)
      (permitted : permits state move) (goes : step move state = some state') :
      Run step permits start (moves ++ [move]) state'

namespace Run

variable {step : μ → σ → Option σ} {permits : σ → μ → Prop} {start state : σ} {moves : List μ}

/-- What holds at the start and is kept by every permitted move holds after a run. -/
theorem invariant {holds : σ → Prop} (run : Run step permits start moves state)
    (initial : holds start)
    (keeps : ∀ {before after : σ} {move : μ}, permits before move → step move before = some after →
      holds before → holds after) : holds state := by
  induction run with
  | nil => exact initial
  | move run move permitted goes ih => exact keeps permitted goes ih

/-- One run after the other. -/
theorem append {more : List μ} {final : σ} (run : Run step permits start moves state)
    (later : Run step permits state more final) :
    Run step permits start (moves ++ more) final := by
  induction later with
  | nil =>
      rw [List.append_nil]
      exact run
  | move later move permitted goes ih =>
      rw [← List.append_assoc]
      exact ih.move move permitted goes

theorem mono {more : σ → μ → Prop} (run : Run step permits start moves state)
    (allowed : ∀ state move, permits state move → more state move) :
    Run step more start moves state := by
  induction run with
  | nil => exact .nil
  | move run move permitted goes ih => exact ih.move move (allowed _ _ permitted) goes

end Run

/-- Make moves one after the other. -/
def play (step : μ → σ → Option σ) : List μ → σ → Option σ
  | [], state => some state
  | move :: moves, state =>
      match step move state with
      | none => none
      | some next => play step moves next

/-- Make moves one after the other, as long as a test permits them. -/
def playWhere (step : μ → σ → Option σ) (test : σ → μ → Bool) : List μ → σ → Option σ :=
  play fun move state => if test state move then step move state else none

/-- What `playWhere` reaches is reached by a run. -/
theorem Run.of_playWhere {step : μ → σ → Option σ} {test : σ → μ → Bool} {start : σ} :
    ∀ {more : List μ} {moves : List μ} {state final : σ},
      Run step (fun state move => test state move = true) start moves state →
      playWhere step test more state = some final →
      Run step (fun state move => test state move = true) start (moves ++ more) final := by
  intro more
  induction more with
  | nil =>
      intro moves state final run played
      cases played
      rw [List.append_nil]
      exact run
  | cons move more ih =>
      intro moves state final run played
      unfold playWhere play at played
      split at played
      · cases played
      · rename_i next goes
        split at goes
        · rename_i permitted
          have later := ih (run.move move permitted goes) played
          rwa [List.append_assoc, List.singleton_append] at later
        · cases goes

end Machine
