import Loom.Coroutine.Basic

/-!
# Programs with one outcome

A program computes an outcome where it ends in the state it started in, with that outcome, however
its `await`s are answered within `ok`.
-/

namespace Coroutine

namespace Prog

variable {σ ε ω Q : Type} {A : Q → Type} {α β : Type} [Update ω σ]
  {ok : (query : Q) → A query → Prop} {program : Prog σ ε ω A α} {rest : α → Prog σ ε ω A β}

/-- A run of the first part that returns, and one of the second from there. -/
theorem Runs.bind {state middle state' : σ} {value : α} {result : Except ε β}
    (first : Runs ok program state middle (.ok value))
    (second : Runs ok (rest value) middle state' result) :
    Runs ok (program.bind rest) state state' result := by
  induction program generalizing state with
  | ret other =>
      cases first with
      | ret => exact second
  | raise error => cases first
  | read next ih =>
      cases first with
      | read first => exact .read (ih state first)
  | write update next ih =>
      cases first with
      | write first => exact .write (ih first)
  | await query next ih =>
      cases first with
      | await answer allowed first => exact .await answer allowed (ih answer first)

/-- A run of the first part that raises is a run of the whole. -/
theorem Runs.bind_error {state state' : σ} {error : ε}
    (first : Runs ok program state state' (.error error)) :
    Runs ok (program.bind rest) state state' (.error error) := by
  induction program generalizing state with
  | ret value => cases first
  | raise other =>
      cases first with
      | raise => exact .raise
  | read next ih =>
      cases first with
      | read first => exact .read (ih state first)
  | write update next ih =>
      cases first with
      | write first => exact .write (ih first)
  | await query next ih =>
      cases first with
      | await answer allowed first => exact .await answer allowed (ih answer first)

/-- The outcome of a run as the value of a `try` statement. -/
theorem Runs.attempt {state state' : σ} {outcome : Except ε α}
    (runs : Runs ok program state state' outcome) :
    Runs ok program.attempt state state' (.ok outcome) := by
  induction runs with
  | ret => exact .ret
  | raise => exact .ret
  | read rest ih => exact .read ih
  | write rest ih => exact .write ih
  | await answer allowed rest ih => exact .await answer allowed ih

/-- Every run of the program leaves the state alone and has this outcome, and there is one. -/
def Computes (ok : (query : Q) → A query → Prop) (program : Prog σ ε ω A α)
    (outcome : Except ε α) : Prop :=
  ∀ state state' result, Runs ok program state state' result ↔ state' = state ∧ result = outcome

namespace Computes

theorem ret (value : α) : Computes ok (.ret value : Prog σ ε ω A α) (.ok value) := by
  intro state state' result
  constructor
  · intro runs
    cases runs with
    | ret => exact ⟨rfl, rfl⟩
  · rintro ⟨rfl, rfl⟩
    exact .ret

theorem raise (error : ε) : Computes ok (.raise error : Prog σ ε ω A α) (.error error) := by
  intro state state' result
  constructor
  · intro runs
    cases runs with
    | raise => exact ⟨rfl, rfl⟩
  · rintro ⟨rfl, rfl⟩
    exact .raise

theorem ofExcept (outcome : Except ε α) :
    Computes ok (ofExcept outcome : Prog σ ε ω A α) outcome := by
  cases outcome with
  | ok value => exact .ret value
  | error error => exact .raise error

/-- A query with one allowed answer. -/
theorem await {query : Q} {next : A query → Prog σ ε ω A α} {answer : A query}
    {outcome : Except ε α} (only : ∀ other, ok query other ↔ other = answer)
    (computes : Computes ok (next answer) outcome) :
    Computes ok (.await query next) outcome := by
  intro state state' result
  rw [← computes state state' result]
  constructor
  · intro runs
    cases runs with
    | await other allowed rest =>
        rw [(only other).1 allowed] at rest
        exact rest
  · intro runs
    exact .await answer ((only answer).2 rfl) runs

theorem bind {outcome : Except ε α} {next : α → Except ε β}
    (first : Computes ok program outcome)
    (second : ∀ value, outcome = .ok value → Computes ok (rest value) (next value)) :
    Computes ok (program.bind rest) (outcome.bind next) := by
  intro state state' result
  cases outcome with
  | error error =>
      constructor
      · intro runs
        rcases runs.of_bind with ⟨middle, value, ran, _⟩ | ⟨raised, ran, rfl⟩
        · cases ((first _ _ _).1 ran).2
        · obtain ⟨same, isError⟩ := (first _ _ _).1 ran
          cases isError
          exact ⟨same, rfl⟩
      · rintro ⟨rfl, rfl⟩
        exact ((first _ _ _).2 ⟨rfl, rfl⟩).bind_error
  | ok value =>
      have last := second value rfl
      constructor
      · intro runs
        rcases runs.of_bind with ⟨middle, other, ran, after⟩ | ⟨raised, ran, rfl⟩
        · obtain ⟨rfl, same⟩ := (first _ _ _).1 ran
          cases same
          exact (last _ _ _).1 after
        · cases ((first _ _ _).1 ran).2
      · intro same
        exact ((first _ _ _).2 ⟨rfl, rfl⟩).bind ((last _ _ _).2 same)

theorem attempt {outcome : Except ε α} (computes : Computes ok program outcome) :
    Computes ok program.attempt (.ok outcome) := by
  intro state state' result
  constructor
  · intro runs
    obtain ⟨other, ran, rfl⟩ := runs.of_attempt
    obtain ⟨rfl, rfl⟩ := (computes _ _ _).1 ran
    exact ⟨rfl, rfl⟩
  · rintro ⟨rfl, rfl⟩
    exact ((computes _ _ _).2 ⟨rfl, rfl⟩).attempt

end Computes

end Prog

end Coroutine
