import Mathlib.Logic.Basic

/-!
# Coroutines over a shared state

A coroutine reads and writes a shared state and suspends at its `await`s.  Writes are
first-order values of a type `ω` with a fixed meaning on states (`Update`), so that what a
program may do to the state can be read off its writes.  An `await` poses a query `q : Q`
and resumes with any answer of type `A q`.

`Prog.Runs` is the sequential semantics: the coroutine runs to its end, nobody interferes,
and every `await` is answered by a value that `ok` allows.  `Prog.run` is the same semantics
as a function of one fixed answering function.
-/

namespace Coroutine

/-- The meaning of first-order writes `ω` on states `σ`. -/
class Update (ω σ : Type) where
  apply : ω → σ → σ

export Update (apply)

/-- A coroutine with state `σ`, exceptions `ε`, writes `ω` and queries `Q` answered in `A`. -/
inductive Prog (σ ε ω : Type) {Q : Type} (A : Q → Type) (α : Type) : Type where
  | ret (value : α)
  | raise (error : ε)
  | read (next : σ → Prog σ ε ω A α)
  | write (update : ω) (next : Prog σ ε ω A α)
  | await (query : Q) (next : A query → Prog σ ε ω A α)

namespace Prog

variable {σ ε ω Q : Type} {A : Q → Type} {α β γ : Type}

def bind (program : Prog σ ε ω A α) (rest : α → Prog σ ε ω A β) : Prog σ ε ω A β :=
  match program with
  | .ret value => rest value
  | .raise error => .raise error
  | .read next => .read fun state => (next state).bind rest
  | .write update next => .write update (next.bind rest)
  | .await query next => .await query fun answer => (next answer).bind rest

instance : Monad (Prog σ ε ω A) where
  pure := .ret
  bind := bind

/-- The result of a program as a value: the body of a `try` statement. -/
def attempt (program : Prog σ ε ω A α) : Prog σ ε ω A (Except ε α) :=
  match program with
  | .ret value => .ret (.ok value)
  | .raise error => .ret (.error error)
  | .read next => .read fun state => (next state).attempt
  | .write update next => .write update next.attempt
  | .await query next => .await query fun answer => (next answer).attempt

/-- Perform one last write on every way out of a program: a `finally` clause. -/
def finalize (program : Prog σ ε ω A α) (update : ω) : Prog σ ε ω A α :=
  match program with
  | .ret value => .write update (.ret value)
  | .raise error => .write update (.raise error)
  | .read next => .read fun state => (next state).finalize update
  | .write first next => .write first (next.finalize update)
  | .await query next => .await query fun answer => (next answer).finalize update

/-- Change the value that a program returns. -/
def map (program : Prog σ ε ω A α) (change : α → β) : Prog σ ε ω A β :=
  program.bind fun value => .ret (change value)

/-- Read the whole shared state. -/
def get : Prog σ ε ω A σ := .read .ret

/-- Perform one write. -/
def tell (update : ω) : Prog σ ε ω A Unit := .write update (.ret ())

/-- Suspend on a query. -/
def ask (query : Q) : Prog σ ε ω A (A query) := .await query .ret

/-- Return the value of an outcome or raise its error. -/
def ofExcept : Except ε α → Prog σ ε ω A α
  | .ok value => .ret value
  | .error error => .raise error

/-- Raise unless a condition holds. -/
def guard (condition : Prop) [Decidable condition] (error : ε) : Prog σ ε ω A Unit :=
  if condition then .ret () else .raise error

@[simp]
theorem pure_eq (value : α) : (pure value : Prog σ ε ω A α) = .ret value := rfl

@[simp]
theorem bind_eq (program : Prog σ ε ω A α) (rest : α → Prog σ ε ω A β) :
    program >>= rest = program.bind rest := rfl

theorem bind_bind (program : Prog σ ε ω A α) (rest : α → Prog σ ε ω A β)
    (last : β → Prog σ ε ω A γ) :
    (program >>= rest) >>= last = program >>= fun value => rest value >>= last := by
  simp only [bind_eq]
  induction program with
  | ret value => rfl
  | raise error => rfl
  | read next ih => simp only [bind, ih]
  | write update next ih => simp only [bind, ih]
  | await query next ih => simp only [bind, ih]

theorem bind_ret (program : Prog σ ε ω A α) : program >>= .ret = program := by
  simp only [bind_eq]
  induction program with
  | ret value => rfl
  | raise error => rfl
  | read next ih => simp only [bind, ih]
  | write update next ih => simp only [bind, ih]
  | await query next ih => simp only [bind, ih]

/-! ### Sequential semantics -/

variable [Update ω σ]

/-- `Runs ok program state state' result`: run without interference from `state`, with
awaits answered as `ok` allows, the program ends in `state'` with `result`. -/
inductive Runs (ok : (query : Q) → A query → Prop) :
    Prog σ ε ω A α → σ → σ → Except ε α → Prop where
  | ret {value : α} {state : σ} : Runs ok (.ret value) state state (.ok value)
  | raise {error : ε} {state : σ} : Runs ok (.raise error) state state (.error error)
  | read {next : σ → Prog σ ε ω A α} {state state' : σ} {result : Except ε α}
      (rest : Runs ok (next state) state state' result) :
      Runs ok (.read next) state state' result
  | write {update : ω} {next : Prog σ ε ω A α} {state state' : σ} {result : Except ε α}
      (rest : Runs ok next (apply update state) state' result) :
      Runs ok (.write update next) state state' result
  | await {query : Q} {next : A query → Prog σ ε ω A α} {state state' : σ}
      {result : Except ε α} (answer : A query) (allowed : ok query answer)
      (rest : Runs ok (next answer) state state' result) :
      Runs ok (.await query next) state state' result

/-- What every write preserves holds after a run. -/
theorem Runs.preserves {ok : (query : Q) → A query → Prop} (holds : σ → Prop)
    (step : ∀ (update : ω) (state : σ), holds state → holds (apply update state))
    {program : Prog σ ε ω A α} {state state' : σ} {result : Except ε α}
    (runs : Runs ok program state state' result) (initial : holds state) : holds state' := by
  induction runs with
  | ret => exact initial
  | raise => exact initial
  | read rest ih => exact ih initial
  | write rest ih => exact ih (step _ _ initial)
  | await answer allowed rest ih => exact ih initial

/-- A run of `program.map change` is a run of `program`. -/
theorem Runs.of_map {ok : (query : Q) → A query → Prop} {change : α → β}
    {program : Prog σ ε ω A α} {state state' : σ} {result : Except ε β}
    (runs : Runs ok (program.map change) state state' result) :
    ∃ result', Runs ok program state state' result' ∧ result = result'.map change := by
  induction program generalizing state with
  | ret value =>
      cases runs with
      | ret => exact ⟨.ok value, .ret, rfl⟩
  | raise error =>
      cases runs with
      | raise => exact ⟨.error error, .raise, rfl⟩
  | read next ih =>
      cases runs with
      | read rest =>
          obtain ⟨result', runs', same⟩ := ih state rest
          exact ⟨result', .read runs', same⟩
  | write update next ih =>
      cases runs with
      | write rest =>
          obtain ⟨result', runs', same⟩ := ih rest
          exact ⟨result', .write runs', same⟩
  | await query next ih =>
      cases runs with
      | await answer allowed rest =>
          obtain ⟨result', runs', same⟩ := ih answer rest
          exact ⟨result', .await answer allowed runs', same⟩

/-- A run of a sequence is a run of its first part, and one of the second where the first
returns. -/
theorem Runs.of_bind {ok : (query : Q) → A query → Prop} {program : Prog σ ε ω A α}
    {rest : α → Prog σ ε ω A β} {state state' : σ} {result : Except ε β}
    (runs : Runs ok (program.bind rest) state state' result) :
    (∃ middle value, Runs ok program state middle (.ok value) ∧
      Runs ok (rest value) middle state' result) ∨
    ∃ error, Runs ok program state state' (.error error) ∧ result = .error error := by
  induction program generalizing state with
  | ret value => exact Or.inl ⟨state, value, .ret, runs⟩
  | raise error =>
      cases runs with
      | raise => exact Or.inr ⟨error, .raise, rfl⟩
  | read next ih =>
      cases runs with
      | read rest =>
          rcases ih state rest with ⟨middle, value, first, second⟩ | ⟨error, first, same⟩
          · exact Or.inl ⟨middle, value, .read first, second⟩
          · exact Or.inr ⟨error, .read first, same⟩
  | write update next ih =>
      cases runs with
      | write rest =>
          rcases ih rest with ⟨middle, value, first, second⟩ | ⟨error, first, same⟩
          · exact Or.inl ⟨middle, value, .write first, second⟩
          · exact Or.inr ⟨error, .write first, same⟩
  | await query next ih =>
      cases runs with
      | await answer allowed rest =>
          rcases ih answer rest with ⟨middle, value, first, second⟩ | ⟨error, first, same⟩
          · exact Or.inl ⟨middle, value, .await answer allowed first, second⟩
          · exact Or.inr ⟨error, .await answer allowed first, same⟩

/-- Where a sequence returns, both of its parts do. -/
theorem Runs.of_bind_ok {ok : (query : Q) → A query → Prop} {program : Prog σ ε ω A α}
    {rest : α → Prog σ ε ω A β} {state state' : σ} {value : β}
    (runs : Runs ok (program.bind rest) state state' (.ok value)) :
    ∃ middle first, Runs ok program state middle (.ok first) ∧
      Runs ok (rest first) middle state' (.ok value) := by
  rcases runs.of_bind with parts | ⟨error, _, impossible⟩
  · exact parts
  · cases impossible

/-- A run of the body of a `try` statement. -/
theorem Runs.of_attempt {ok : (query : Q) → A query → Prop} {program : Prog σ ε ω A α}
    {state state' : σ} {result : Except ε (Except ε α)}
    (runs : Runs ok program.attempt state state' result) :
    ∃ outcome, Runs ok program state state' outcome ∧ result = .ok outcome := by
  induction program generalizing state with
  | ret value =>
      cases runs with
      | ret => exact ⟨.ok value, .ret, rfl⟩
  | raise error =>
      cases runs with
      | ret => exact ⟨.error error, .raise, rfl⟩
  | read next ih =>
      cases runs with
      | read rest =>
          obtain ⟨outcome, first, same⟩ := ih state rest
          exact ⟨outcome, .read first, same⟩
  | write update next ih =>
      cases runs with
      | write rest =>
          obtain ⟨outcome, first, same⟩ := ih rest
          exact ⟨outcome, .write first, same⟩
  | await query next ih =>
      cases runs with
      | await answer allowed rest =>
          obtain ⟨outcome, first, same⟩ := ih answer rest
          exact ⟨outcome, .await answer allowed first, same⟩

/-- A run with a `finally` clause is one of its body, and then the last write. -/
theorem Runs.of_finalize {ok : (query : Q) → A query → Prop} {program : Prog σ ε ω A α}
    {update : ω} {state state' : σ} {result : Except ε α}
    (runs : Runs ok (program.finalize update) state state' result) :
    ∃ middle, Runs ok program state middle result ∧ state' = apply update middle := by
  induction program generalizing state with
  | ret value =>
      cases runs with
      | write rest =>
          cases rest with
          | ret => exact ⟨state, .ret, rfl⟩
  | raise error =>
      cases runs with
      | write rest =>
          cases rest with
          | raise => exact ⟨state, .raise, rfl⟩
  | read next ih =>
      cases runs with
      | read rest =>
          obtain ⟨middle, body, same⟩ := ih state rest
          exact ⟨middle, .read body, same⟩
  | write first next ih =>
      cases runs with
      | write rest =>
          obtain ⟨middle, body, same⟩ := ih rest
          exact ⟨middle, .write body, same⟩
  | await query next ih =>
      cases runs with
      | await answer allowed rest =>
          obtain ⟨middle, body, same⟩ := ih answer rest
          exact ⟨middle, .await answer allowed body, same⟩

theorem Runs.of_ofExcept {ok : (query : Q) → A query → Prop} {outcome : Except ε α}
    {state state' : σ} {result : Except ε α}
    (runs : Runs ok (ofExcept outcome : Prog σ ε ω A α) state state' result) :
    state' = state ∧ result = outcome := by
  cases outcome with
  | ok value =>
      cases runs with
      | ret => exact ⟨rfl, rfl⟩
  | error error =>
      cases runs with
      | raise => exact ⟨rfl, rfl⟩

theorem Runs.of_guard {ok : (query : Q) → A query → Prop} {condition : Prop}
    [Decidable condition] {error : ε} {state state' : σ} {value : Unit}
    (runs : Runs ok (guard condition error : Prog σ ε ω A Unit) state state' (.ok value)) :
    state' = state ∧ condition := by
  unfold guard at runs
  split at runs
  · rename_i holds
    cases runs with
    | ret => exact ⟨rfl, holds⟩
  · cases runs

/-- The sequential run in which every query has one fixed answer. -/
def run (world : (query : Q) → A query) : Prog σ ε ω A α → σ → σ × Except ε α
  | .ret value, state => (state, .ok value)
  | .raise error, state => (state, .error error)
  | .read next, state => (next state).run world state
  | .write update next, state => next.run world (apply update state)
  | .await query next, state => (next (world query)).run world state

end Prog

end Coroutine
