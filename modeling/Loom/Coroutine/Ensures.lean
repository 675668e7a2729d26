import Loom.Coroutine.Basic

/-!
# Postconditions of sequential runs

`program.Ensures ok state post`: however its awaits are answered, `program` run from `state`
without interference ends in a state and with a result that satisfy `post`.  It is computed
along the program, so that a program is verified by executing it symbolically.
-/

namespace Coroutine

namespace Prog

variable {σ ε ω Q : Type} {A : Q → Type} {α β : Type} [Update ω σ]
variable {ok : (query : Q) → A query → Prop}

/-- Every run from a state ends with a state and a result that satisfy the postcondition. -/
def Ensures (ok : (query : Q) → A query → Prop) :
    Prog σ ε ω A α → σ → (σ → Except ε α → Prop) → Prop
  | .ret value, state, post => post state (.ok value)
  | .raise error, state, post => post state (.error error)
  | .read next, state, post => (next state).Ensures ok state post
  | .write update next, state, post => next.Ensures ok (apply update state) post
  | .await query next, state, post =>
      ∀ answer, ok query answer → (next answer).Ensures ok state post

namespace Ensures

/-- The postcondition holds after a run. -/
theorem runs {program : Prog σ ε ω A α} {state state' : σ} {result : Except ε α}
    {post : σ → Except ε α → Prop} (ensures : program.Ensures ok state post)
    (runs : program.Runs ok state state' result) : post state' result := by
  induction runs with
  | ret => exact ensures
  | raise => exact ensures
  | read rest ih => exact ih ensures
  | write rest ih => exact ih ensures
  | await answer allowed rest ih => exact ih (ensures answer allowed)

/-- What holds after every run is ensured. -/
theorem of_runs {program : Prog σ ε ω A α} {state : σ} {post : σ → Except ε α → Prop}
    (holds : ∀ after result, program.Runs ok state after result → post after result) :
    program.Ensures ok state post := by
  induction program generalizing state with
  | ret value => exact holds _ _ .ret
  | raise error => exact holds _ _ .raise
  | read next ih => exact ih state fun after result runs => holds after result (.read runs)
  | write update next ih => exact ih fun after result runs => holds after result (.write runs)
  | await query next ih =>
      exact fun answer allowed =>
        ih answer fun after result runs => holds after result (.await answer allowed runs)

theorem mono {program : Prog σ ε ω A α} {state : σ} {post weaker : σ → Except ε α → Prop}
    (ensures : program.Ensures ok state post)
    (weakens : ∀ after result, post after result → weaker after result) :
    program.Ensures ok state weaker := by
  induction program generalizing state with
  | ret value => exact weakens _ _ ensures
  | raise error => exact weakens _ _ ensures
  | read next ih => exact ih state ensures
  | write update next ih => exact ih ensures
  | await query next ih => exact fun answer allowed => ih answer (ensures answer allowed)

/-- A sequence ensures what its second part ensures after the first one. -/
theorem bind {program : Prog σ ε ω A α} {rest : α → Prog σ ε ω A β} {state : σ}
    {post : σ → Except ε β → Prop}
    (first : program.Ensures ok state fun middle result =>
      match result with
      | .ok value => (rest value).Ensures ok middle post
      | .error error => post middle (.error error)) :
    (program.bind rest).Ensures ok state post := by
  induction program generalizing state with
  | ret value => exact first
  | raise error => exact first
  | read next ih => exact ih state first
  | write update next ih => exact ih first
  | await query next ih => exact fun answer allowed => ih answer (first answer allowed)

/-- Go on with the state as it is read. -/
theorem get {rest : σ → Prog σ ε ω A β} {state : σ} {post : σ → Except ε β → Prop}
    (next : (rest state).Ensures ok state post) :
    ((Prog.get : Prog σ ε ω A σ).bind rest).Ensures ok state post :=
  next

theorem ofExcept {outcome : Except ε α} {state : σ} {post : σ → Except ε α → Prop}
    (holds : post state outcome) :
    (Prog.ofExcept outcome : Prog σ ε ω A α).Ensures ok state post := by
  cases outcome with
  | ok value => exact holds
  | error error => exact holds

theorem guard {condition : Prop} [Decidable condition] {error : ε} {state : σ}
    {post : σ → Except ε Unit → Prop} (passes : condition → post state (.ok ()))
    (fails : ¬condition → post state (.error error)) :
    (Prog.guard condition error : Prog σ ε ω A Unit).Ensures ok state post := by
  unfold Prog.guard
  split
  · exact passes ‹_›
  · exact fails ‹_›

theorem map {program : Prog σ ε ω A α} {change : α → β} {state : σ}
    {post : σ → Except ε β → Prop}
    (ensures : program.Ensures ok state fun after result => post after (result.map change)) :
    (program.map change).Ensures ok state post := by
  refine bind (ensures.mono ?_)
  intro after result holds
  cases result with
  | ok value => exact holds
  | error error => exact holds

/-- The body of a `try` statement. -/
theorem attempt {program : Prog σ ε ω A α} {state : σ} {post : σ → Except ε (Except ε α) → Prop}
    (ensures : program.Ensures ok state fun after result => post after (.ok result)) :
    program.attempt.Ensures ok state post := by
  induction program generalizing state with
  | ret value => exact ensures
  | raise error => exact ensures
  | read next ih => exact ih state ensures
  | write update next ih => exact ih ensures
  | await query next ih => exact fun answer allowed => ih answer (ensures answer allowed)

/-- A `finally` clause. -/
theorem finalize {program : Prog σ ε ω A α} {update : ω} {state : σ}
    {post : σ → Except ε α → Prop}
    (ensures : program.Ensures ok state fun after result => post (apply update after) result) :
    (program.finalize update).Ensures ok state post := by
  induction program generalizing state with
  | ret value => exact ensures
  | raise error => exact ensures
  | read next ih => exact ih state ensures
  | write first next ih => exact ih ensures
  | await query next ih => exact fun answer allowed => ih answer (ensures answer allowed)

end Ensures

end Prog

end Coroutine
