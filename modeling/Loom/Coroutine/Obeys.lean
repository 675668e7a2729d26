import Loom.Coroutine.Traced

/-!
# Rules for the queries of a program

`program.Obeys allowed trace post`: from the exchanges in `trace` on, the program asks only what is
allowed after the exchanges it has had, however it is answered, and its last trace and its result
satisfy `post`.  The state of the program is left open, so this is about what it learns from its
answers only.
-/

namespace Coroutine

variable {σ ε ω Q : Type} {A : Q → Type} {α β : Type}

namespace Prog

def Obeys (allowed : List (Exchange A) → Q → Prop) :
    Prog σ ε ω A α → List (Exchange A) → (List (Exchange A) → Except ε α → Prop) → Prop
  | .ret value, trace, post => post trace (.ok value)
  | .raise error, trace, post => post trace (.error error)
  | .read next, trace, post => ∀ state, (next state).Obeys allowed trace post
  | .write _ next, trace, post => next.Obeys allowed trace post
  | .await query next, trace, post =>
      allowed trace query ∧
        ∀ answer, (next answer).Obeys allowed (trace ++ [⟨query, answer⟩]) post

theorem traced_attempt (program : Prog σ ε ω A α) :
    program.attempt.traced = program.traced.attempt := by
  induction program with
  | ret value => rfl
  | raise error => rfl
  | read next ih => simp only [attempt, traced, ih]
  | write update next ih => simp only [attempt, traced, ih]
  | await query next ih => simp only [attempt, traced, ih]

/-- A run does not depend on the exchanges before it, and goes on from them. -/
theorem traced_runs_append [Update ω σ] {ok : (query : Q) → A query → Prop}
    {program : Prog σ ε ω A α} {state : σ} {trace : List (Exchange A)}
    {end' : σ × List (Exchange A)} {result : Except ε α}
    (runs : program.traced.Runs ok (state, trace) end' result) :
    ∃ more, end'.2 = trace ++ more ∧
      ∀ other, program.traced.Runs ok (state, other) (end'.1, other ++ more) result := by
  induction program generalizing state trace with
  | ret value =>
      cases runs with
      | ret =>
          refine ⟨[], (List.append_nil _).symm, fun other => ?_⟩
          rw [List.append_nil]
          exact .ret
  | raise error =>
      cases runs with
      | raise =>
          refine ⟨[], (List.append_nil _).symm, fun other => ?_⟩
          rw [List.append_nil]
          exact .raise
  | read next ih =>
      cases runs with
      | read rest =>
          obtain ⟨more, same, again⟩ := ih state rest
          exact ⟨more, same, fun other => .read (again other)⟩
  | write update next ih =>
      cases runs with
      | write rest =>
          obtain ⟨more, same, again⟩ := ih rest
          exact ⟨more, same, fun other => .write (again other)⟩
  | await query next ih =>
      cases runs with
      | await answer isAllowed rest =>
          cases rest with
          | write rest =>
              obtain ⟨more, same, again⟩ := ih answer rest
              refine ⟨⟨query, answer⟩ :: more, ?_, fun other => ?_⟩
              · rw [same, List.append_assoc]
                rfl
              · refine .await answer isAllowed (.write ?_)
                have last := again (other ++ [⟨query, answer⟩])
                rwa [List.append_assoc] at last

namespace Obeys

variable {allowed : List (Exchange A) → Q → Prop}

theorem mono {program : Prog σ ε ω A α} {trace : List (Exchange A)}
    {post weaker : List (Exchange A) → Except ε α → Prop} (obeys : program.Obeys allowed trace post)
    (weakens : ∀ after result, post after result → weaker after result) :
    program.Obeys allowed trace weaker := by
  induction program generalizing trace with
  | ret value => exact weakens _ _ obeys
  | raise error => exact weakens _ _ obeys
  | read next ih => exact fun state => ih state (obeys state)
  | write update next ih => exact ih obeys
  | await query next ih => exact ⟨obeys.1, fun answer => ih answer (obeys.2 answer)⟩

/-- A sequence obeys where its second part does after the first one. -/
theorem bind {program : Prog σ ε ω A α} {rest : α → Prog σ ε ω A β} {trace : List (Exchange A)}
    {post : List (Exchange A) → Except ε β → Prop}
    (first : program.Obeys allowed trace fun middle result =>
      match result with
      | .ok value => (rest value).Obeys allowed middle post
      | .error error => post middle (.error error)) :
    (program.bind rest).Obeys allowed trace post := by
  induction program generalizing trace with
  | ret value => exact first
  | raise error => exact first
  | read next ih => exact fun state => ih state (first state)
  | write update next ih => exact ih first
  | await query next ih => exact ⟨first.1, fun answer => ih answer (first.2 answer)⟩

theorem attempt {program : Prog σ ε ω A α} {trace : List (Exchange A)}
    {post : List (Exchange A) → Except ε (Except ε α) → Prop}
    (obeys : program.Obeys allowed trace fun after result => post after (.ok result)) :
    program.attempt.Obeys allowed trace post := by
  induction program generalizing trace with
  | ret value => exact obeys
  | raise error => exact obeys
  | read next ih => exact fun state => ih state (obeys state)
  | write update next ih => exact ih obeys
  | await query next ih => exact ⟨obeys.1, fun answer => ih answer (obeys.2 answer)⟩

theorem ofExcept {outcome : Except ε α} {trace : List (Exchange A)}
    {post : List (Exchange A) → Except ε α → Prop} (holds : post trace outcome) :
    (Prog.ofExcept outcome : Prog σ ε ω A α).Obeys allowed trace post := by
  cases outcome with
  | ok value => exact holds
  | error error => exact holds

theorem guard {condition : Prop} [Decidable condition] {error : ε} {trace : List (Exchange A)}
    {post : List (Exchange A) → Except ε Unit → Prop} (passes : condition → post trace (.ok ()))
    (fails : ¬condition → post trace (.error error)) :
    (Prog.guard condition error : Prog σ ε ω A Unit).Obeys allowed trace post := by
  unfold Prog.guard
  split
  · exact passes ‹_›
  · exact fails ‹_›

/-- What a run of the program did was allowed, and its end satisfies the postcondition. -/
theorem runs [Update ω σ] {ok : (query : Q) → A query → Prop} {program : Prog σ ε ω A α}
    {state : σ} {trace : List (Exchange A)} {end' : σ × List (Exchange A)} {result : Except ε α}
    {post : List (Exchange A) → Except ε α → Prop} (obeys : program.Obeys allowed trace post)
    (runs : program.traced.Runs ok (state, trace) end' result) :
    post end'.2 result ∧ ∃ more, end'.2 = trace ++ more ∧
      ∀ before exchange after, more = before ++ exchange :: after →
        allowed (trace ++ before) exchange.query := by
  induction program generalizing state trace with
  | ret value =>
      cases runs with
      | ret => exact ⟨obeys, [], (List.append_nil _).symm, by simp⟩
  | raise error =>
      cases runs with
      | raise => exact ⟨obeys, [], (List.append_nil _).symm, by simp⟩
  | read next ih =>
      cases runs with
      | read rest => exact ih state (obeys state) rest
  | write update next ih =>
      cases runs with
      | write rest => exact ih obeys rest
  | await query next ih =>
      cases runs with
      | await answer isAllowed rest =>
          cases rest with
          | write rest =>
              obtain ⟨holds, more, same, each⟩ := ih answer (obeys.2 answer) rest
              refine ⟨holds, ⟨query, answer⟩ :: more, ?_, ?_⟩
              · rw [same, List.append_assoc]
                rfl
              · intro before exchange after split
                cases before with
                | nil =>
                    obtain ⟨rfl, -⟩ := List.cons.inj split
                    rw [List.append_nil]
                    exact obeys.1
                | cons first before =>
                    obtain ⟨rfl, split'⟩ := List.cons.inj split
                    have last := each before exchange after split'
                    rwa [List.append_assoc, List.singleton_append] at last

end Obeys

/-! ### Programs that stay at one value of a view -/

/-- From states with a value of a view on, the program stays at that value, and asks only certain
queries. -/
def Within {τ : Type} [Update ω σ] (view : σ → τ) (value : τ) (asks : Q → Prop) :
    Prog σ ε ω A α → Prop
  | .ret _ => True
  | .raise _ => True
  | .read next => ∀ state, view state = value → (next state).Within view value asks
  | .write update next =>
      (∀ state : σ, view state = value → view (apply update state) = value) ∧
        next.Within view value asks
  | .await query next => asks query ∧ ∀ answer, (next answer).Within view value asks

namespace Within

variable {τ : Type} [Update ω σ] {view : σ → τ} {value : τ} {asks : Q → Prop}

theorem ofExcept (outcome : Except ε α) :
    (Prog.ofExcept outcome : Prog σ ε ω A α).Within view value asks := by
  cases outcome with
  | ok value => trivial
  | error error => trivial

theorem guard (condition : Prop) [Decidable condition] (error : ε) :
    (Prog.guard condition error : Prog σ ε ω A Unit).Within view value asks := by
  unfold Prog.guard
  split
  · trivial
  · trivial

theorem bind {program : Prog σ ε ω A α} {rest : α → Prog σ ε ω A β}
    (first : program.Within view value asks)
    (second : ∀ result, (rest result).Within view value asks) :
    (program.bind rest).Within view value asks := by
  induction program with
  | ret result => exact second result
  | raise error => trivial
  | read next ih => exact fun state same => ih state (first state same)
  | write update next ih => exact ⟨first.1, ih first.2⟩
  | await query next ih => exact ⟨first.1, fun answer => ih answer (first.2 answer)⟩

theorem attempt {program : Prog σ ε ω A α} (within : program.Within view value asks) :
    program.attempt.Within view value asks := by
  induction program with
  | ret result => trivial
  | raise error => trivial
  | read next ih => exact fun state same => ih state (within state same)
  | write update next ih => exact ⟨within.1, ih within.2⟩
  | await query next ih => exact ⟨within.1, fun answer => ih answer (within.2 answer)⟩

/-- A run stays at the value, and all that it has asked for was one of the queries. -/
theorem runs {ok : (query : Q) → A query → Prop} {program : Prog σ ε ω A α} {state : σ}
    {trace : List (Exchange A)} {end' : σ × List (Exchange A)} {result : Except ε α}
    (within : program.Within view value asks) (same : view state = value)
    (runs : program.traced.Runs ok (state, trace) end' result) :
    view end'.1 = value ∧ ∃ more, end'.2 = trace ++ more ∧
      ∀ exchange ∈ more, asks exchange.query := by
  induction program generalizing state trace with
  | ret result =>
      cases runs with
      | ret => exact ⟨same, [], (List.append_nil _).symm, by simp⟩
  | raise error =>
      cases runs with
      | raise => exact ⟨same, [], (List.append_nil _).symm, by simp⟩
  | read next ih =>
      cases runs with
      | read rest => exact ih state (within state same) same rest
  | write update next ih =>
      cases runs with
      | write rest => exact ih within.2 (within.1 state same) rest
  | await query next ih =>
      cases runs with
      | await answer isAllowed rest =>
          cases rest with
          | write rest =>
              obtain ⟨same', more, isTrace, each⟩ := ih answer (within.2 answer) same rest
              refine ⟨same', ⟨query, answer⟩ :: more, ?_, ?_⟩
              · rw [isTrace, List.append_assoc]
                rfl
              · intro exchange member
                rcases List.mem_cons.1 member with rfl | member
                · exact within.1
                · exact each exchange member

end Within

end Prog

end Coroutine
