import Loom.Coroutine.Ensures

/-!
# Programs with the record of their awaits

`program.traced` is the program together with the list of the exchanges it has had: each query with
the answer it got.  `Prog.Keeps` holds of the programs whose writes do not change a view of the
state and that ask only certain queries.
-/

namespace Coroutine

variable {σ ε ω Q : Type} {A : Q → Type} {α β : Type}

/-- A query and the answer it got. -/
structure Exchange {Q : Type} (A : Q → Type) where
  query : Q
  answer : A query

/-- What a traced program writes. -/
inductive TraceWrite (ω : Type) {Q : Type} (A : Q → Type) where
  | update (update : ω)
  | exchange (exchange : Exchange A)

instance [Update ω σ] : Update (TraceWrite ω A) (σ × List (Exchange A)) where
  apply write traced :=
    match write with
    | .update update => (apply update traced.1, traced.2)
    | .exchange exchange => (traced.1, traced.2 ++ [exchange])

namespace Prog

/-- The program, which also records its exchanges. -/
def traced : Prog σ ε ω A α → Prog (σ × List (Exchange A)) ε (TraceWrite ω A) A α
  | .ret value => .ret value
  | .raise error => .raise error
  | .read next => .read fun state => (next state.1).traced
  | .write update next => .write (.update update) next.traced
  | .await query next =>
      .await query fun answer => .write (.exchange ⟨query, answer⟩) (next answer).traced

theorem traced_bind (program : Prog σ ε ω A α) (rest : α → Prog σ ε ω A β) :
    (program.bind rest).traced = program.traced.bind fun value => (rest value).traced := by
  induction program with
  | ret value => rfl
  | raise error => rfl
  | read next ih => simp only [bind, traced, ih]
  | write update next ih => simp only [bind, traced, ih]
  | await query next ih => simp only [bind, traced, ih]

variable [Update ω σ] {ok : (query : Q) → A query → Prop}

/-- A sequence ensures what its second part ensures after the first one. -/
theorem Ensures.traced_bind {program : Prog σ ε ω A α} {rest : α → Prog σ ε ω A β}
    {state : σ × List (Exchange A)} {post : σ × List (Exchange A) → Except ε β → Prop}
    (first : program.traced.Ensures ok state fun middle result =>
      match result with
      | .ok value => (rest value).traced.Ensures ok middle post
      | .error error => post middle (.error error)) :
    (program.bind rest).traced.Ensures ok state post := by
  rw [Prog.traced_bind]
  exact .bind first

omit [Update ω σ] in
theorem traced_ofExcept (outcome : Except ε α) :
    (ofExcept outcome : Prog σ ε ω A α).traced = ofExcept outcome := by
  cases outcome with
  | ok value => rfl
  | error error => rfl

omit [Update ω σ] in
theorem traced_guard (condition : Prop) [Decidable condition] (error : ε) :
    (guard condition error : Prog σ ε ω A Unit).traced = guard condition error := by
  unfold guard
  split
  · rfl
  · rfl

/-! ### Programs that keep a view of the state -/

/-- No write of the program changes the view of the state, and it asks only these queries. -/
def Keeps {τ : Type} (view : σ → τ) (asks : Q → Prop) : Prog σ ε ω A α → Prop
  | .ret _ => True
  | .raise _ => True
  | .read next => ∀ state, (next state).Keeps view asks
  | .write update next =>
      (∀ state : σ, view (apply update state) = view state) ∧ next.Keeps view asks
  | .await query next => asks query ∧ ∀ answer, (next answer).Keeps view asks

namespace Keeps

variable {τ : Type} {view : σ → τ} {asks : Q → Prop}

theorem ofExcept (outcome : Except ε α) :
    (Prog.ofExcept outcome : Prog σ ε ω A α).Keeps view asks := by
  cases outcome with
  | ok value => trivial
  | error error => trivial

theorem guard (condition : Prop) [Decidable condition] (error : ε) :
    (Prog.guard condition error : Prog σ ε ω A Unit).Keeps view asks := by
  unfold Prog.guard
  split
  · trivial
  · trivial

theorem bind {program : Prog σ ε ω A α} {rest : α → Prog σ ε ω A β}
    (first : program.Keeps view asks) (second : ∀ value, (rest value).Keeps view asks) :
    (program.bind rest).Keeps view asks := by
  induction program with
  | ret value => exact second value
  | raise error => trivial
  | read next ih => exact fun state => ih state (first state)
  | write update next ih => exact ⟨first.1, ih first.2⟩
  | await query next ih => exact ⟨first.1, fun answer => ih answer (first.2 answer)⟩

theorem mono {program : Prog σ ε ω A α} {more : Q → Prop} (keeps : program.Keeps view asks)
    (asksMore : ∀ query, asks query → more query) : program.Keeps view more := by
  induction program with
  | ret value => trivial
  | raise error => trivial
  | read next ih => exact fun state => ih state (keeps state)
  | write update next ih => exact ⟨keeps.1, ih keeps.2⟩
  | await query next ih =>
      exact ⟨asksMore query keeps.1, fun answer => ih answer (keeps.2 answer)⟩

theorem attempt {program : Prog σ ε ω A α} (keeps : program.Keeps view asks) :
    program.attempt.Keeps view asks := by
  induction program with
  | ret value => trivial
  | raise error => trivial
  | read next ih => exact fun state => ih state (keeps state)
  | write update next ih => exact ⟨keeps.1, ih keeps.2⟩
  | await query next ih => exact ⟨keeps.1, fun answer => ih answer (keeps.2 answer)⟩

theorem runs {ok : (query : Q) → A query → Prop} {program : Prog σ ε ω A α} {state state' : σ}
    {result : Except ε α} (keeps : program.Keeps view asks)
    (ran : program.Runs ok state state' result) : view state' = view state := by
  induction ran with
  | ret => rfl
  | raise => rfl
  | read rest ih => exact ih (keeps _)
  | write rest ih => exact (ih keeps.2).trans (keeps.1 _)
  | await answer allowed rest ih => exact ih (keeps.2 answer)

/-- What holds of every state with the same view, and of every trace with further such queries,
holds after the program. -/
theorem ensures {program : Prog σ ε ω A α} (keeps : program.Keeps view asks) (state : σ)
    (trace : List (Exchange A)) {post : σ × List (Exchange A) → Except ε α → Prop}
    (holds : ∀ after more result, view after = view state →
      (∀ exchange ∈ more, asks exchange.query) → post (after, trace ++ more) result) :
    program.traced.Ensures ok (state, trace) post := by
  induction program generalizing state trace with
  | ret value =>
      have last := holds state [] (.ok value) rfl (by simp)
      rwa [List.append_nil] at last
  | raise error =>
      have last := holds state [] (.error error) rfl (by simp)
      rwa [List.append_nil] at last
  | read next ih => exact ih state (keeps state) state trace holds
  | write update next ih =>
      refine ih keeps.2 (apply update state) trace fun after more result same asked => ?_
      exact holds after more result (same.trans (keeps.1 state)) asked
  | await query next ih =>
      intro answer allowed
      refine ih answer (keeps.2 answer) state (trace ++ [⟨query, answer⟩])
        fun after more result same asked => ?_
      have whole := holds after (⟨query, answer⟩ :: more) result same ?_
      · rwa [List.append_assoc, List.singleton_append]
      · intro exchange member
        rcases List.mem_cons.1 member with rfl | member
        · exact keeps.1
        · exact asked exchange member

end Keeps

end Prog

end Coroutine
