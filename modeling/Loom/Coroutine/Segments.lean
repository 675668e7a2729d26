import Loom.Coroutine.Basic

/-!
# Segments of a coroutine

Between two awaits a coroutine runs without interference.  Such a segment is fixed by its
origin (the query that was answered, and the state then) and by the list of its writes.

`Prog.Does` says what the segments of a program can be when the environment moves the state
along `rely` at every await.  Its rules for `bind`, `attempt` and `finalize` are equations, and
`Prog.Only.does` disposes of the parts of a program that make `minor` writes only: they shift
the origin (`Passes`) and return a value that `Prog.Returns` allows.
-/

namespace Coroutine

section Updates

variable {ω σ : Type} [Update ω σ]

/-- Perform writes in order. -/
def applyAll (updates : List ω) (state : σ) : σ :=
  updates.foldl (fun state update => apply update state) state

@[simp]
theorem applyAll_nil (state : σ) : applyAll ([] : List ω) state = state := rfl

@[simp]
theorem applyAll_cons (update : ω) (updates : List ω) (state : σ) :
    applyAll (update :: updates) state = applyAll updates (apply update state) := rfl

@[simp]
theorem applyAll_append (first second : List ω) (state : σ) :
    applyAll (first ++ second) state = applyAll second (applyAll first state) := by
  unfold applyAll
  rw [List.foldl_append]

end Updates

/-- Where a segment starts: the query that was answered, and the state at that moment. -/
structure Origin (σ Q : Type) where
  query : Option Q
  start : σ

/-- Where a segment stops. -/
inductive Stop (ε Q α : Type) where
  | awaits (query : Q)
  | returns (value : α)
  | raises (error : ε)

namespace Stop

variable {ε Q α β : Type}

/-- Change the value that is returned. -/
def map (stop : Stop ε Q α) (change : α → β) : Stop ε Q β :=
  match stop with
  | .awaits query => .awaits query
  | .returns value => .returns (change value)
  | .raises error => .raises error

/-- Turn an exception into a returned value. -/
def caught (stop : Stop ε Q α) : Stop ε Q (Except ε α) :=
  match stop with
  | .awaits query => .awaits query
  | .returns value => .returns (.ok value)
  | .raises error => .returns (.error error)

/-- The coroutine is over. -/
def isFinal (stop : Stop ε Q α) : Bool :=
  match stop with
  | .awaits _ => false
  | .returns _ | .raises _ => true

end Stop

namespace Prog

variable {σ ε ω Q : Type} {A : Q → Type} {α β γ : Type}

/-! ### Possible results -/

/-- `program` can end with `result` when reads yield anything and answers are allowed. -/
inductive Returns (ok : (query : Q) → A query → Prop) :
    Prog σ ε ω A α → Except ε α → Prop where
  | ret {value : α} : Returns ok (.ret value) (.ok value)
  | raise {error : ε} : Returns ok (.raise error) (.error error)
  | read {next : σ → Prog σ ε ω A α} {result : Except ε α} (state : σ)
      (rest : Returns ok (next state) result) : Returns ok (.read next) result
  | write {update : ω} {next : Prog σ ε ω A α} {result : Except ε α}
      (rest : Returns ok next result) : Returns ok (.write update next) result
  | await {query : Q} {next : A query → Prog σ ε ω A α} {result : Except ε α}
      (answer : A query) (allowed : ok query answer) (rest : Returns ok (next answer) result) :
      Returns ok (.await query next) result

/-! ### Restricted writes and awaits -/

/-- Every write of the program is in `writes` and every query in `queries`. -/
def Only (writes : ω → Prop) (queries : Q → Prop) : Prog σ ε ω A α → Prop
  | .ret _ => True
  | .raise _ => True
  | .read next => ∀ state, Only writes queries (next state)
  | .write update next => writes update ∧ Only writes queries next
  | .await query next => queries query ∧ ∀ answer, Only writes queries (next answer)

namespace Only

variable {writes : ω → Prop} {queries : Q → Prop}

theorem bind {program : Prog σ ε ω A α} {rest : α → Prog σ ε ω A β}
    (first : Only writes queries program) (second : ∀ value, Only writes queries (rest value)) :
    Only writes queries (program.bind rest) := by
  induction program with
  | ret value => exact second value
  | raise error => trivial
  | read next ih => exact fun state => ih state (first state)
  | write update next ih => exact ⟨first.1, ih first.2⟩
  | await query next ih => exact ⟨first.1, fun answer => ih answer (first.2 answer)⟩

theorem mono {more : ω → Prop} {further : Q → Prop} {program : Prog σ ε ω A α}
    (only : Only writes queries program) (allowed : ∀ update, writes update → more update)
    (asked : ∀ query, queries query → further query) : Only more further program := by
  induction program with
  | ret value => trivial
  | raise error => trivial
  | read next ih => exact fun state => ih state (only state)
  | write update next ih => exact ⟨allowed update only.1, ih only.2⟩
  | await query next ih => exact ⟨asked query only.1, fun answer => ih answer (only.2 answer)⟩

theorem attempt {program : Prog σ ε ω A α} (only : Only writes queries program) :
    Only writes queries program.attempt := by
  induction program with
  | ret value => trivial
  | raise error => trivial
  | read next ih => exact fun state => ih state (only state)
  | write update next ih => exact ⟨only.1, ih only.2⟩
  | await query next ih => exact ⟨only.1, fun answer => ih answer (only.2 answer)⟩

theorem finalize {program : Prog σ ε ω A α} {update : ω} (only : Only writes queries program)
    (allowed : writes update) : Only writes queries (program.finalize update) := by
  induction program with
  | ret value => exact ⟨allowed, trivial⟩
  | raise error => exact ⟨allowed, trivial⟩
  | read next ih => exact fun state => ih state (only state)
  | write first next ih => exact ⟨only.1, ih only.2⟩
  | await query next ih => exact ⟨only.1, fun answer => ih answer (only.2 answer)⟩

theorem ofExcept (outcome : Except ε α) :
    Only writes queries (Prog.ofExcept outcome : Prog σ ε ω A α) := by
  cases outcome with
  | ok value => trivial
  | error error => trivial

theorem guard (condition : Prop) [Decidable condition] (error : ε) :
    Only writes queries (Prog.guard condition error : Prog σ ε ω A Unit) := by
  unfold Prog.guard
  split
  · trivial
  · trivial

end Only

/-! ### Segments under interference -/

variable [Update ω σ]

/-- What the allowed writes preserve holds after a run. -/
theorem Only.preserves {writes : ω → Prop} {queries : Q → Prop}
    {ok : (query : Q) → A query → Prop} {program : Prog σ ε ω A α}
    (only : Only writes queries program) (holds : σ → Prop)
    (step : ∀ (update : ω) (state : σ), writes update → holds state → holds (apply update state))
    {state state' : σ} {result : Except ε α} (runs : Runs ok program state state' result)
    (initial : holds state) : holds state' := by
  induction runs with
  | ret => exact initial
  | raise => exact initial
  | read rest ih => exact ih (only _) initial
  | write rest ih => exact ih only.2 (step _ _ only.1 initial)
  | await answer allowed rest ih => exact ih (only.2 answer) initial

/-- Continued from `origin` with the writes made so far, every segment of the program satisfies
`block`.  At an await the environment moves the state along `rely`. -/
def Does (ok : (query : Q) → A query → Prop) (rely : σ → σ → Prop)
    (block : Origin σ Q → List ω → Stop ε Q α → Prop) :
    Prog σ ε ω A α → Origin σ Q → List ω → Prop
  | .ret value, origin, made => block origin made (.returns value)
  | .raise error, origin, made => block origin made (.raises error)
  | .read next, origin, made =>
      Does ok rely block (next (applyAll made origin.start)) origin made
  | .write update next, origin, made => Does ok rely block next origin (made ++ [update])
  | .await query next, origin, made =>
      block origin made (.awaits query) ∧
        ∀ state, rely (applyAll made origin.start) state → ∀ answer, ok query answer →
          Does ok rely block (next answer) ⟨some query, state⟩ []

/-- What is left to show of a sequential composition once its first part is over. -/
def continued (ok : (query : Q) → A query → Prop) (rely : σ → σ → Prop)
    (block : Origin σ Q → List ω → Stop ε Q β → Prop) (rest : α → Prog σ ε ω A β) :
    Origin σ Q → List ω → Stop ε Q α → Prop
  | origin, made, .awaits query => block origin made (.awaits query)
  | origin, made, .returns value => Does ok rely block (rest value) origin made
  | origin, made, .raises error => block origin made (.raises error)

namespace Does

variable {ok : (query : Q) → A query → Prop} {rely : σ → σ → Prop}

theorem mono {block weaker : Origin σ Q → List ω → Stop ε Q α → Prop}
    {program : Prog σ ε ω A α} {origin : Origin σ Q} {made : List ω}
    (weakens : ∀ origin made stop, block origin made stop → weaker origin made stop)
    (does : Does ok rely block program origin made) :
    Does ok rely weaker program origin made := by
  induction program generalizing origin made with
  | ret value => exact weakens _ _ _ does
  | raise error => exact weakens _ _ _ does
  | read next ih => exact ih _ does
  | write update next ih => exact ih does
  | await query next ih =>
      exact ⟨weakens _ _ _ does.1, fun state moved answer allowed =>
        ih answer (does.2 state moved answer allowed)⟩

theorem bind_iff {block : Origin σ Q → List ω → Stop ε Q β → Prop}
    {program : Prog σ ε ω A α} {rest : α → Prog σ ε ω A β} {origin : Origin σ Q}
    {made : List ω} :
    Does ok rely block (program.bind rest) origin made ↔
      Does ok rely (continued ok rely block rest) program origin made := by
  induction program generalizing origin made with
  | ret value => exact Iff.rfl
  | raise error => exact Iff.rfl
  | read next ih => exact ih _
  | write update next ih => exact ih
  | await query next ih =>
      constructor
      · rintro ⟨here, later⟩
        exact ⟨here, fun state moved answer allowed =>
          (ih answer).1 (later state moved answer allowed)⟩
      · rintro ⟨here, later⟩
        exact ⟨here, fun state moved answer allowed =>
          (ih answer).2 (later state moved answer allowed)⟩

/-- What holds of all segments holds of those of a program. -/
theorem always {block : Origin σ Q → List ω → Stop ε Q α → Prop}
    (holds : ∀ origin made stop, block origin made stop) (program : Prog σ ε ω A α)
    (origin : Origin σ Q) (made : List ω) : Does ok rely block program origin made := by
  induction program generalizing origin made with
  | ret value => exact holds _ _ _
  | raise error => exact holds _ _ _
  | read next ih => exact ih _ _ _
  | write update next ih => exact ih _ _
  | await query next ih => exact ⟨holds _ _ _, fun state moved answer allowed => ih answer _ _⟩

theorem map_iff {block : Origin σ Q → List ω → Stop ε Q β → Prop}
    {program : Prog σ ε ω A α} {change : α → β} {origin : Origin σ Q} {made : List ω} :
    Does ok rely block (program.map change) origin made ↔
      Does ok rely (fun origin made stop => block origin made (stop.map change))
        program origin made := by
  unfold Prog.map
  rw [bind_iff]
  constructor
  · apply mono
    intro origin made stop holds
    cases stop <;> exact holds
  · apply mono
    intro origin made stop holds
    cases stop <;> exact holds

theorem attempt_iff {block : Origin σ Q → List ω → Stop ε Q (Except ε α) → Prop}
    {program : Prog σ ε ω A α} {origin : Origin σ Q} {made : List ω} :
    Does ok rely block program.attempt origin made ↔
      Does ok rely (fun origin made stop => block origin made stop.caught)
        program origin made := by
  induction program generalizing origin made with
  | ret value => exact Iff.rfl
  | raise error => exact Iff.rfl
  | read next ih => exact ih _
  | write update next ih => exact ih
  | await query next ih =>
      constructor
      · rintro ⟨here, later⟩
        exact ⟨here, fun state moved answer allowed =>
          (ih answer).1 (later state moved answer allowed)⟩
      · rintro ⟨here, later⟩
        exact ⟨here, fun state moved answer allowed =>
          (ih answer).2 (later state moved answer allowed)⟩

theorem finalize_iff {block : Origin σ Q → List ω → Stop ε Q α → Prop}
    {program : Prog σ ε ω A α} {update : ω} {origin : Origin σ Q} {made : List ω} :
    Does ok rely block (program.finalize update) origin made ↔
      Does ok rely (fun origin made stop =>
        block origin (if stop.isFinal then made ++ [update] else made) stop)
        program origin made := by
  induction program generalizing origin made with
  | ret value => exact Iff.rfl
  | raise error => exact Iff.rfl
  | read next ih => exact ih _
  | write first next ih => exact ih
  | await query next ih =>
      constructor
      · rintro ⟨here, later⟩
        exact ⟨here, fun state moved answer allowed =>
          (ih answer).1 (later state moved answer allowed)⟩
      · rintro ⟨here, later⟩
        exact ⟨here, fun state moved answer allowed =>
          (ih answer).2 (later state moved answer allowed)⟩

theorem ofExcept_iff {block : Origin σ Q → List ω → Stop ε Q α → Prop}
    {outcome : Except ε α} {origin : Origin σ Q} {made : List ω} :
    Does ok rely block (Prog.ofExcept outcome : Prog σ ε ω A α) origin made ↔
      (∀ value, outcome = .ok value → block origin made (.returns value)) ∧
        ∀ error, outcome = .error error → block origin made (.raises error) := by
  cases outcome with
  | ok value => simp [Prog.ofExcept, Does]
  | error error => simp [Prog.ofExcept, Does]

theorem guard_iff {block : Origin σ Q → List ω → Stop ε Q Unit → Prop} {condition : Prop}
    [Decidable condition] {error : ε} {origin : Origin σ Q} {made : List ω} :
    Does ok rely block (Prog.guard condition error : Prog σ ε ω A Unit) origin made ↔
      (condition → block origin made (.returns ())) ∧
        (¬condition → block origin made (.raises error)) := by
  unfold Prog.guard
  split
  · simp_all [Does]
  · simp_all [Does]

end Does

/-! ### Parts with minor writes -/

/-- The moves of the environment are closed under composition and under minor writes. -/
structure Absorbs (rely : σ → σ → Prop) (minor : ω → Prop) : Prop where
  refl : ∀ state, rely state state
  trans : ∀ {first second third}, rely first second → rely second third → rely first third
  write : ∀ {update} (state), minor update → rely state (apply update state)

theorem Absorbs.mono {rely : σ → σ → Prop} {minor fewer : ω → Prop}
    (absorbs : Absorbs rely minor) (smaller : ∀ update, fewer update → minor update) :
    Absorbs rely fewer :=
  ⟨absorbs.refl, absorbs.trans, fun state isMinor => absorbs.write state (smaller _ isMinor)⟩

theorem Absorbs.applyAll {rely : σ → σ → Prop} {minor : ω → Prop} (absorbs : Absorbs rely minor)
    (updates : List ω) (areMinor : ∀ update ∈ updates, minor update) (state : σ) :
    rely state (Coroutine.applyAll updates state) := by
  induction updates generalizing state with
  | nil => exact absorbs.refl state
  | cons update updates ih =>
      refine absorbs.trans (absorbs.write state (areMinor update (by simp))) ?_
      exact ih (fun other member => areMinor other (by simp [member])) _

/-- The origin and the writes of a segment that is reached from another one through awaits of
`service` queries and `minor` writes. -/
inductive Passes (rely : σ → σ → Prop) (minor : ω → Prop) (service : Q → Prop)
    (origin : Origin σ Q) (made : List ω) : Origin σ Q → List ω → Prop where
  | here (more : List ω) (areMinor : ∀ update ∈ more, minor update) :
      Passes rely minor service origin made origin (made ++ more)
  | later (query : Q) (state : σ) (more : List ω) (isService : service query)
      (moved : rely (applyAll made origin.start) state) (areMinor : ∀ update ∈ more, minor update) :
      Passes rely minor service origin made ⟨some query, state⟩ more

namespace Passes

variable {rely : σ → σ → Prop} {minor : ω → Prop} {service : Q → Prop}
variable {origin origin' origin'' : Origin σ Q} {made made' made'' : List ω}

theorem refl : Passes rely minor service origin made origin made := by
  have here : Passes rely minor service origin made origin (made ++ []) := .here [] (by simp)
  rwa [List.append_nil] at here

theorem write (passes : Passes rely minor service origin made origin' made') (update : ω)
    (isMinor : minor update) :
    Passes rely minor service origin made origin' (made' ++ [update]) := by
  cases passes with
  | here more areMinor =>
      rw [List.append_assoc]
      refine .here _ ?_
      intro other member
      rcases List.mem_append.1 member with member | member
      · exact areMinor other member
      · rw [List.mem_singleton.1 member]
        exact isMinor
  | later query state more isService moved areMinor =>
      refine .later query state _ isService moved ?_
      intro other member
      rcases List.mem_append.1 member with member | member
      · exact areMinor other member
      · rw [List.mem_singleton.1 member]
        exact isMinor

theorem rely_end (absorbs : Absorbs rely minor)
    (passes : Passes rely minor service origin made origin' made') :
    rely (applyAll made origin.start) (applyAll made' origin'.start) := by
  cases passes with
  | here more areMinor =>
      rw [applyAll_append]
      exact absorbs.applyAll more areMinor _
  | later query state more isService moved areMinor =>
      exact absorbs.trans moved (absorbs.applyAll _ areMinor _)

theorem trans (absorbs : Absorbs rely minor)
    (first : Passes rely minor service origin made origin' made')
    (second : Passes rely minor service origin' made' origin'' made'') :
    Passes rely minor service origin made origin'' made'' := by
  cases second with
  | here more areMinor =>
      cases first with
      | here earlier areEarlierMinor =>
          rw [List.append_assoc]
          refine .here _ ?_
          intro update member
          rcases List.mem_append.1 member with member | member
          · exact areEarlierMinor update member
          · exact areMinor update member
      | later query state earlier isService moved areEarlierMinor =>
          refine .later query state _ isService moved ?_
          intro update member
          rcases List.mem_append.1 member with member | member
          · exact areEarlierMinor update member
          · exact areMinor update member
  | later query state more isService moved areMinor =>
      refine .later query state _ isService ?_ areMinor
      exact absorbs.trans (rely_end absorbs first) moved

end Passes

/-- A program that makes only some writes makes them in every segment. -/
theorem Only.writes_does {ok : (query : Q) → A query → Prop} {rely : σ → σ → Prop}
    {writes : ω → Prop} {queries : Q → Prop} {program : Prog σ ε ω A α} {origin : Origin σ Q}
    {made : List ω} (only : Only writes queries program) (before : ∀ update ∈ made, writes update) :
    Does ok rely (fun _ made (_ : Stop ε Q α) => ∀ update ∈ made, writes update) program origin
      made := by
  induction program generalizing origin made with
  | ret value => exact before
  | raise error => exact before
  | read next ih => exact ih _ (only _) before
  | write update next ih =>
      refine ih only.2 ?_
      intro other member
      rcases List.mem_append.1 member with member | member
      · exact before other member
      · rw [List.mem_singleton.1 member]
        exact only.1
  | await query next ih =>
      exact ⟨before, fun state moved answer allowed => ih answer (only.2 answer) (by simp)⟩

/-- A part of a program with minor writes and service queries only: it is enough to consider
the segments reached through it and the results it can return. -/
theorem Only.does {ok : (query : Q) → A query → Prop} {rely : σ → σ → Prop}
    {minor : ω → Prop} {service : Q → Prop} (absorbs : Absorbs rely minor)
    {block : Origin σ Q → List ω → Stop ε Q α → Prop} {program : Prog σ ε ω A α}
    {origin : Origin σ Q} {made : List ω} (only : Only minor service program)
    (awaits : ∀ origin' made' query, Passes rely minor service origin made origin' made' →
      service query → block origin' made' (.awaits query))
    (returns : ∀ origin' made' value, Passes rely minor service origin made origin' made' →
      Returns ok program (.ok value) → block origin' made' (.returns value))
    (raises : ∀ origin' made' error, Passes rely minor service origin made origin' made' →
      Returns ok program (.error error) → block origin' made' (.raises error)) :
    Does ok rely block program origin made := by
  suffices general : ∀ origin' made', Passes rely minor service origin made origin' made' →
      Does ok rely block program origin' made' from general _ _ Passes.refl
  induction program with
  | ret value => exact fun origin' made' passes => returns _ _ _ passes .ret
  | raise error => exact fun origin' made' passes => raises _ _ _ passes .raise
  | read next ih =>
      intro origin' made' passes
      exact ih _ (only _) (fun _ _ _ passes result => returns _ _ _ passes (.read _ result))
        (fun _ _ _ passes result => raises _ _ _ passes (.read _ result)) _ _ passes
  | write update next ih =>
      intro origin' made' passes
      exact ih only.2 (fun _ _ _ passes result => returns _ _ _ passes (.write result))
        (fun _ _ _ passes result => raises _ _ _ passes (.write result)) _ _
        (passes.write update only.1)
  | await query next ih =>
      intro origin' made' passes
      refine ⟨awaits _ _ _ passes only.1, fun state moved answer allowed => ?_⟩
      refine ih answer (only.2 answer)
        (fun _ _ _ passes result => returns _ _ _ passes (.await answer allowed result))
        (fun _ _ _ passes result => raises _ _ _ passes (.await answer allowed result)) _ _ ?_
      exact passes.trans absorbs
        (.later query state [] only.1 moved (by simp))

end Prog

end Coroutine
