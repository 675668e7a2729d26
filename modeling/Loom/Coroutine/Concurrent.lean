import Loom.Coroutine.Pool
import Loom.Coroutine.Traced

/-!
# Coroutines that run at the same time in a world

A `Setting` has programs by their labels, says which of them may overlap, and has a world that moves
while queries are pending and gives the answers.  A run is a list of beats: a beat starts a task or
answers the query of one, and runs it up to its next query or its end.

A `Contract` describes the beats of every label under what it relies on between them.  What a beat
guarantees is what the labels that may overlap with it rely on (`Contract.sound`).
-/

namespace Coroutine

variable {σ ε ω Q : Type} {A : Q → Type} {α β L ν : Type}

/-- The programs that run at the same time, and the world around them. -/
structure Setting (σ ε ω : Type) {Q : Type} (A : Q → Type) (α L ν : Type) where
  code : L → Prog σ ε ω A α
  /-- Tasks of these labels may be under way at the same time. -/
  overlap : L → L → Prop
  /-- What the world does for a task while its query is pending. -/
  moves : Nat → Q → ν → ν → Prop
  answers : Nat → (query : Q) → ν → A query → ν → Prop
  /-- What else may happen between two beats. -/
  drifts : σ × ν → σ × ν → Prop
  /-- What is left after a restart, which ends all tasks. -/
  restarts : σ × ν → σ × ν → Prop

/-- A program that was started for a label. -/
structure Task (σ ε ω : Type) {Q : Type} (A : Q → Type) (α L : Type) where
  ticket : Nat
  label : L
  rest : Prog σ ε ω A α

structure System (σ ε ω : Type) {Q : Type} (A : Q → Type) (α L ν : Type) where
  point : σ × ν
  tasks : List (Task σ ε ω A α L) := []
  next : Nat := 0

/-- How a beat begins: with an answer, unless it starts the task. -/
structure Opening (σ ν : Type) {Q : Type} (A : Q → Type) where
  answered : Option (Exchange A)
  before : σ × ν

/-- One beat of a task. -/
structure Beat (σ ε : Type) {Q : Type} (A : Q → Type) (α L ν : Type) where
  ticket : Nat
  label : L
  opening : Opening σ ν A
  after : σ × ν
  stop : Stop ε Q α

def Stop.ofResult : Except ε α → Stop ε Q α
  | .ok value => .returns value
  | .error error => .raises error

/-- The task waits for an answer. -/
def Task.live (task : Task σ ε ω A α L) : Bool :=
  match task.rest with
  | .await _ _ => true
  | _ => false

variable [Update ω σ]

/-- A task once a beat has run its program. -/
def Task.advance (ticket : Nat) (label : L) (program : Prog σ ε ω A α) (state : σ) :
    Task σ ε ω A α L :=
  ⟨ticket, label, program.residue state⟩

/-- The beat that runs a program up to its next query or its end. -/
def Beat.run (ticket : Nat) (label : L) (opening : Opening σ ν A) (program : Prog σ ε ω A α)
    (world : ν) : Beat σ ε A α L ν :=
  { ticket, label, opening
    after := (applyAll (program.writes opening.before.1) opening.before.1, world)
    stop := program.stop opening.before.1 }

namespace Setting

variable (setting : Setting σ ε ω A α L ν)

inductive Step : System σ ε ω A α L ν → Beat σ ε A α L ν → System σ ε ω A α L ν → Prop where
  | spawn {point : σ × ν} {tasks : List (Task σ ε ω A α L)} {next : Nat} (label : L)
      (free : ∀ task ∈ tasks, task.live = true → setting.overlap task.label label) :
      Step ⟨point, tasks, next⟩ (Beat.run next label ⟨none, point⟩ (setting.code label) point.2)
        ⟨(Beat.run next label ⟨none, point⟩ (setting.code label) point.2).after,
          tasks ++ [.advance next label (setting.code label) point.1], next + 1⟩
  | resume {point : σ × ν} {before after : List (Task σ ε ω A α L)} {next ticket : Nat} {label : L}
      {query : Q} {rest : A query → Prog σ ε ω A α} (answer : A query) (world : ν)
      (answered : setting.answers ticket query point.2 answer world) :
      Step ⟨point, before ++ ⟨ticket, label, .await query rest⟩ :: after, next⟩
        (Beat.run ticket label ⟨some ⟨query, answer⟩, point⟩ (rest answer) world)
        ⟨(Beat.run ticket label ⟨some ⟨query, answer⟩, point⟩ (rest answer) world).after,
          before ++ .advance ticket label (rest answer) point.1 :: after, next⟩

/-- A step that runs no task. -/
inductive Silent : System σ ε ω A α L ν → System σ ε ω A α L ν → Prop where
  | move {state : σ} {world world' : ν} {tasks : List (Task σ ε ω A α L)} {next : Nat}
      {task : Task σ ε ω A α L} {query : Q} {rest : A query → Prog σ ε ω A α}
      (member : task ∈ tasks) (pending : task.rest = .await query rest)
      (moved : setting.moves task.ticket query world world') :
      Silent ⟨(state, world), tasks, next⟩ ⟨(state, world'), tasks, next⟩
  | drift {point point' : σ × ν} {tasks : List (Task σ ε ω A α L)} {next : Nat}
      (drifted : setting.drifts point point') : Silent ⟨point, tasks, next⟩ ⟨point', tasks, next⟩
  | restart {point point' : σ × ν} {tasks : List (Task σ ε ω A α L)} {next : Nat}
      (restarted : setting.restarts point point') : Silent ⟨point, tasks, next⟩ ⟨point', [], next⟩

variable {setting} in
theorem Step.before_eq {system system' : System σ ε ω A α L ν} {beat : Beat σ ε A α L ν}
    (step : setting.Step system beat system') : beat.opening.before = system.point := by
  cases step with
  | spawn label free => rfl
  | resume answer world answered => rfl

variable {setting} in
theorem Step.after_eq {system system' : System σ ε ω A α L ν} {beat : Beat σ ε A α L ν}
    (step : setting.Step system beat system') : beat.after = system'.point := by
  cases step with
  | spawn label free => rfl
  | resume answer world answered => rfl

/-- The beats of an interleaving, in their order. -/
inductive Run (start : System σ ε ω A α L ν) :
    List (Beat σ ε A α L ν) → System σ ε ω A α L ν → Prop where
  | nil : Run start [] start
  | beat {beats : List (Beat σ ε A α L ν)} {system system' : System σ ε ω A α L ν}
      {beat : Beat σ ε A α L ν} (run : Run start beats system)
      (step : setting.Step system beat system') : Run start (beats ++ [beat]) system'
  | silent {beats : List (Beat σ ε A α L ν)} {system system' : System σ ε ω A α L ν}
      (run : Run start beats system) (silent : setting.Silent system system') :
      Run start beats system'

/-- A run up to one of its beats. -/
theorem Run.until {start system : System σ ε ω A α L ν} {beats : List (Beat σ ε A α L ν)}
    (run : setting.Run start beats system) {earlier later : List (Beat σ ε A α L ν)}
    {beat : Beat σ ε A α L ν} (isSplit : beats = earlier ++ beat :: later) :
    ∃ system', setting.Run start (earlier ++ [beat]) system' ∧ system'.point = beat.after := by
  induction run generalizing later with
  | nil => exact (List.append_ne_nil_of_right_ne_nil _ (List.cons_ne_nil _ _) isSplit.symm).elim
  | @beat beats system system' last run step ih =>
      rcases List.eq_nil_or_concat later with rfl | ⟨others, final, rfl⟩
      · obtain ⟨rfl, same⟩ := List.append_inj' isSplit rfl
        cases same
        exact ⟨system', run.beat step, step.after_eq.symm⟩
      · rw [List.concat_eq_append, ← List.cons_append, ← List.append_assoc] at isSplit
        exact ih (List.append_inj' isSplit rfl).1
  | silent run step ih => exact ih isSplit

/-- The setting with fewer overlaps and fewer answers. -/
def within (overlap : L → L → Prop) (allowed : Nat → (query : Q) → ν → A query → Prop) :
    Setting σ ε ω A α L ν :=
  { setting with
    overlap := fun first second => setting.overlap first second ∧ overlap first second
    answers := fun ticket query world answer world' =>
      setting.answers ticket query world answer world' ∧ allowed ticket query world answer }

end Setting

/-! ### One program -/

/-- How the world has changed when a beat begins: by an answer, to a query that was fit to be asked
where the answer came. -/
def Opening.Answered (answers : (query : Q) → ν → A query → ν → Prop) (asks : Q → σ × ν → Prop)
    (opening : Opening σ ν A) (world : ν) : Prop :=
  match opening.answered with
  | none => world = opening.before.2
  | some exchange => asks exchange.query opening.before ∧
      answers exchange.query opening.before.2 exchange.answer world

namespace Prog

/-- From a point that the program has reached in a beat, every beat up to its end gives its
guarantee, and its end satisfies the postcondition, if `rely` holds between the beats. -/
def Secure (answers : (query : Q) → ν → A query → ν → Prop) (rely : σ × ν → σ × ν → Prop)
    (guar : Opening σ ν A → σ × ν → Q → Prop) :
    Prog σ ε ω A α → Opening σ ν A → σ × ν →
      (Opening σ ν A → σ × ν → Except ε α → Prop) → Prop
  | .ret value, opening, now, post => post opening now (.ok value)
  | .raise error, opening, now, post => post opening now (.error error)
  | .read next, opening, now, post => (next now.1).Secure answers rely guar opening now post
  | .write update next, opening, now, post =>
      next.Secure answers rely guar opening (apply update now.1, now.2) post
  | .await query next, opening, now, post =>
      guar opening now query ∧ ∀ later, rely now later → ∀ answer world,
        answers query later.2 answer world →
          (next answer).Secure answers rely guar ⟨some ⟨query, answer⟩, later⟩ (later.1, world) post

variable {answers : (query : Q) → ν → A query → ν → Prop} {rely : σ × ν → σ × ν → Prop}
  {guar : Opening σ ν A → σ × ν → Q → Prop} {opening : Opening σ ν A} {now : σ × ν}

namespace Secure

theorem mono {program : Prog σ ε ω A α} {post weaker : Opening σ ν A → σ × ν → Except ε α → Prop}
    (secure : program.Secure answers rely guar opening now post)
    (weakens : ∀ opening now result, post opening now result → weaker opening now result) :
    program.Secure answers rely guar opening now weaker := by
  induction program generalizing opening now with
  | ret value => exact weakens _ _ _ secure
  | raise error => exact weakens _ _ _ secure
  | read next ih => exact ih _ secure
  | write update next ih => exact ih secure
  | await query next ih =>
      exact ⟨secure.1, fun later relied answer world answered =>
        ih answer (secure.2 later relied answer world answered)⟩

/-- A program that gives a guarantee gives every weaker one. -/
theorem guarantees {program : Prog σ ε ω A α}
    {post : Opening σ ν A → σ × ν → Except ε α → Prop}
    {weaker : Opening σ ν A → σ × ν → Q → Prop}
    (secure : program.Secure answers rely guar opening now post)
    (implies : ∀ opening now query, guar opening now query → weaker opening now query) :
    program.Secure answers rely weaker opening now post := by
  induction program generalizing opening now with
  | ret value => exact secure
  | raise error => exact secure
  | read next ih => exact ih _ secure
  | write update next ih => exact ih secure
  | await query next ih =>
      exact ⟨implies _ _ _ secure.1, fun later relied answer world answered =>
        ih answer (secure.2 later relied answer world answered)⟩

/-- Every beat guarantees in addition how it has begun. -/
theorem opens {program : Prog σ ε ω A α} {post : Opening σ ν A → σ × ν → Except ε α → Prop}
    {holds : σ × ν → Prop} {asks : Q → σ × ν → Prop}
    (secure : program.Secure answers rely guar opening now post)
    (relies : ∀ now later, rely now later → holds later)
    (asked : ∀ opening now query, holds opening.before → guar opening now query → asks query now)
    (stays : ∀ query now later, asks query now → rely now later → asks query later)
    (here : holds opening.before) (opened : opening.Answered answers asks now.2) :
    program.Secure answers rely
      (fun opening now query => guar opening now query ∧ holds opening.before ∧
        opening.Answered answers asks now.2) opening now
      fun opening now result => post opening now result ∧ holds opening.before ∧
        opening.Answered answers asks now.2 := by
  induction program generalizing opening now with
  | ret value => exact ⟨secure, here, opened⟩
  | raise error => exact ⟨secure, here, opened⟩
  | read next ih => exact ih _ secure here opened
  | write update next ih => exact ih secure here opened
  | await query next ih =>
      refine ⟨⟨secure.1, here, opened⟩, fun later relied answer world answered => ?_⟩
      exact ih answer (secure.2 later relied answer world answered) (relies _ _ relied)
        ⟨stays _ _ _ (asked _ _ _ here secure.1) relied, answered⟩

/-- Go on with the state as it is read. -/
theorem get {rest : σ → Prog σ ε ω A β} {post : Opening σ ν A → σ × ν → Except ε β → Prop}
    (next : (rest now.1).Secure answers rely guar opening now post) :
    ((Prog.get : Prog σ ε ω A σ).bind rest).Secure answers rely guar opening now post :=
  next

theorem bind {program : Prog σ ε ω A α} {rest : α → Prog σ ε ω A β}
    {post : Opening σ ν A → σ × ν → Except ε β → Prop}
    (first : program.Secure answers rely guar opening now fun opening now result =>
      match result with
      | .ok value => (rest value).Secure answers rely guar opening now post
      | .error error => post opening now (.error error)) :
    (program.bind rest).Secure answers rely guar opening now post := by
  induction program generalizing opening now with
  | ret value => exact first
  | raise error => exact first
  | read next ih => exact ih _ first
  | write update next ih => exact ih first
  | await query next ih =>
      exact ⟨first.1, fun later relied answer world answered =>
        ih answer (first.2 later relied answer world answered)⟩

theorem attempt {program : Prog σ ε ω A α}
    {post : Opening σ ν A → σ × ν → Except ε (Except ε α) → Prop}
    (secure : program.Secure answers rely guar opening now
      fun opening now result => post opening now (.ok result)) :
    program.attempt.Secure answers rely guar opening now post := by
  induction program generalizing opening now with
  | ret value => exact secure
  | raise error => exact secure
  | read next ih => exact ih _ secure
  | write update next ih => exact ih secure
  | await query next ih =>
      exact ⟨secure.1, fun later relied answer world answered =>
        ih answer (secure.2 later relied answer world answered)⟩

theorem ofExcept {outcome : Except ε α} {post : Opening σ ν A → σ × ν → Except ε α → Prop}
    (holds : post opening now outcome) :
    (Prog.ofExcept outcome : Prog σ ε ω A α).Secure answers rely guar opening now post := by
  cases outcome with
  | ok value => exact holds
  | error error => exact holds

theorem guard {condition : Prop} [Decidable condition] {error : ε}
    {post : Opening σ ν A → σ × ν → Except ε Unit → Prop}
    (passes : condition → post opening now (.ok ()))
    (fails : ¬condition → post opening now (.error error)) :
    (Prog.guard condition error : Prog σ ε ω A Unit).Secure answers rely guar opening now post := by
  unfold Prog.guard
  split
  · exact passes ‹_›
  · exact fails ‹_›

/-- What the program has done in its first beat, and what is still to come. -/
theorem first {program : Prog σ ε ω A α} {world : ν} {state : σ}
    {post : Opening σ ν A → σ × ν → Except ε α → Prop}
    (secure : program.Secure answers rely guar opening (state, world) post) :
    (match program.stop state with
      | .awaits query => guar opening (applyAll (program.writes state) state, world) query
      | .returns value => post opening (applyAll (program.writes state) state, world) (.ok value)
      | .raises error =>
          post opening (applyAll (program.writes state) state, world) (.error error)) ∧
    ∀ query next, program.residue state = .await query next →
      ∀ later, rely (applyAll (program.writes state) state, world) later → ∀ answer world',
        answers query later.2 answer world' →
          (next answer).Secure answers rely guar ⟨some ⟨query, answer⟩, later⟩
            (later.1, world') post := by
  induction program generalizing state with
  | ret value => exact ⟨secure, fun query next impossible => by cases impossible⟩
  | raise error => exact ⟨secure, fun query next impossible => by cases impossible⟩
  | read next ih => exact ih state secure
  | write update next ih => exact ih secure
  | await query next ih =>
      refine ⟨secure.1, fun query' next' same => ?_⟩
      cases same
      exact secure.2

end Secure

end Prog

/-- A task goes on securely from any point that it may be resumed at. -/
def Task.Resumes (answers : (query : Q) → ν → A query → ν → Prop) (rely : σ × ν → σ × ν → Prop)
    (guar : Opening σ ν A → σ × ν → Stop ε Q α → Prop) (point : σ × ν)
    (task : Task σ ε ω A α L) : Prop :=
  ∀ query next, task.rest = .await query next → ∀ later, rely point later → ∀ answer world,
    answers query later.2 answer world →
      (next answer).Secure answers rely
        (fun opening now query => guar opening now (.awaits query))
        ⟨some ⟨query, answer⟩, later⟩ (later.1, world)
        fun opening now result => guar opening now (.ofResult result)

section Secure

variable {answers : (query : Q) → ν → A query → ν → Prop} {rely : σ × ν → σ × ν → Prop}

/-- The beat of a secure program gives its guarantee, and the task goes on securely. -/
theorem Beat.run_secure {guar : Opening σ ν A → σ × ν → Stop ε Q α → Prop}
    {program : Prog σ ε ω A α} {ticket : Nat} {label : L} {opening : Opening σ ν A} {world : ν}
    (secure :
      program.Secure answers rely (fun opening now query => guar opening now (.awaits query))
      opening (opening.before.1, world)
      fun opening now result => guar opening now (.ofResult result)) :
    guar opening (Beat.run ticket label opening program world).after
        (Beat.run ticket label opening program world).stop ∧
      (Task.advance ticket label program opening.before.1).Resumes answers rely guar
        (Beat.run ticket label opening program world).after := by
  obtain ⟨here, rest⟩ := secure.first
  refine ⟨?_, rest⟩
  unfold Beat.run
  dsimp only
  cases isStop : program.stop opening.before.1 with
  | awaits query =>
      rw [isStop] at here
      exact here
  | returns value =>
      rw [isStop] at here
      exact here
  | raises error =>
      rw [isStop] at here
      exact here

theorem Task.Resumes.later {guar : Opening σ ν A → σ × ν → Stop ε Q α → Prop}
    {point later : σ × ν} {task : Task σ ε ω A α L}
    (resumes : task.Resumes answers rely guar point) (relied : rely point later)
    (transitive : ∀ first second third, rely first second → rely second third → rely first third) :
    task.Resumes answers rely guar later :=
  fun query next suspended further isLater =>
    resumes query next suspended further (transitive _ _ _ relied isLater)

end Secure

/-! ### Contracts -/

/-- What the beats of every label guarantee, and what they rely on in between. -/
structure Contract (setting : Setting σ ε ω A α L ν) where
  inv : σ × ν → Prop
  rely : L → σ × ν → σ × ν → Prop
  guar : L → Opening σ ν A → σ × ν → Stop ε Q α → Prop
  reflexive : ∀ label point, rely label point point
  transitive : ∀ label first second third, rely label first second → rely label second third →
    rely label first third
  secure : ∀ label ticket point, inv point →
    (setting.code label).Secure (setting.answers ticket)
      (fun now later => inv later ∧ rely label now later)
      (fun opening now query => guar label opening now (.awaits query)) ⟨none, point⟩ point
      fun opening now result => guar label opening now (.ofResult result)
  keeps : ∀ label opening now stop, guar label opening now stop → inv opening.before → inv now
  respects : ∀ label other opening now stop,
    setting.overlap label other ∨ setting.overlap other label → guar label opening now stop →
      inv opening.before → rely other opening.before now
  moves : ∀ ticket query state world world', setting.moves ticket query world world' →
    inv (state, world) → inv (state, world') ∧ ∀ label, rely label (state, world) (state, world')
  drifts : ∀ before after, setting.drifts before after → inv before →
    inv after ∧ ∀ label, rely label before after
  restarts : ∀ before after, setting.restarts before after → inv before → inv after

namespace Contract

variable {setting : Setting σ ε ω A α L ν} (contract : Contract setting)

/-- A task goes on as its contract says, from any point that it may be resumed at. -/
def Waits (point : σ × ν) (task : Task σ ε ω A α L) : Prop :=
  ∀ query next, task.rest = .await query next → ∀ later,
    contract.inv later ∧ contract.rely task.label point later → ∀ answer world,
      setting.answers task.ticket query later.2 answer world →
        (next answer).Secure (setting.answers task.ticket)
          (fun now later => contract.inv later ∧ contract.rely task.label now later)
          (fun opening now query => contract.guar task.label opening now (.awaits query))
          ⟨some ⟨query, answer⟩, later⟩ (later.1, world)
          fun opening now result => contract.guar task.label opening now (.ofResult result)

variable {contract}

theorem Waits.later {point later : σ × ν} {task : Task σ ε ω A α L}
    (waits : contract.Waits point task) (relied : contract.rely task.label point later) :
    contract.Waits later task := by
  intro query next suspended further isLater
  exact waits query next suspended further
    ⟨isLater.1, contract.transitive _ _ _ _ relied isLater.2⟩

/-- A beat of a program that keeps the contract gives its guarantee, and the task goes on. -/
theorem beat_of_secure {program : Prog σ ε ω A α} {ticket : Nat} {label : L}
    {opening : Opening σ ν A} {world : ν}
    (secure : program.Secure (setting.answers ticket)
      (fun now later => contract.inv later ∧ contract.rely label now later)
      (fun opening now query => contract.guar label opening now (.awaits query)) opening
      (opening.before.1, world)
      fun opening now result => contract.guar label opening now (.ofResult result)) :
    contract.guar label opening (Beat.run ticket label opening program world).after
        (Beat.run ticket label opening program world).stop ∧
      contract.Waits (Beat.run ticket label opening program world).after
        (.advance ticket label program opening.before.1) :=
  Beat.run_secure secure

variable (contract)

/-- The tasks of a system go on as the contract says, and live ones may overlap. -/
structure Sound (system : System σ ε ω A α L ν) : Prop where
  holds : contract.inv system.point
  waits : ∀ task ∈ system.tasks, contract.Waits system.point task
  overlap : system.tasks.Pairwise fun first second => first.live = true → second.live = true →
    setting.overlap first.label second.label ∨ setting.overlap second.label first.label

variable {contract}

/-- A beat that keeps the contract leaves the other tasks waiting. -/
theorem Waits.across {task : Task σ ε ω A α L} {label : L} {opening : Opening σ ν A}
    {now : σ × ν} {stop : Stop ε Q α} (waits : contract.Waits opening.before task)
    (overlap : task.live = true → setting.overlap label task.label ∨
      setting.overlap task.label label)
    (guaranteed : contract.guar label opening now stop) (holds : contract.inv opening.before) :
    contract.Waits now task := by
  intro query next suspended
  have live : task.live = true := by
    unfold Task.live
    rw [suspended]
  exact waits.later (contract.respects _ _ _ _ _ (overlap live) guaranteed holds) query next
    suspended

theorem Sound.step {system system' : System σ ε ω A α L ν} {beat : Beat σ ε A α L ν}
    (sound : contract.Sound system) (step : setting.Step system beat system') :
    contract.guar beat.label beat.opening beat.after beat.stop ∧
      contract.inv beat.opening.before ∧ contract.Sound system' := by
  obtain ⟨holds, waits, overlap⟩ := sound
  cases step with
  | @spawn point tasks next label free =>
      obtain ⟨guaranteed, rest⟩ :=
        beat_of_secure (contract.secure label next point holds)
      refine ⟨guaranteed, holds, contract.keeps _ _ _ _ guaranteed holds, ?_, ?_⟩
      · intro task member
        rcases List.mem_append.1 member with member | member
        · exact (waits task member).across (fun live => Or.inr (free task member live)) guaranteed
            holds
        · rw [List.mem_singleton.1 member]
          exact rest
      · refine List.pairwise_append.2 ⟨overlap, List.pairwise_singleton _ _, ?_⟩
        intro task member other isNew live _
        rw [List.mem_singleton.1 isNew]
        exact Or.inl (free task member live)
  | @resume point before after next ticket label query rest answer world answered =>
      have suspended := waits ⟨ticket, label, .await query rest⟩ (by simp) query rest rfl point
        ⟨holds, contract.reflexive label point⟩ answer world answered
      obtain ⟨guaranteed, remains⟩ := beat_of_secure suspended
      obtain ⟨earlier, others, across⟩ := List.pairwise_append.1 overlap
      obtain ⟨here, later⟩ := List.pairwise_cons.1 others
      refine ⟨guaranteed, holds, contract.keeps _ _ _ _ guaranteed holds, ?_, ?_⟩
      · intro task member
        rcases List.mem_append.1 member with member | member
        · refine (waits task (List.mem_append_left _ member)).across (fun live => ?_) guaranteed
            holds
          exact (across task member ⟨ticket, label, .await query rest⟩ List.mem_cons_self live
            rfl).symm
        · rcases List.mem_cons.1 member with rfl | member
          · exact remains
          · refine (waits task (List.mem_append_right _ (List.mem_cons_of_mem _ member))).across
              (fun live => here task member rfl live) guaranteed holds
      · refine List.pairwise_append.2 ⟨earlier, List.pairwise_cons.2 ⟨?_, later⟩, ?_⟩
        · exact fun task member _ live => here task member rfl live
        · intro task member other isOther live live'
          rcases List.mem_cons.1 isOther with rfl | isOther
          · exact across task member ⟨ticket, label, .await query rest⟩ List.mem_cons_self live
              rfl
          · exact across task member other (List.mem_cons_of_mem _ isOther) live live'

theorem Sound.silent {system system' : System σ ε ω A α L ν} (sound : contract.Sound system)
    (silent : setting.Silent system system') : contract.Sound system' := by
  obtain ⟨holds, waits, overlap⟩ := sound
  cases silent with
  | move member pending moved =>
      obtain ⟨holds', relies⟩ := contract.moves _ _ _ _ _ moved holds
      exact ⟨holds', fun task member => (waits task member).later (relies _), overlap⟩
  | drift drifted =>
      obtain ⟨holds', relies⟩ := contract.drifts _ _ drifted holds
      exact ⟨holds', fun task member => (waits task member).later (relies _), overlap⟩
  | restart restarted =>
      exact ⟨contract.restarts _ _ restarted holds,
        fun task member => (List.not_mem_nil member).elim, List.Pairwise.nil⟩

/-- Induction along a run of a setting with a contract. -/
theorem induct (past : List (Beat σ ε A α L ν) → System σ ε ω A α L ν → Prop)
    {start : System σ ε ω A α L ν} (initial : contract.Sound start) (first : past [] start)
    (step : ∀ beats system beat system', past beats system → contract.Sound system →
      setting.Step system beat system' →
      contract.guar beat.label beat.opening beat.after beat.stop → contract.Sound system' →
        past (beats ++ [beat]) system')
    (silent : ∀ beats system system', past beats system → contract.Sound system →
      setting.Silent system system' → past beats system')
    {beats : List (Beat σ ε A α L ν)} {system : System σ ε ω A α L ν}
    (run : setting.Run start beats system) : past beats system ∧ contract.Sound system := by
  induction run with
  | nil => exact ⟨first, initial⟩
  | beat run next ih =>
      obtain ⟨guaranteed, -, sound⟩ := ih.2.step next
      exact ⟨step _ _ _ _ ih.1 ih.2 next guaranteed sound, sound⟩
  | silent run next ih => exact ⟨silent _ _ _ ih.1 ih.2 next, ih.2.silent next⟩

/-- In every run, every beat gives its guarantee from a point where the invariant holds. -/
theorem sound {start : System σ ε ω A α L ν} (initial : contract.Sound start)
    {beats : List (Beat σ ε A α L ν)} {system : System σ ε ω A α L ν}
    (run : setting.Run start beats system) :
    (∀ beat ∈ beats, contract.guar beat.label beat.opening beat.after beat.stop ∧
      contract.inv beat.opening.before) ∧ contract.Sound system := by
  induction run with
  | nil => exact ⟨fun beat member => (List.not_mem_nil member).elim, initial⟩
  | beat run next ih =>
      obtain ⟨guaranteed, holds, sound⟩ := ih.2.step next
      refine ⟨fun beat member => ?_, sound⟩
      rcases List.mem_append.1 member with member | member
      · exact ih.1 beat member
      · rw [List.mem_singleton.1 member]
        exact ⟨guaranteed, holds⟩
  | silent run next ih => exact ⟨ih.1, ih.2.silent next⟩

end Contract

/-! ### Schedules -/

/-- A choice of a schedule: a task is started, or the query of the task at an index is answered. -/
inductive Choice (L : Type) where
  | start (label : L)
  | answer (index : Nat)

namespace System

variable (setting : Setting σ ε ω A α L ν) (free : L → L → Bool)
  (serve : Nat → (query : Q) → ν → A query × ν)

/-- What a choice makes of a system, where it is possible. -/
def choose (system : System σ ε ω A α L ν) :
    Choice L → Option (Beat σ ε A α L ν × System σ ε ω A α L ν)
  | .start label =>
      if system.tasks.all fun task => !task.live || free task.label label then
        let beat := Beat.run system.next label ⟨none, system.point⟩ (setting.code label)
          system.point.2
        some (beat, ⟨beat.after,
          system.tasks ++ [.advance system.next label (setting.code label) system.point.1],
          system.next + 1⟩)
      else none
  | .answer index =>
      match system.tasks[index]? with
      | some ⟨ticket, label, .await query rest⟩ =>
          let served := serve ticket query system.point.2
          let beat := Beat.run ticket label ⟨some ⟨query, served.1⟩, system.point⟩ (rest served.1)
            served.2
          some (beat, ⟨beat.after, system.tasks.take index ++
            .advance ticket label (rest served.1) system.point.1 :: system.tasks.drop (index + 1),
            system.next⟩)
      | _ => none

/-- The run of a schedule, up to the first choice that is impossible. -/
def play : List (Choice L) → System σ ε ω A α L ν →
    List (Beat σ ε A α L ν) × System σ ε ω A α L ν
  | [], system => ([], system)
  | choice :: choices, system =>
      match system.choose setting free serve choice with
      | none => ([], system)
      | some (beat, system') =>
          let (beats, last) := play choices system'
          (beat :: beats, last)

variable {setting free serve}

theorem step_of_choose (mayOverlap : ∀ first second, free first second = true →
      setting.overlap first second)
    (serves : ∀ ticket query world, setting.answers ticket query world
      (serve ticket query world).1 (serve ticket query world).2)
    {system system' : System σ ε ω A α L ν} {choice : Choice L} {beat : Beat σ ε A α L ν}
    (chosen : system.choose setting free serve choice = some (beat, system')) :
    setting.Step system beat system' := by
  cases choice with
  | start label =>
      unfold choose at chosen
      dsimp only at chosen
      split at chosen
      · rename_i isFree
        cases chosen
        refine .spawn label fun task member live => mayOverlap _ _ ?_
        have checked := List.all_eq_true.1 isFree task member
        simpa [live] using checked
      · cases chosen
  | answer index =>
      unfold choose at chosen
      dsimp only at chosen
      split at chosen
      · rename_i ticket label query rest isTask
        cases chosen
        obtain ⟨point, tasks, next⟩ := system
        have split : tasks = tasks.take index ++ ⟨ticket, label, .await query rest⟩ ::
            tasks.drop (index + 1) := by
          obtain ⟨bound, isAt⟩ := List.getElem?_eq_some_iff.1 isTask
          rw [← isAt, List.getElem_cons_drop, List.take_append_drop]
        have step := @Setting.Step.resume σ ε ω Q A α L ν _ setting point (tasks.take index)
          (tasks.drop (index + 1)) next ticket label query rest
          (serve ticket query point.2).1 (serve ticket query point.2).2 (serves _ _ _)
        rw [← split] at step
        exact step
      · cases chosen

/-- What a schedule plays is a run. -/
theorem run_of_play (mayOverlap : ∀ first second, free first second = true →
      setting.overlap first second)
    (serves : ∀ ticket query world, setting.answers ticket query world
      (serve ticket query world).1 (serve ticket query world).2)
    (choices : List (Choice L)) {start system : System σ ε ω A α L ν}
    {beats : List (Beat σ ε A α L ν)} (run : setting.Run start beats system) :
    setting.Run start (beats ++ (system.play setting free serve choices).1)
      (system.play setting free serve choices).2 := by
  induction choices generalizing beats system with
  | nil =>
      rw [play, List.append_nil]
      exact run
  | cons choice choices ih =>
      unfold play
      cases chosen : system.choose setting free serve choice with
      | none =>
          dsimp only
          rw [List.append_nil]
          exact run
      | some made =>
          obtain ⟨beat, system'⟩ := made
          have rest := ih (run.beat (step_of_choose mayOverlap serves chosen))
          rw [List.append_assoc] at rest
          exact rest

end System

end Coroutine
