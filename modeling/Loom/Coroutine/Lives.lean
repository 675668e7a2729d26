import Loom.Coroutine.History
import Mathlib.Algebra.GroupWithZero.Nat

/-!
# Interleavings with restarts

A `Life` is an interleaving in which the process may stop at any await and start again: the
suspended coroutines are lost, and the state becomes what `restarts` allows.  `permits` says when a
coroutine may start.

`Prog.Metered` bounds the weight of the writes that a program makes on any path, and `Prog.Yields`
says which writes precede the value it returns.  `Life.spent_le_one` and `Life.yields` lift them to
lives.
-/

namespace Coroutine

variable {σ ε ω Q : Type} {A : Q → Type} {α β : Type}

namespace Prog

/-- The program is over. -/
def isOver (program : Prog σ ε ω A α) : Bool :=
  match program with
  | .ret _ | .raise _ => true
  | .read _ | .write _ _ | .await _ _ => false

/-! ### Bounded writes -/

/-- The weight of a list of writes. -/
def total (weight : ω → Nat) (updates : List ω) : Nat := (updates.map weight).sum

/-- On every path the writes of the program have at most this weight. -/
def Metered (weight : ω → Nat) : Prog σ ε ω A α → Nat → Prop
  | .ret _, _ => True
  | .raise _, _ => True
  | .read next, limit => ∀ state, Metered weight (next state) limit
  | .write update next, limit =>
      weight update ≤ limit ∧ Metered weight next (limit - weight update)
  | .await _ next, limit => ∀ answer, Metered weight (next answer) limit

namespace Metered

variable {weight : ω → Nat}

theorem of_isOver {program : Prog σ ε ω A α} (finished : program.isOver) (limit : Nat) :
    Metered weight program limit := by
  cases program with
  | ret value => trivial
  | raise error => trivial
  | read next => cases finished
  | write update next => cases finished
  | await query next => cases finished

theorem mono {program : Prog σ ε ω A α} {limit more : Nat}
    (metered : Metered weight program limit) (le : limit ≤ more) :
    Metered weight program more := by
  induction program generalizing limit more with
  | ret value => trivial
  | raise error => trivial
  | read next ih => exact fun state => ih state (metered state) le
  | write update next ih =>
      exact ⟨Nat.le_trans metered.1 le, ih metered.2 (Nat.sub_le_sub_right le _)⟩
  | await query next ih => exact fun answer => ih answer (metered answer) le

theorem bind {program : Prog σ ε ω A α} {rest : α → Prog σ ε ω A β} {limit more : Nat}
    (first : Metered weight program limit) (second : ∀ value, Metered weight (rest value) more) :
    Metered weight (program.bind rest) (limit + more) := by
  induction program generalizing limit with
  | ret value => exact (second value).mono (Nat.le_add_left _ _)
  | raise error => trivial
  | read next ih => exact fun state => ih state (first state)
  | write update next ih =>
      refine ⟨Nat.le_trans first.1 (Nat.le_add_right _ _), ?_⟩
      rw [Nat.sub_add_comm first.1]
      exact ih first.2
  | await query next ih => exact fun answer => ih answer (first answer)

theorem map {program : Prog σ ε ω A α} {limit : Nat} (metered : Metered weight program limit)
    (change : α → β) : Metered weight (program.map change) limit := by
  have ends : ∀ value, Metered weight (.ret (change value) : Prog σ ε ω A β) 0 :=
    fun _ => trivial
  exact metered.bind ends

/-- Programs whose writes have no weight. -/
theorem of_only {queries : Q → Prop} {program : Prog σ ε ω A α} (limit : Nat)
    (only : Only (fun update => weight update = 0) queries program) :
    Metered weight program limit := by
  induction program with
  | ret value => trivial
  | raise error => trivial
  | read next ih => exact fun state => ih state (only state)
  | write update next ih =>
      refine ⟨le_of_eq_of_le only.1 (Nat.zero_le _), ?_⟩
      rw [only.1, Nat.sub_zero]
      exact ih only.2
  | await query next ih => exact fun answer => ih answer (only.2 answer)

/-- A first part whose writes have no weight. -/
theorem bind_only {queries : Q → Prop} {program : Prog σ ε ω A α} {rest : α → Prog σ ε ω A β}
    {limit : Nat} (only : Only (fun update => weight update = 0) queries program)
    (second : ∀ value, Metered weight (rest value) limit) :
    Metered weight (program.bind rest) limit := by
  rw [← Nat.zero_add limit]
  exact bind (of_only 0 only) second

/-- What a segment leaves of the weight. -/
theorem segment [Update ω σ] {program : Prog σ ε ω A α} {limit : Nat}
    (metered : Metered weight program limit) (state : σ) :
    total weight (program.writes state) ≤ limit ∧
      Metered weight (program.residue state) (limit - total weight (program.writes state)) := by
  induction program generalizing limit state with
  | ret value => exact ⟨Nat.zero_le _, trivial⟩
  | raise error => exact ⟨Nat.zero_le _, trivial⟩
  | read next ih => exact ih state (metered state) state
  | write update next ih =>
      obtain ⟨le, rest⟩ := ih metered.2 (apply update state)
      have here : total weight ((Prog.write update next).writes state) =
          weight update + total weight (next.writes (apply update state)) := by
        simp [total, writes]
      have fits := metered.1
      refine ⟨by omega, ?_⟩
      rw [here, ← Nat.sub_sub]
      exact rest
  | await query next ih => exact ⟨Nat.zero_le _, metered⟩

end Metered

/-! ### Writes before a return -/

/-- Where the program returns a value, it has made a write that `event` relates to the value,
given the writes that were `done` before. -/
def Yields (event : ω → α → Prop) : Prog σ ε ω A α → (ω → Prop) → Prop
  | .ret value, done => ∃ update, done update ∧ event update value
  | .raise _, _ => True
  | .read next, done => ∀ state, Yields event (next state) done
  | .write update next, done => Yields event next fun other => done other ∨ other = update
  | .await _ next, done => ∀ answer, Yields event (next answer) done

namespace Yields

variable {event : ω → β → Prop}

theorem mono {program : Prog σ ε ω A β} {done more : ω → Prop}
    (yields : Yields event program done) (le : ∀ update, done update → more update) :
    Yields event program more := by
  induction program generalizing done more with
  | ret value =>
      obtain ⟨update, isDone, related⟩ := yields
      exact ⟨update, le update isDone, related⟩
  | raise error => trivial
  | read next ih => exact fun state => ih state (yields state) le
  | write update next ih => exact ih yields fun other isDone => isDone.imp_left (le other)
  | await query next ih => exact fun answer => ih answer (yields answer) le

/-- It is enough that the rest yields, whatever the first part has added. -/
theorem bind {rest : α → Prog σ ε ω A β} {done : ω → Prop} (program : Prog σ ε ω A α)
    (goes : ∀ value more, (∀ update, done update → more update) →
      Yields event (rest value) more) :
    Yields event (program.bind rest) done := by
  induction program generalizing done with
  | ret value => exact goes value done fun _ isDone => isDone
  | raise error => trivial
  | read next ih => exact fun state => ih state goes
  | write update next ih =>
      refine ih fun value more le => goes value more fun other isDone => ?_
      exact le other (.inl isDone)
  | await query next ih => exact fun answer => ih answer goes

theorem map {kind : ω → α → Prop} {program : Prog σ ε ω A α} {change : α → β} {done : ω → Prop}
    (yields : Yields kind program done)
    (implies : ∀ update value, kind update value → event update (change value)) :
    Yields event (program.map change) done := by
  induction program generalizing done with
  | ret value =>
      obtain ⟨update, isDone, related⟩ := yields
      exact ⟨update, isDone, implies update value related⟩
  | raise error => trivial
  | read next ih => exact fun state => ih state (yields state)
  | write update next ih => exact ih yields
  | await query next ih => exact fun answer => ih answer (yields answer)

theorem residue [Update ω σ] {program : Prog σ ε ω A β} {done : ω → Prop}
    (yields : Yields event program done) (state : σ) :
    Yields event (program.residue state) fun update =>
      done update ∨ update ∈ program.writes state := by
  induction program generalizing done state with
  | ret value => exact yields.mono fun update isDone => .inl isDone
  | raise error => trivial
  | read next ih => exact ih state (yields state) state
  | write update next ih =>
      refine (ih yields (apply update state)).mono fun other isDone => ?_
      simp only [writes, List.mem_cons]
      rwa [← or_assoc]
  | await query next ih => exact fun answer => (yields answer).mono fun _ isDone => .inl isDone

end Yields

theorem residue_of_returns [Update ω σ] {program : Prog σ ε ω A α} {state : σ} {value : α}
    (returns : program.stop state = .returns value) : program.residue state = .ret value := by
  induction program generalizing state with
  | ret other =>
      cases returns
      rfl
  | raise error => cases returns
  | read next ih => exact ih state returns
  | write update next ih => exact ih returns
  | await query next ih => cases returns

end Prog

/-! ### Lives -/

namespace Pool

variable {L : Type} [Update ω σ]

/-- An interleaving in which the process may restart at any time. -/
inductive Life (code : L → Prog σ ε ω A α) (ok : (query : Q) → A query → Prop)
    (ready : Q → σ → Prop)
    (permits : List (Segment σ ε ω Q α L) → Pool σ ε ω A α L → L → Prop)
    (restarts : List (Segment σ ε ω Q α L) → σ → σ → Prop) (start : σ) :
    List (Segment σ ε ω Q α L) → Pool σ ε ω A α L → Prop where
  | nil : Life code ok ready permits restarts start [] ⟨start, []⟩
  | step {segments : List (Segment σ ε ω Q α L)} {pool pool' : Pool σ ε ω A α L}
      {segment : Segment σ ε ω Q α L}
      (life : Life code ok ready permits restarts start segments pool)
      (next : Step code ok ready pool segment pool')
      (permitted : segment.origin.query = none → permits segments pool segment.label) :
      Life code ok ready permits restarts start (segments ++ [segment]) pool'
  | restart {segments : List (Segment σ ε ω Q α L)} {pool : Pool σ ε ω A α L} {state : σ}
      (life : Life code ok ready permits restarts start segments pool)
      (restarted : restarts segments pool.state state) :
      Life code ok ready permits restarts start segments ⟨state, []⟩

variable {code : L → Prog σ ε ω A α} {ok : (query : Q) → A query → Prop}
variable {ready : Q → σ → Prop}
variable {permits : List (Segment σ ε ω Q α L) → Pool σ ε ω A α L → L → Prop}
variable {restarts : List (Segment σ ε ω Q α L) → σ → σ → Prop} {start : σ}
variable {segments : List (Segment σ ε ω Q α L)} {pool : Pool σ ε ω A α L}

/-- A description that stands under all interference holds of every segment of a life. -/
theorem Life.described {block : L → Origin σ Q → List ω → Stop ε Q α → Prop}
    (does : ∀ label state,
      (code label).Does ok (fun _ _ => True) (block label) ⟨none, state⟩ [])
    (life : Life code ok ready permits restarts start segments pool) :
    ∀ segment ∈ segments, block segment.label segment.origin segment.made segment.stop := by
  suffices all : Described ok (fun _ _ => True) block pool ∧ ∀ segment ∈ segments,
      block segment.label segment.origin segment.made segment.stop from all.2
  induction life with
  | nil => exact ⟨fun thread member => by simp at member, fun segment member => by simp at member⟩
  | step life next permitted ih =>
      obtain ⟨here, described⟩ := next.described (fun _ => trivial) (fun _ _ _ _ _ => trivial) does
        ih.1 fun _ => trivial
      refine ⟨described, fun segment member => ?_⟩
      rcases List.mem_append.1 member with member | member
      · exact ih.2 segment member
      · rw [List.mem_singleton.1 member]
        exact here
  | restart life restarted ih => exact ⟨fun thread member => by simp at member, ih.2⟩

/-- What a life was like before one of its segments. -/
theorem Life.before (life : Life code ok ready permits restarts start segments pool) :
    ∀ {earlier later : List (Segment σ ε ω Q α L)} {segment : Segment σ ε ω Q α L},
      segments = earlier ++ segment :: later → ∃ pool pool',
        Life code ok ready permits restarts start earlier pool ∧
        Step code ok ready pool segment pool' ∧
        (segment.origin.query = none → permits earlier pool segment.label) := by
  induction life with
  | nil =>
      intro earlier later segment parts
      simp at parts
  | @step segments pool pool' last life next permitted ih =>
      intro earlier later segment parts
      rcases List.eq_nil_or_concat later with rfl | ⟨more, final, rfl⟩
      · obtain ⟨rfl, same⟩ := List.append_inj' parts rfl
        cases same
        exact ⟨pool, pool', life, next, permitted⟩
      · have regrouped : segments ++ [last] = (earlier ++ segment :: more) ++ [final] := by
          simpa using parts
        exact ih (List.append_inj' regrouped rfl).1
  | restart life restarted ih => exact ih

/-- What holds at the start and after every step and restart holds at all times. -/
theorem Life.induct {holds : List (Segment σ ε ω Q α L) → σ → Prop} (initial : holds [] start)
    (step : ∀ segments segment, holds segments segment.origin.start →
      holds (segments ++ [segment]) segment.final)
    (restart : ∀ segments state state', restarts segments state state' → holds segments state →
      holds segments state')
    (life : Life code ok ready permits restarts start segments pool) :
    holds segments pool.state := by
  induction life with
  | nil => exact initial
  | step life next permitted ih =>
      rw [← next.final_eq]
      refine step _ _ ?_
      rw [next.start_eq]
      exact ih
  | restart life restarted ih => exact restart _ _ _ restarted ih

/-- A value that a resumed coroutine returns was preceded by a write of that coroutine's label. -/
theorem Life.yields {counts : L → Bool} {event : L → ω → α → Prop}
    (first : ∀ label, counts label → ∀ state, ((code label).residue state).isOver ∨
      ((code label).residue state).Yields (event label) fun update =>
        update ∈ (code label).writes state)
    (life : Life code ok ready permits restarts start segments pool) :
    ∀ segment ∈ segments, counts segment.label → ∀ value, segment.stop = .returns value →
      segment.origin.query ≠ none → ∃ other ∈ segments, other.label = segment.label ∧
        ∃ update ∈ other.made, event segment.label update value := by
  suffices both : (∀ thread ∈ pool.threads, counts thread.label → thread.rest.isOver ∨
        thread.rest.Yields (event thread.label) fun update =>
          ∃ other ∈ segments, other.label = thread.label ∧ update ∈ other.made) ∧
      ∀ segment ∈ segments, counts segment.label → ∀ value, segment.stop = .returns value →
        segment.origin.query ≠ none → ∃ other ∈ segments, other.label = segment.label ∧
          ∃ update ∈ other.made, event segment.label update value from both.2
  induction life with
  | nil => exact ⟨fun thread member => by simp at member, fun segment member => by simp at member⟩
  | restart life restarted ih => exact ⟨fun thread member => by simp at member, ih.2⟩
  | @step segments pool pool' last life next permitted ih =>
      obtain ⟨threads, earlier⟩ := ih
      have keeps : ∀ thread : Thread σ ε ω A α L, (thread.rest.isOver ∨
            thread.rest.Yields (event thread.label) fun update =>
              ∃ other ∈ segments, other.label = thread.label ∧ update ∈ other.made) →
          thread.rest.isOver ∨ thread.rest.Yields (event thread.label) fun update =>
            ∃ other ∈ segments ++ [last], other.label = thread.label ∧ update ∈ other.made := by
        intro thread known
        refine known.imp_right fun yields => yields.mono ?_
        rintro update ⟨other, member, same⟩
        exact ⟨other, List.mem_append_left _ member, same⟩
      have still : ∀ segment ∈ segments, counts segment.label → ∀ value,
          segment.stop = .returns value → segment.origin.query ≠ none →
            ∃ other ∈ segments ++ [last], other.label = segment.label ∧
              ∃ update ∈ other.made, event segment.label update value := by
        intro segment member counted value returns resumed
        obtain ⟨other, isOther, same⟩ := earlier segment member counted value returns resumed
        exact ⟨other, List.mem_append_left _ isOther, same⟩
      cases next with
      | spawn label =>
          constructor
          · intro thread member counted
            rcases List.mem_append.1 member with member | member
            · exact keeps thread (threads thread member counted)
            · rw [List.mem_singleton.1 member] at counted ⊢
              refine (first label counted _).imp_right fun yields => yields.mono ?_
              intro update isWrite
              exact ⟨_, List.mem_append_right _ (List.mem_singleton_self _), rfl, isWrite⟩
          · intro segment member counted value returns resumed
            rcases List.mem_append.1 member with member | member
            · exact still segment member counted value returns resumed
            · rw [List.mem_singleton.1 member] at resumed
              exact (resumed rfl).elim
      | @resume state before after label query rest answer allowed isReady =>
          have mine : counts label → (rest answer |>.residue state).Yields (event label)
            fun update =>
              ∃ other ∈ segments ++ [⟨label, ⟨some query, state⟩, (rest answer).writes state,
                (rest answer).stop state⟩], other.label = label ∧ update ∈ other.made := by
            intro counted
            have yields : (rest answer).Yields (event label) fun update =>
                ∃ other ∈ segments, other.label = label ∧ update ∈ other.made := by
              rcases threads ⟨label, .await query rest⟩ (by simp) counted with finished | yields
              · cases finished
              · exact yields answer
            refine (yields.residue state).mono fun update isDone => ?_
            rcases isDone with ⟨other, member, same⟩ | isWrite
            · exact ⟨other, List.mem_append_left _ member, same⟩
            · exact ⟨_, List.mem_append_right _ (List.mem_singleton_self _), rfl, isWrite⟩
          constructor
          · intro thread member counted
            rcases List.mem_append.1 member with member | member
            · exact keeps thread (threads thread (List.mem_append_left _ member) counted)
            · rcases List.mem_cons.1 member with rfl | member
              · exact .inr (mine counted)
              · exact keeps thread (threads thread
                  (List.mem_append_right _ (List.mem_cons_of_mem _ member)) counted)
          · intro segment member counted value returns resumed
            rcases List.mem_append.1 member with member | member
            · exact still segment member counted value returns resumed
            · rw [List.mem_singleton.1 member] at counted returns ⊢
              have done := mine counted
              rw [Prog.residue_of_returns returns] at done
              obtain ⟨update, ⟨other, isOther, same, made⟩, related⟩ := done
              exact ⟨other, isOther, same, update, made, related⟩

/-! ### At most once -/

/-- The weight of the writes that segments of counted labels have made. -/
def spent (weight : ω → Nat) (counts : L → Bool) (segments : List (Segment σ ε ω Q α L)) : Nat :=
  ((segments.filter fun segment => counts segment.label).map fun segment =>
    Prog.total weight segment.made).sum

omit [Update ω σ] in
theorem spent_append (weight : ω → Nat) (counts : L → Bool)
    (segments : List (Segment σ ε ω Q α L)) (last : Segment σ ε ω Q α L) :
    spent weight counts (segments ++ [last]) = spent weight counts segments +
      if counts last.label then Prog.total weight last.made else 0 := by
  unfold spent
  rw [List.filter_append, List.map_append, List.sum_append, List.filter_cons, List.filter_nil]
  split
  · simp
  · simp

section Once

variable (weight : ω → Nat) (counts : L → Bool)

open Classical in
/-- What a coroutine may still write. -/
noncomputable def cost (thread : Thread σ ε ω A α L) : Nat :=
  if counts thread.label ∧ ¬thread.rest.Metered weight 0 then 1 else 0

variable {weight counts}

omit [Update ω σ] in
theorem cost_of_isOver {thread : Thread σ ε ω A α L}
    (finished : counts thread.label → thread.rest.isOver) : cost weight counts thread = 0 := by
  unfold cost
  rw [if_neg]
  rintro ⟨counted, unbounded⟩
  exact unbounded (.of_isOver (finished counted) 0)

omit [Update ω σ] in
/-- A counted coroutine keeps to its cost. -/
theorem metered_cost {thread : Thread σ ε ω A α L} (counted : counts thread.label)
    (metered : thread.rest.Metered weight 1) :
    thread.rest.Metered weight (cost weight counts thread) := by
  unfold cost
  split
  · exact metered
  · rename_i bounded
    refine Classical.byContradiction fun unbounded => ?_
    exact bounded ⟨counted, unbounded⟩

/-- A segment is paid for by the cost of its coroutine. -/
theorem cost_segment {program : Prog σ ε ω A α} {limit : Nat}
    (metered : program.Metered weight limit) (label : L) (state : σ) :
    Prog.total weight (program.writes state) +
      cost weight counts ⟨label, program.residue state⟩ ≤ limit := by
  obtain ⟨le, rest⟩ := metered.segment state
  unfold cost
  split
  · rename_i unbounded
    have some : limit - Prog.total weight (program.writes state) ≠ 0 := by
      intro none
      rw [none] at rest
      exact unbounded.2 rest
    omega
  · omega

/-- If counted coroutines write at most once, and start only where nothing was written and no
other one is suspended, or where they end at once without a write, then at most one write is
made in a life. -/
theorem Life.spent_le_one (metered : ∀ label, counts label → (code label).Metered weight 1)
    (permitted : ∀ segments pool label, permits segments pool label → counts label →
      (Prog.total weight ((code label).writes pool.state) = 0 ∧
        ((code label).residue pool.state).isOver) ∨
      (spent weight counts segments = 0 ∧
        ∀ thread ∈ pool.threads, counts thread.label → thread.rest.isOver))
    (life : Life code ok ready permits restarts start segments pool) :
    spent weight counts segments ≤ 1 := by
  suffices both : (∀ thread ∈ pool.threads, counts thread.label → thread.rest.Metered weight 1) ∧
      spent weight counts segments + (pool.threads.map (cost weight counts)).sum ≤ 1 by omega
  induction life with
  | nil => exact ⟨fun thread member => by simp at member, by simp [spent]⟩
  | restart life restarted ih =>
      refine ⟨fun thread member => by simp at member, ?_⟩
      have bound := ih.2
      simp only [List.map_nil, List.sum_nil]
      omega
  | @step segments pool pool' last life next allowed ih =>
      obtain ⟨threads, bound⟩ := ih
      cases next with
      | @spawn state others label =>
          rw [spent_append]
          simp only [List.map_append, List.sum_append, List.map_cons, List.map_nil, List.sum_cons,
            List.sum_nil]
          dsimp only at bound threads
          refine ⟨?_, ?_⟩
          · intro thread member counted
            rcases List.mem_append.1 member with member | member
            · exact threads thread member counted
            · rw [List.mem_singleton.1 member] at counted ⊢
              exact ((metered label counted).segment state).2.mono (Nat.sub_le _ _)
          · by_cases counted : counts label = true
            · rw [if_pos counted]
              rcases permitted _ _ _ (allowed rfl) counted with ⟨none, finished⟩ | ⟨none, finished⟩
              · dsimp only at none
                have free : cost weight counts ⟨label, (code label).residue state⟩ = 0 :=
                  cost_of_isOver fun _ => finished
                omega
              · have paid : _ + cost weight counts _ ≤ 1 :=
                  cost_segment (metered label counted) label state
                have free : (others.map (cost weight counts)).sum = 0 := by
                  refine List.sum_eq_zero_iff_forall_eq_nat.2 ?_
                  intro price isPrice
                  obtain ⟨thread, member, rfl⟩ := List.mem_map.1 isPrice
                  exact cost_of_isOver (finished thread member)
                omega
            · have free : cost weight counts ⟨label, (code label).residue state⟩ = 0 :=
                cost_of_isOver fun isCounted => (counted isCounted).elim
              rw [if_neg counted]
              omega
      | @resume state before after label query rest answer isAllowed isReady =>
          have old := threads ⟨label, .await query rest⟩ (by simp)
          rw [spent_append]
          simp only [List.map_append, List.sum_append, List.map_cons, List.sum_cons] at bound ⊢
          refine ⟨?_, ?_⟩
          · intro thread member counted
            rcases List.mem_append.1 member with member | member
            · exact threads thread (List.mem_append_left _ member) counted
            · rcases List.mem_cons.1 member with rfl | member
              · exact ((old counted answer).segment state).2.mono (Nat.sub_le _ _)
              · exact threads thread (List.mem_append_right _ (List.mem_cons_of_mem _ member))
                  counted
          · by_cases counted : counts label = true
            · rw [if_pos counted]
              have paid : _ + cost weight counts _ ≤ _ :=
                cost_segment (metered_cost counted (old counted) answer) label state
              omega
            · have free : cost weight counts ⟨label, (rest answer).residue state⟩ = 0 :=
                cost_of_isOver fun isCounted => (counted isCounted).elim
              rw [if_neg counted]
              omega

end Once

/-! ### Schedules -/

/-- Perform a schedule whose coroutines are permitted to start. -/
def Life.play (code : L → Prog σ ε ω A α) (ready : Q → σ → Bool)
    (permits : List (Segment σ ε ω Q α L) → Pool σ ε ω A α L → L → Bool) :
    List (Action A L) → List (Segment σ ε ω Q α L) → Pool σ ε ω A α L →
      Option (List (Segment σ ε ω Q α L) × Pool σ ε ω A α L)
  | [], segments, pool => some (segments, pool)
  | action :: actions, segments, pool =>
      match act code ready pool action with
      | none => none
      | some (segment, next) =>
          if segment.origin.query.isSome || permits segments pool segment.label then
            play code ready permits actions (segments ++ [segment]) next
          else none

/-- What `play` performs is a life. -/
theorem Life.of_play {ready : Q → σ → Bool}
    {permits : List (Segment σ ε ω Q α L) → Pool σ ε ω A α L → L → Bool}
    (actions : List (Action A L)) :
    ∀ {segments segments' : List (Segment σ ε ω Q α L)} {pool pool' : Pool σ ε ω A α L},
      Life code (fun _ _ => True) (fun query state => ready query state)
        (fun segments pool label => permits segments pool label) restarts start segments pool →
      Life.play code ready permits actions segments pool = some (segments', pool') →
      Life code (fun _ _ => True) (fun query state => ready query state)
        (fun segments pool label => permits segments pool label) restarts start segments'
        pool' := by
  induction actions with
  | nil =>
      intro segments segments' pool pool' life played
      cases played
      exact life
  | cons action actions ih =>
      intro segments segments' pool pool' life played
      unfold Life.play at played
      split at played
      · cases played
      · rename_i segment next acted
        split at played
        · rename_i permitted
          refine ih (life.step (act_step acted) fun first => ?_) played
          simpa [first] using permitted
        · cases played

end Pool

end Coroutine
