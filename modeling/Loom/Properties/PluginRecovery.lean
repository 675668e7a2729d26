import Loom.Coroutine.Obeys
import Loom.Slave.RuntimePlugins
import Mathlib.Data.List.Induction

/-!
# What a restarted plugin process is told

After a restart the client replays the activations of the last `reconcile`, and nothing where there
are none: the process is then told the empty list.  `ledger` is the desired state of every package
coordinate by the commands that Slave Core has issued.  Only `reconcile` writes the replayed list,
so the two agree in the runs in which `provision` and `deprovision` ask for what the list says
already, and `reconcile` leaves out no coordinate of an earlier command.
-/

namespace Loom

open Coroutine

/-- The commands of Slave Core to a plugin. -/
inductive HostCall where
  | provision (package : CapabilityPackageVersion) (command : CapabilityProvisionCommand)
  | invoke (package : CapabilityPackageVersion) (capabilityExport : CapabilityExport)
      (payload : Json) (activation : Dict) (attemptId : String) (deadlineSeconds : Option ℚ)
  | inspect (activation : Dict)
  | deprovision (command : CapabilityDeprovisionCommand)
  | reconcile (activations : List Dict)

def HostCall.program : HostCall → ProcessOp Dict
  | .provision package command => ProcessOp.provision package command
  | .invoke package capabilityExport payload activation attemptId deadlineSeconds =>
      ProcessOp.invoke package capabilityExport payload activation attemptId deadlineSeconds
  | .inspect activation => ProcessOp.inspect activation
  | .deprovision command => ProcessOp.deprovision command
  | .reconcile activations => ProcessOp.reconcile activations

/-- The desired state that a list of activations gives a package coordinate: entries are handled in
their order, so the last one counts. -/
def given (activations : List Dict) (packageVersionRef : String) : Option Json :=
  (activations.reverse.find? fun activation =>
    Dict.get activation "package_version_ref" = .str packageVersionRef).map fun activation =>
      Dict.get activation "desired_state"

/-- What a call says of the desired state of a coordinate. -/
def HostCall.desired (call : HostCall) (packageVersionRef : String) : Option Json :=
  match call with
  | .provision _ command =>
      if command.packageVersionRef = packageVersionRef then some (.str "running") else none
  | .deprovision command =>
      if command.packageVersionRef = packageVersionRef then some (.str "stopped") else none
  | .reconcile activations => given activations packageVersionRef
  | .invoke _ _ _ _ _ _ | .inspect _ => none

/-- The desired state of a coordinate by the last command that names it. -/
def ledger (calls : List HostCall) (packageVersionRef : String) : Option Json :=
  calls.foldl (fun known call => (call.desired packageVersionRef).or known) none

/-- The activations of the last `reconcile`. -/
def lastReconciled (calls : List HostCall) : List Dict :=
  calls.foldl (fun known call =>
    match call with
    | .reconcile activations => activations
    | _ => known) []

/-- A call keeps the last reconciled list current. -/
def HostCall.Keeps (calls : List HostCall) : HostCall → Prop
  | .provision _ command =>
      given (lastReconciled calls) command.packageVersionRef = some (.str "running")
  | .deprovision command =>
      given (lastReconciled calls) command.packageVersionRef = some (.str "stopped")
  | .reconcile activations =>
      ∀ packageVersionRef, (ledger calls packageVersionRef).isSome →
        (given activations packageVersionRef).isSome
  | .invoke _ _ _ _ _ _ | .inspect _ => True

/-- A list of activations that a restarted process was told, and the commands issued until then. -/
structure Replay where
  issued : List HostCall
  activations : List Dict

def replayed : Exchange ProcessAnswer → Option (List Dict)
  | ⟨.replay activations, _⟩ => some activations
  | _ => none

/-- The exchange starts a process. -/
def isLaunch : Exchange ProcessAnswer → Bool
  | ⟨.launch, _⟩ => true
  | _ => false

/-- The exchange is the request of a call. -/
def isRequest : Exchange ProcessAnswer → Bool
  | ⟨.request _, _⟩ => true
  | _ => false

/-- What a process that a call has started was told: a list that was replayed, or the empty one
where the request of the call was sent without any. -/
def told (trace : List (Exchange ProcessAnswer)) : List (List Dict) :=
  if trace.any isLaunch = true ∧ trace.any isRequest = true ∧ trace.filterMap replayed = []
    then [[]]
  else trace.filterMap replayed

/-- The runs of a client: calls one after the other, with the replays that they have caused. -/
inductive PluginHistory : List HostCall → ProcessClient → List Replay → Prop where
  | nil (isOpen : Bool) : PluginHistory [] { isOpen } []
  | call {calls : List HostCall} {client client' : ProcessClient} {replays : List Replay}
      (history : PluginHistory calls client replays) (call : HostCall)
      {trace : List (Exchange ProcessAnswer)} {result : Except Exc Dict}
      (runs : call.program.traced.Runs (fun _ _ => True) (client, []) (client', trace) result) :
      PluginHistory (calls ++ [call]) client'
        (replays ++ (told trace).map fun activations => ⟨calls ++ [call], activations⟩)

/-! ### Calls -/

/-- A query replays only these activations. -/
def Replays (activations : List Dict) (query : ProcessQuery) : Prop :=
  ∀ sent, query = .replay sent → sent = activations ∧ activations ≠ []

/-- The program keeps the desired activations, and replays nothing else. -/
abbrev Tells {α : Type} (activations : List Dict) (program : ProcessOp α) : Prop :=
  program.Within ProcessClient.desiredActivations activations (Replays activations)

section Tells

variable (activations : List Dict)

theorem close_tells : Tells activations ProcessOp.close :=
  ⟨fun _ same => same, fun _ same => (by cases same), fun _ => trivial⟩

theorem isAlive_tells : Tells activations ProcessOp.isAlive := by
  intro client _
  change Prog.Within _ _ _ (if _ then _ else _)
  split
  · exact ⟨fun _ same => (by cases same), fun _ => trivial⟩
  · trivial

theorem start_tells : Tells activations ProcessOp.start := by
  refine .bind ?_ fun _ => ?_
  · intro client _
    change Prog.Within _ _ _ (if _ then _ else _)
    split
    · exact close_tells activations
    · trivial
  · refine ⟨fun _ same => (by cases same), fun answer => ?_⟩
    cases answer with
    | ok value => exact ⟨fun _ same => same, fun _ same => same, trivial⟩
    | error error => trivial

theorem concludeRequest_tells (answer : Except RequestTrouble Dict) :
    Tells activations (ProcessOp.concludeRequest answer) := by
  cases answer with
  | ok result => trivial
  | error trouble =>
      cases trouble with
      | timeout => trivial
      | broken code => exact .bind (close_tells activations) fun _ => trivial
      | refused code => trivial
      | raised error => trivial

theorem requestOnce_tells (request : PluginRequest) :
    Tells activations (ProcessOp.requestOnce request) := by
  refine .bind (isAlive_tells activations) fun alive => .bind (.guard _ _) fun _ => ?_
  exact ⟨fun _ same => (by cases same), concludeRequest_tells activations⟩

theorem replayOnce_tells (inhabited : activations ≠ []) :
    Tells activations (ProcessOp.replayOnce activations) := by
  refine .bind (isAlive_tells activations) fun alive => .bind (.guard _ _) fun _ => ?_
  exact ⟨fun _ same => ⟨(ProcessQuery.replay.inj same).symm, inhabited⟩,
    concludeRequest_tells activations⟩

theorem replayDesired_tells : Tells activations ProcessOp.replayDesired := by
  rintro client rfl
  change Prog.Within _ _ _ (if _ then _ else _)
  split
  · trivial
  · rename_i inhabited
    refine .bind (.attempt (replayOnce_tells _ inhabited)) fun outcome => ?_
    cases outcome with
    | ok result => trivial
    | error error =>
        dsimp only
        split
        · exact .bind (close_tells _) fun _ => trivial
        · trivial

theorem restartIfNeeded_tells : Tells activations ProcessOp.restartIfNeeded := by
  refine .bind (isAlive_tells activations) fun alive => ?_
  split
  · trivial
  · intro client _
    refine ⟨fun _ same => same, fun _ same => (by cases same), fun _ => ?_⟩
    refine .bind (.attempt (start_tells activations)) fun outcome => ?_
    cases outcome with
    | ok value => exact replayDesired_tells activations
    | error error =>
        dsimp only
        split
        · trivial
        · trivial

theorem request_tells (request : PluginRequest) :
    Tells activations (ProcessOp.request request) := by
  refine .bind (isAlive_tells activations) fun alive => ?_
  split
  · exact requestOnce_tells activations request
  · exact .bind (restartIfNeeded_tells activations) fun _ => requestOnce_tells activations request

end Tells

/-! ### Processes that are told no list -/

/-- The exchange neither starts a process nor asks it for anything. -/
def IsQuiet (query : ProcessQuery) : Prop :=
  query = .alive ∨ query = .shutdown ∨ ∃ attempt, query = .backoff attempt

/-- An open process that the call has started has been told a list, and has had no request. -/
structure Informed (client : ProcessClient) (trace : List (Exchange ProcessAnswer)) : Prop where
  lists : client.isOpen = true → trace.any isLaunch = true → trace.filterMap replayed ≠ []
  unasked : trace.any isRequest = false

/-- A request to a process that the call has started comes after a list. -/
def ListedFirst (trace : List (Exchange ProcessAnswer)) : Prop :=
  trace.any isLaunch = true → trace.any isRequest = true → trace.filterMap replayed ≠ []

theorem Informed.listed {client : ProcessClient} {trace : List (Exchange ProcessAnswer)}
    (informed : Informed client trace) : ListedFirst trace := by
  intro _ asked
  rw [informed.unasked] at asked
  cases asked

/-- Quiet exchanges start nothing, ask for nothing and replay nothing. -/
theorem quiet_trace {more : List (Exchange ProcessAnswer)}
    (quiet : ∀ exchange ∈ more, IsQuiet exchange.query) :
    more.any isLaunch = false ∧ more.any isRequest = false ∧ more.filterMap replayed = [] := by
  induction more with
  | nil => exact ⟨rfl, rfl, rfl⟩
  | cons exchange more ih =>
      obtain ⟨launch, request, lists⟩ := ih fun other isMem =>
        quiet other (List.mem_cons_of_mem _ isMem)
      obtain ⟨query, answer⟩ := exchange
      have isQuiet := quiet _ List.mem_cons_self
      rcases isQuiet with rfl | rfl | ⟨attempt, rfl⟩
      · exact ⟨launch, request, lists⟩
      · exact ⟨launch, request, lists⟩
      · exact ⟨launch, request, lists⟩

section Quiet

variable {client after : ProcessClient} {trace more : List (Exchange ProcessAnswer)}

theorem ListedFirst.append (listed : ListedFirst trace)
    (quiet : ∀ exchange ∈ more, IsQuiet exchange.query) :
    ListedFirst (trace ++ more) := by
  obtain ⟨launch, request, lists⟩ := quiet_trace quiet
  unfold ListedFirst
  rw [List.any_append, List.any_append, List.filterMap_append, launch, request, lists,
    Bool.or_false, Bool.or_false, List.append_nil]
  exact listed

theorem Informed.append (informed : Informed client trace)
    (quiet : ∀ exchange ∈ more, IsQuiet exchange.query)
    (opens : after.isOpen = true → client.isOpen = true) : Informed after (trace ++ more) := by
  obtain ⟨launch, request, lists⟩ := quiet_trace quiet
  refine ⟨?_, ?_⟩
  · rw [List.any_append, List.filterMap_append, launch, lists, Bool.or_false, List.append_nil]
    exact fun isOpen => informed.lists (opens isOpen)
  · rw [List.any_append, informed.unasked, request]
    rfl

end Quiet

section Requests

variable (client : ProcessClient) (trace : List (Exchange ProcessAnswer))

/-- `Prog.Ensures` of a traced program, whatever it is answered. -/
abbrev EndsWith {α : Type} (program : ProcessOp α)
    (post : ProcessClient → List (Exchange ProcessAnswer) → Except Exc α → Prop) : Prop :=
  program.traced.Ensures (fun _ _ => True) (client, trace) fun after result =>
    post after.1 after.2 result

/-- A check of the process keeps the client; it finds a process only where there is one. -/
theorem isAlive_leaves : EndsWith client trace ProcessOp.isAlive fun after trace' result =>
    after = client ∧ (∃ more, trace' = trace ++ more ∧ ∀ exchange ∈ more, IsQuiet exchange.query) ∧
      (result = .ok true → client.isOpen = true) := by
  change Prog.Ensures _ (Prog.traced (if _ then _ else _)) _ _
  split
  · rename_i isOpen
    intro answer _
    refine ⟨rfl, ⟨[⟨.alive, answer⟩], rfl, ?_⟩, fun _ => isOpen⟩
    intro exchange isMem
    obtain rfl := List.mem_singleton.1 isMem
    exact .inl rfl
  · refine ⟨rfl, ⟨[], (List.append_nil _).symm, ?_⟩, fun impossible => ?_⟩
    · intro exchange isMem
      cases isMem
    · cases impossible

/-- What is made of the answer of a process may only shut it down. -/
theorem concludeRequest_quiet (answer : Except RequestTrouble Dict) :
    (ProcessOp.concludeRequest answer).Keeps (fun _ => ()) IsQuiet := by
  cases answer with
  | ok result => trivial
  | error trouble =>
      cases trouble with
      | timeout => trivial
      | broken code => exact ⟨fun _ => rfl, .inr (.inl rfl), fun _ => trivial⟩
      | refused code => trivial
      | raised error => trivial

theorem closeOpen_leaves : EndsWith client trace ProcessOp.closeOpen fun after trace' result =>
    result = .ok () ∧ trace'.any isRequest = trace.any isRequest ∧ after.isOpen = false ∧
      after.desiredActivations = client.desiredActivations := by
  change Prog.Ensures _ (Prog.traced (if _ then _ else _)) _ _
  split
  · intro answer _
    refine ⟨rfl, ?_, rfl, rfl⟩
    change (trace ++ [(⟨.shutdown, answer⟩ : Exchange ProcessAnswer)]).any isRequest = _
    rw [List.any_append]
    exact Bool.or_false _
  · rename_i notOpen
    exact ⟨rfl, rfl, Bool.not_eq_true _ ▸ notOpen, rfl⟩

theorem start_leaves : EndsWith client trace ProcessOp.start fun after trace' result =>
    trace'.any isRequest = trace.any isRequest ∧
      after.desiredActivations = client.desiredActivations ∧
      ∀ error, result = .error error → after.isOpen = false := by
  refine .traced_bind ((closeOpen_leaves client trace).mono ?_)
  rintro ⟨after, trace'⟩ result ⟨rfl, unasked, isClosed, same⟩ answer _
  have stays : (trace' ++ [(⟨.launch, answer⟩ : Exchange ProcessAnswer)]).any isRequest =
      trace.any isRequest := by
    rw [List.any_append, ← unasked]
    exact Bool.or_false _
  cases answer with
  | ok value => exact ⟨stays, same, fun error impossible => by cases impossible⟩
  | error error => exact ⟨stays, same, fun _ _ => isClosed⟩

variable {client trace}

theorem requestOnce_leaves (request : PluginRequest) (informed : Informed client trace) :
    EndsWith client trace (ProcessOp.requestOnce request) fun _ trace' _ => ListedFirst trace' := by
  refine .traced_bind ((isAlive_leaves client trace).mono ?_)
  rintro ⟨after, trace'⟩ (error | alive) ⟨rfl, ⟨more, rfl, quiet⟩, opens⟩
  · exact (informed.append quiet id).listed
  · refine .traced_bind ?_
    rw [Prog.traced_guard]
    refine .guard (fun isAlive answer _ => ?_) fun _ => (informed.append quiet id).listed
    refine (concludeRequest_quiet answer).ensures after _ fun _ more' _ _ quiet' => ?_
    refine ListedFirst.append (fun launched _ => ?_) quiet'
    have isOpen := opens (congrArg Except.ok isAlive)
    rw [List.any_append] at launched
    rw [List.filterMap_append]
    have lists := (informed.append quiet id).lists isOpen ((Bool.or_false _).symm.trans launched)
    exact fun empty => lists (List.append_eq_nil_iff.1 empty).1

/-- A list that is sent is on record. -/
theorem replayOnce_leaves (activations : List Dict) (unasked : trace.any isRequest = false) :
    EndsWith client trace (ProcessOp.replayOnce activations) fun _ trace' result =>
      trace'.any isRequest = false ∧
        ∀ value, result = .ok value → trace'.filterMap replayed ≠ [] := by
  refine .traced_bind ((isAlive_leaves client trace).mono ?_)
  rintro ⟨after, trace'⟩ (error | alive) ⟨rfl, ⟨more, rfl, quiet⟩, opens⟩
  · refine ⟨?_, fun value impossible => by cases impossible⟩
    rw [List.any_append, unasked, (quiet_trace quiet).2.1]
    rfl
  · have still : (trace ++ more).any isRequest = false := by
      rw [List.any_append, unasked, (quiet_trace quiet).2.1]
      rfl
    refine .traced_bind ?_
    rw [Prog.traced_guard]
    refine .guard (fun _ answer _ => ?_) fun _ =>
      ⟨still, fun value impossible => by cases impossible⟩
    refine (concludeRequest_quiet answer).ensures after _ fun _ more' _ _ quiet' => ?_
    obtain ⟨-, request, lists⟩ := quiet_trace quiet'
    refine ⟨?_, fun _ _ => ?_⟩
    · rw [List.any_append, List.any_append, still, request]
      rfl
    · rw [List.filterMap_append, List.filterMap_append, lists, List.append_nil]
      exact List.append_ne_nil_of_right_ne_nil _ (List.cons_ne_nil _ _)

theorem replayDesired_leaves (inhabited : client.desiredActivations ≠ [])
    (unasked : trace.any isRequest = false) :
    EndsWith client trace ProcessOp.replayDesired fun _ trace' result =>
      trace'.any isRequest = false ∧ (result = .ok () → trace'.filterMap replayed ≠ []) := by
  change Prog.Ensures _ (Prog.traced (if _ then _ else _)) _ _
  rw [if_neg inhabited]
  refine .traced_bind ?_
  rw [Prog.traced_attempt]
  refine .attempt ((replayOnce_leaves client.desiredActivations unasked).mono ?_)
  rintro ⟨after, trace'⟩ (error | value) ⟨still, lists⟩
  · dsimp only
    split
    · intro answer _
      refine ⟨?_, fun impossible => by cases impossible⟩
      change (trace' ++ [_]).any isRequest = false
      rw [List.any_append, still]
      rfl
    · exact ⟨still, fun impossible => by cases impossible⟩
  · exact ⟨still, fun _ => lists value rfl⟩

/-- A restart informs the process that it starts. -/
theorem restartIfNeeded_leaves (inhabited : client.desiredActivations ≠ [])
    (informed : Informed client trace) :
    EndsWith client trace ProcessOp.restartIfNeeded fun after trace' result =>
      trace'.any isRequest = false ∧ (result = .ok () → Informed after trace') := by
  refine .traced_bind ((isAlive_leaves client trace).mono ?_)
  rintro ⟨after, trace'⟩ (error | alive) ⟨rfl, ⟨more, rfl, quiet⟩, -⟩
  · exact ⟨(informed.append quiet id).unasked, fun impossible => by cases impossible⟩
  · have still := (informed.append quiet id).unasked
    cases alive with
    | true => exact ⟨still, fun _ => informed.append quiet id⟩
    | false =>
        intro answer _
        refine .traced_bind ?_
        rw [Prog.traced_attempt]
        refine .attempt ((start_leaves _ _).mono ?_)
        rintro ⟨started, trace''⟩ (error | value) ⟨unasked, same, closed⟩
        · have isClosed := closed error rfl
          have noRequest : trace''.any isRequest = false := by
            rw [unasked, List.any_append]
            exact (Bool.or_false _).trans still
          dsimp only
          split
          · refine ⟨noRequest, fun _ => ⟨fun isOpen => ?_, noRequest⟩⟩
            rw [isClosed] at isOpen
            cases isOpen
          · exact ⟨noRequest, fun impossible => by cases impossible⟩
        · have noRequest : trace''.any isRequest = false := by
            rw [unasked, List.any_append]
            exact (Bool.or_false _).trans still
          refine (replayDesired_leaves (by rw [same]; exact inhabited) noRequest).mono ?_
          rintro ⟨last, final⟩ result ⟨noRequest', lists⟩
          exact ⟨noRequest', fun finished => ⟨fun _ _ => lists finished, noRequest'⟩⟩

/-- A call sends its request to a process that it has started only after a list, where there is one
to send. -/
theorem request_leaves (request : PluginRequest) (inhabited : client.desiredActivations ≠ []) :
    EndsWith client [] (ProcessOp.request request) fun _ trace' _ => ListedFirst trace' := by
  have informed : Informed client [] := by
    refine ⟨fun _ launched => ?_, rfl⟩
    cases launched
  refine .traced_bind ((isAlive_leaves client []).mono ?_)
  rintro ⟨after, trace'⟩ (error | alive) ⟨rfl, ⟨more, rfl, quiet⟩, -⟩
  · exact (informed.append quiet id).listed
  · cases alive with
    | true => exact requestOnce_leaves request (informed.append quiet id)
    | false =>
        refine .traced_bind ((restartIfNeeded_leaves inhabited (informed.append quiet id)).mono ?_)
        rintro ⟨restarted, trace''⟩ (error | value) ⟨unasked, informs⟩
        · intro _ asked
          rw [unasked] at asked
          cases asked
        · exact requestOnce_leaves request (informs rfl)

end Requests

/-- The list that a restart would replay once a call has been issued. -/
def HostCall.reconciled (activations : List Dict) : HostCall → List Dict
  | .reconcile activations => activations
  | _ => activations

theorem lastReconciled_append (calls : List HostCall) (call : HostCall) :
    lastReconciled (calls ++ [call]) = call.reconciled (lastReconciled calls) := by
  unfold lastReconciled
  rw [List.foldl_append]
  cases call <;> rfl

theorem ledger_append (calls : List HostCall) (call : HostCall) (packageVersionRef : String) :
    ledger (calls ++ [call]) packageVersionRef =
      (call.desired packageVersionRef).or (ledger calls packageVersionRef) := by
  unfold ledger
  rw [List.foldl_append]
  rfl

/-- What a call does with the desired activations, and what it tells the process that it starts. -/
theorem HostCall.tells {call : HostCall} {client client' : ProcessClient}
    {trace : List (Exchange ProcessAnswer)} {result : Except Exc Dict}
    (runs : call.program.traced.Runs (fun _ _ => True) (client, []) (client', trace) result) :
    client'.desiredActivations = call.reconciled client.desiredActivations ∧
      ∀ sent ∈ told trace, sent = call.reconciled client.desiredActivations := by
  have requested : ∀ {request : PluginRequest} {client : ProcessClient},
      (ProcessOp.request request).traced.Runs (fun _ _ => True) (client, []) (client', trace)
        result → client'.desiredActivations = client.desiredActivations ∧
          ∀ sent ∈ told trace, sent = client.desiredActivations := by
    intro request client runs
    obtain ⟨same, more, isTrace, each⟩ :=
      (request_tells client.desiredActivations request).runs rfl runs
    obtain rfl : trace = more := isTrace
    refine ⟨same, fun sent member => ?_⟩
    unfold told at member
    split at member
    · rename_i unlisted
      obtain rfl := List.mem_singleton.1 member
      by_contra inhabited
      exact (request_leaves request (Ne.symm inhabited)).runs runs unlisted.1 unlisted.2.1
        unlisted.2.2
    · obtain ⟨⟨query, answer⟩, isExchange, isReplay⟩ := List.mem_filterMap.1 member
      cases query with
      | replay activations =>
          cases isReplay
          exact (each _ isExchange sent rfl).1
      | _ => cases isReplay
  cases call with
  | reconcile activations =>
      cases runs with
      | write rest => exact requested rest
  | provision package command => exact requested runs
  | invoke package capabilityExport payload activation attemptId deadlineSeconds =>
      exact requested runs
  | inspect activation => exact requested runs
  | deprovision command => exact requested runs

/-- A request can find the process dead, and tell a new one the desired activations. -/
theorem request_replays (request : PluginRequest) (client : ProcessClient) :
    ∃ client' trace result, (ProcessOp.request request).traced.Runs (fun _ _ => True)
      (client, []) (client', trace) result ∧ client.desiredActivations ∈ told trace := by
  obtain ⟨isOpen, attempt, activations⟩ := client
  cases activations with
  | nil =>
      cases isOpen with
      | false =>
          refine ⟨⟨true, 0, []⟩, [⟨.backoff attempt, ()⟩, ⟨.launch, .ok ()⟩, ⟨.alive, true⟩,
            ⟨.request request, .ok []⟩], .ok [], ?_,
            by simp [told, isLaunch, isRequest, replayed]⟩
          refine .read (.read (.read (.write (.await () trivial (.write ?_)))))
          refine .read (.await (.ok ()) trivial (.write (.write (.write ?_))))
          refine .read (.read (.await true trivial (.write ?_)))
          exact .await (.ok []) trivial (.write .ret)
      | true =>
          refine ⟨⟨true, 0, []⟩, [⟨.alive, false⟩, ⟨.alive, false⟩, ⟨.backoff attempt, ()⟩,
            ⟨.shutdown, ()⟩, ⟨.launch, .ok ()⟩, ⟨.alive, true⟩, ⟨.request request, .ok []⟩],
            .ok [], ?_, by simp [told, isLaunch, isRequest, replayed]⟩
          refine .read (.await false trivial (.write ?_))
          refine .read (.await false trivial (.write ?_))
          refine .read (.write (.await () trivial (.write ?_)))
          refine .read (.write (.await () trivial (.write ?_)))
          refine .await (.ok ()) trivial (.write (.write (.write ?_)))
          refine .read (.read (.await true trivial (.write ?_)))
          exact .await (.ok []) trivial (.write .ret)
  | cons first rest =>
      cases isOpen with
      | false =>
          refine ⟨⟨true, 0, first :: rest⟩, [⟨.backoff attempt, ()⟩, ⟨.launch, .ok ()⟩,
            ⟨.alive, true⟩, ⟨.replay (first :: rest), .ok []⟩, ⟨.alive, false⟩],
            .error (runtimeError "runtime_plugin_unavailable"), ?_, by simp [told, replayed]⟩
          refine .read (.read (.read (.write (.await () trivial (.write ?_)))))
          refine .read (.await (.ok ()) trivial (.write (.write (.write ?_))))
          refine .read (.read (.await true trivial (.write ?_)))
          refine .await (.ok []) trivial (.write ?_)
          exact .read (.await false trivial (.write .raise))
      | true =>
          refine ⟨⟨true, 0, first :: rest⟩, [⟨.alive, false⟩, ⟨.alive, false⟩,
            ⟨.backoff attempt, ()⟩, ⟨.shutdown, ()⟩, ⟨.launch, .ok ()⟩,
            ⟨.alive, true⟩, ⟨.replay (first :: rest), .ok []⟩, ⟨.alive, false⟩],
            .error (runtimeError "runtime_plugin_unavailable"), ?_, by simp [told, replayed]⟩
          refine .read (.await false trivial (.write ?_))
          refine .read (.await false trivial (.write ?_))
          refine .read (.write (.await () trivial (.write ?_)))
          refine .read (.write (.await () trivial (.write ?_)))
          refine .await (.ok ()) trivial (.write (.write (.write ?_)))
          refine .read (.read (.await true trivial (.write ?_)))
          refine .await (.ok []) trivial (.write ?_)
          exact .read (.await false trivial (.write .raise))

theorem HostCall.runs_after (call : HostCall) (client : ProcessClient) :
    ∃ client' trace result,
      call.program.traced.Runs (fun _ _ => True) (client, []) (client', trace) result ∧
        call.reconciled client.desiredActivations ∈ told trace := by
  cases call with
  | reconcile activations =>
      obtain ⟨client', trace, result, runs, sent⟩ := request_replays (.reconcile activations)
        { client with desiredActivations := activations }
      exact ⟨client', trace, result, .write runs, sent⟩
  | provision package command => exact request_replays _ client
  | invoke package capabilityExport payload activation attemptId deadlineSeconds =>
      exact request_replays _ client
  | inspect activation => exact request_replays _ client
  | deprovision command => exact request_replays _ client

/-! ### Histories -/

namespace PluginHistory

variable {calls : List HostCall} {client : ProcessClient} {replays : List Replay}

theorem desired (history : PluginHistory calls client replays) :
    client.desiredActivations = lastReconciled calls := by
  induction history with
  | nil isOpen => rfl
  | call history call runs ih =>
      rw [lastReconciled_append, ← ih]
      exact (call.tells runs).1

/-- Every restarted process was told the last reconciled list, among the calls issued until then. -/
theorem replays_last (history : PluginHistory calls client replays) :
    ∀ replay ∈ replays, replay.issued <+: calls ∧
      replay.activations = lastReconciled replay.issued := by
  induction history with
  | nil isOpen => simp
  | @call calls client client' replays history call trace result runs ih =>
      intro replay member
      rcases List.mem_append.1 member with member | member
      · obtain ⟨issued, same⟩ := ih replay member
        exact ⟨issued.trans (List.prefix_append _ _), same⟩
      · obtain ⟨activations, isSent, rfl⟩ := List.mem_map.1 member
        obtain rfl := (call.tells runs).2 activations isSent
        refine ⟨List.prefix_refl _, ?_⟩
        rw [history.desired]
        exact (lastReconciled_append _ _).symm

theorem some (calls : List HostCall) : ∃ client replays, PluginHistory calls client replays := by
  induction calls using List.reverseRecOn with
  | nil => exact ⟨_, _, .nil false⟩
  | append_singleton calls call ih =>
      obtain ⟨client, replays, history⟩ := ih
      obtain ⟨client', trace, result, runs, -⟩ := call.runs_after client
      exact ⟨client', _, history.call call runs⟩

end PluginHistory

/-- Every call of a sequence keeps the list current. -/
def AllKeep (calls : List HostCall) : Prop :=
  ∀ before call after, calls = before ++ call :: after → call.Keeps before

/-- The replayed list gives every coordinate its last commanded state. -/
def Replay.Current (replay : Replay) : Prop :=
  ∀ packageVersionRef, given replay.activations packageVersionRef =
    ledger replay.issued packageVersionRef

theorem AllKeep.of_append {calls more : List HostCall} (keep : AllKeep (calls ++ more)) :
    AllKeep calls := by
  intro before call after split
  exact keep before call (after ++ more) (by rw [split, List.append_assoc]; rfl)

theorem AllKeep.append {calls : List HostCall} {call : HostCall} (keep : AllKeep calls)
    (last : call.Keeps calls) : AllKeep (calls ++ [call]) := by
  intro before call' after split
  rcases List.eq_nil_or_concat after with rfl | ⟨after', final, rfl⟩
  · obtain ⟨rfl, same⟩ := List.append_inj' split rfl
    cases same
    exact last
  · rw [List.concat_eq_append, ← List.cons_append, ← List.append_assoc] at split
    exact keep before call' after' (List.append_inj' split rfl).1

/-- The last reconciled list is current after these calls. -/
def CurrentAfter (calls : List HostCall) : Prop :=
  ∀ packageVersionRef,
    given (lastReconciled calls) packageVersionRef = ledger calls packageVersionRef

/-- A command for one coordinate, which is not the one that the list is from. -/
theorem currentAfter_command {calls : List HostCall} (current : CurrentAfter calls)
    (commanded : String) (state : Json) :
    given (lastReconciled calls) commanded = some state ↔
      ∀ packageVersionRef, given (lastReconciled calls) packageVersionRef =
        (if commanded = packageVersionRef then some state else none).or
          (ledger calls packageVersionRef) := by
  constructor
  · intro same packageVersionRef
    split
    · rename_i here
      rw [← here, same]
      rfl
    · rw [Option.none_or, current]
  · intro same
    rw [same commanded, if_pos rfl]
    rfl

/-- What a call has to do for the list to be current after it. -/
theorem HostCall.keeps_iff {calls : List HostCall} (call : HostCall)
    (current : CurrentAfter calls) : call.Keeps calls ↔ CurrentAfter (calls ++ [call]) := by
  unfold CurrentAfter
  simp only [lastReconciled_append, ledger_append]
  cases call with
  | provision package command => exact currentAfter_command current _ _
  | deprovision command => exact currentAfter_command current _ _
  | invoke package capabilityExport payload activation attemptId deadlineSeconds =>
      exact ⟨fun _ => current, fun _ => trivial⟩
  | inspect activation => exact ⟨fun _ => current, fun _ => trivial⟩
  | reconcile activations =>
      refine forall_congr' fun packageVersionRef => ?_
      change _ ↔ given activations packageVersionRef =
        (given activations packageVersionRef).or (ledger calls packageVersionRef)
      cases isGiven : given activations packageVersionRef with
      | some state => simp
      | none =>
          cases isKnown : ledger calls packageVersionRef with
          | some state => simp
          | none => simp

theorem AllKeep.currentAfter {calls : List HostCall} (keep : AllKeep calls) :
    CurrentAfter calls := by
  induction calls using List.reverseRecOn with
  | nil => exact fun _ => rfl
  | append_singleton calls call ih =>
      exact (call.keeps_iff (ih keep.of_append)).1 (keep calls call [] rfl)

/-- For every sequence of calls: whenever the process dies, what the new process is told is current,
if and only if every call keeps the last reconciled list current. -/
theorem replays_current_iff (calls : List HostCall) :
    (∀ client replays, PluginHistory calls client replays → ∀ replay ∈ replays, replay.Current) ↔
      AllKeep calls := by
  constructor
  · intro current
    induction calls using List.reverseRecOn with
    | nil =>
        intro before call after split
        simp at split
    | append_singleton calls call ih =>
        have keep : AllKeep calls := by
          refine ih fun client replays history replay member => ?_
          obtain ⟨client', trace, result, runs, -⟩ := call.runs_after client
          exact current _ _ (history.call call runs) replay (List.mem_append_left _ member)
        have last : call.Keeps calls := by
          refine (call.keeps_iff keep.currentAfter).2 ?_
          obtain ⟨client, replays, history⟩ := PluginHistory.some calls
          obtain ⟨client', trace, result, runs, sent⟩ := call.runs_after client
          rw [history.desired, ← lastReconciled_append] at sent
          refine current _ _ (history.call call runs) ⟨calls ++ [call], _⟩ ?_
          exact List.mem_append_right _ (List.mem_map_of_mem sent)
        exact keep.append last
  · intro keep client replays history replay member
    obtain ⟨⟨more, isPrefix⟩, isLast⟩ := history.replays_last replay member
    rw [← isPrefix] at keep
    intro packageVersionRef
    rw [isLast]
    exact keep.of_append.currentAfter packageVersionRef

namespace Demo

/-- A service that is running when the Slave starts. -/
def runningService : Dict :=
  [("package_version_ref", .str "capability-package://echo/1"),
    ("desired_state", .str "running")]

/-- Slave Core deprovisions it later on. -/
def stopService : CapabilityDeprovisionCommand where
  commandId := "command-2"
  packageVersionRef := "capability-package://echo/1"
  packageDigest := "digest"
  targetSlave := "slave-1"
  idempotencyKey := "stop-echo"
  activationRevision := 2

/-- The commands, up to the call that finds the process dead. -/
def stopThenInspect : List HostCall :=
  [.reconcile [runningService], .deprovision stopService, .inspect []]

end Demo

/-- A service that has been deprovisioned is replayed as running after a crash. -/
theorem replays_deprovisioned : ∃ client replays,
    PluginHistory Demo.stopThenInspect client replays ∧ ∃ replay ∈ replays,
      replay.issued = Demo.stopThenInspect ∧
        given replay.activations "capability-package://echo/1" = some (.str "running") ∧
          ledger replay.issued "capability-package://echo/1" = some (.str "stopped") := by
  obtain ⟨client, replays, history⟩ :=
    PluginHistory.some [.reconcile [Demo.runningService], .deprovision Demo.stopService]
  obtain ⟨client', trace, result, runs, sent⟩ := HostCall.runs_after (.inspect []) client
  rw [history.desired] at sent
  refine ⟨client', _, history.call (.inspect []) runs, ⟨Demo.stopThenInspect, _⟩,
    List.mem_append_right _ (List.mem_map_of_mem sent), rfl, ?_, ?_⟩
  · rfl
  · decide

end Loom
