import Loom.Contracts.Packages
import Loom.RuntimePlugins.ContainerHttp

/-!
# Ownership of containers

The names of containers are lossy, so what a call may do to a container rests on what it has seen of
it: an inspection that shows the four labels of the identity that the call is for, or a `create`
with these labels that has succeeded in the same call.  `seen` is what the exchanges of a call say
of the container of a name, and `Permits` is the rule that every operation follows.  The answers of
Docker and of the services are arbitrary.
-/

namespace Loom

open Coroutine

/-- What a call has seen of a container. -/
inductive Sighting where
  | shown (container : Dict)
  | created (args : List String)

/-- The labels that an inspection shows. -/
def shownLabels (container : Dict) : Dict :=
  match (container.lookup "Config").getD (.obj []) with
  | .obj config =>
      match ((Dict.get config "Labels").orElse (Dict.get container "Labels")).orElse (.obj []) with
      | .obj actual => actual
      | _ => []
  | _ => []

/-- The container carries labels, or was created with them. -/
def Sighting.Carries (env : PluginEnv) (labels : List (String × String)) : Sighting → Prop
  | .shown container => ∀ label ∈ labels,
      env.text (((shownLabels container).lookup label.1).getD (.str "")) = label.2
  | .created args => ∀ label ∈ labels, ["--label", label.1 ++ "=" ++ label.2] <:+: args

/-- What one exchange tells of the container of a name. -/
def sight (env : PluginEnv) (name : String) (known : Option Sighting) :
    Exchange PluginAnswer → Option Sighting
  | ⟨.docker args, .ok result⟩ =>
      if args = ["inspect", name] then
        match shownContainer env result with
        | .ok (some container) => some (.shown container)
        | _ => none
      else if args.take 3 = ["create", "--name", name] ∧ result.returncode = 0 then
        some (.created args)
      else if args = ["rm", "--force", name] then none
      else known
  | ⟨.docker args, .error _⟩ =>
      if args = ["inspect", name] ∨ args = ["rm", "--force", name] then none else known
  | _ => known

/-- What the exchanges of a call tell of the container of a name. -/
def seen (env : PluginEnv) (name : String) (trace : List (Exchange PluginAnswer)) :
    Option Sighting :=
  trace.foldl (sight env name) none

/-- The commands that only read, or make a new container. -/
def dockerReads : List (Option String) := [some "image", some "pull", some "inspect", some "create"]

/-- The query changes the container of a name, or sends it a request. -/
def PluginQuery.ActsOn (name : String) : PluginQuery → Prop
  | .docker args => args.head? ∉ dockerReads ∧ args.getLast? = some name
  | .post container _ _ _ _ => container = name
  | _ => False

/-- The exchange has changed a container, or has made one. -/
def Changes : Exchange PluginAnswer → Prop
  | ⟨.docker args, answer⟩ => (∃ name, (PluginQuery.docker args).ActsOn name) ∨
      args.head? = some "create" ∧ ∃ result, answer = .ok result ∧ result.returncode = 0
  | ⟨query, _⟩ => ∃ name, query.ActsOn name

section Rule

variable (env : PluginEnv) (settings : ContainerSettings) (identity : ContainerIdentity)

/-- The call has last seen its container with the labels of its identity. -/
def Holds (trace : List (Exchange PluginAnswer)) : Prop :=
  ∃ sighting, seen env (identity.name env settings) trace = some sighting ∧
    sighting.Carries env (identity.labels settings)

/-- The call has at some time seen its container with the labels of its identity. -/
def Owned (trace : List (Exchange PluginAnswer)) : Prop :=
  ∃ before after, trace = before ++ after ∧ Holds env settings identity before

/-- What a call for an identity may ask for. -/
structure Permits (trace : List (Exchange PluginAnswer)) (query : PluginQuery) : Prop where
  acts : ∀ name, query.ActsOn name →
    name = identity.name env settings ∧ Holds env settings identity trace
  creates : ∀ args, query = .docker args → args.head? = some "create" →
    ∃ imageRef, args = createArgs settings (identity.name env settings) imageRef
      (identity.labels settings)

end Rule

section Seen

variable {env : PluginEnv} {settings : ContainerSettings} {identity : ContainerIdentity}
variable {trace : List (Exchange PluginAnswer)}

@[simp]
theorem seen_append (name : String) (exchange : Exchange PluginAnswer) :
    seen env name (trace ++ [exchange]) = sight env name (seen env name trace) exchange := by
  unfold seen
  rw [List.foldl_append]
  rfl

theorem Holds.owned (holds : Holds env settings identity trace) :
    Owned env settings identity trace :=
  ⟨trace, [], (List.append_nil _).symm, holds⟩

theorem Owned.append (owned : Owned env settings identity trace)
    (more : List (Exchange PluginAnswer)) : Owned env settings identity (trace ++ more) := by
  obtain ⟨before, after, rfl, holds⟩ := owned
  exact ⟨before, after ++ more, List.append_assoc _ _ _, holds⟩

theorem labelsMatch_carries {container : Dict} {labels : List (String × String)}
    (isMatch : labelsMatch env container labels = .ok true) :
    (Sighting.shown container).Carries env labels := by
  intro label member
  unfold labelsMatch at isMatch
  unfold shownLabels
  cases isConfig : (container.lookup "Config").getD (.obj []) with
  | obj config =>
      rw [isConfig] at isMatch
      dsimp only [bind, Except.bind] at isMatch ⊢
      cases isLabels : ((Dict.get config "Labels").orElse
          (Dict.get container "Labels")).orElse (.obj []) with
      | obj actual =>
          rw [isLabels] at isMatch
          have all := Except.ok.inj isMatch
          have each := (List.all_eq_true.1 all) label member
          simpa using each
      | _ =>
          rw [isLabels] at isMatch
          cases isMatch
  | _ =>
      rw [isConfig] at isMatch
      cases isMatch

theorem createArgs_carries (name imageRef : String) (labels : List (String × String)) :
    (Sighting.created (createArgs settings name imageRef labels)).Carries env labels := by
  intro label member
  obtain ⟨before, after, rfl⟩ := List.append_of_mem member
  unfold createArgs
  rw [List.flatMap_append, List.flatMap_cons]
  have inside : ∀ front middle text rest last : List String,
      text <:+: front ++ (middle ++ (text ++ rest)) ++ last := by
    intro front middle text rest last
    refine ⟨front ++ middle, rest ++ last, ?_⟩
    simp only [List.append_assoc]
  exact inside _ _ _ _ _

end Seen

/-! ### Operations -/

section Operations

variable {env : PluginEnv} {settings : ContainerSettings} {identity : ContainerIdentity}

/-- The program asks what is permitted, and its result satisfies `good` where it returns. -/
def Does {α : Type} (env : PluginEnv) (settings : ContainerSettings)
    (identity : ContainerIdentity) (program : PluginOp α) (trace : List (Exchange PluginAnswer))
    (good : List (Exchange PluginAnswer) → α → Prop) : Prop :=
  program.Obeys (Permits env settings identity) trace fun after result =>
    ∀ value, result = .ok value → good after value

namespace Does

variable {α β : Type} {trace : List (Exchange PluginAnswer)}

theorem ret {value : α} {good : List (Exchange PluginAnswer) → α → Prop}
    (holds : good trace value) : Does env settings identity (.ret value) trace good := by
  intro other same
  cases same
  exact holds

theorem raise {error : Exc} {good : List (Exchange PluginAnswer) → α → Prop} :
    Does env settings identity (.raise error) trace good := by
  intro value same
  cases same

theorem mono {program : PluginOp α} {good better : List (Exchange PluginAnswer) → α → Prop}
    (does : Does env settings identity program trace better)
    (weakens : ∀ after value, better after value → good after value) :
    Does env settings identity program trace good :=
  Prog.Obeys.mono does fun after _ holds value same => weakens after value (holds value same)

theorem bind {program : PluginOp α} {rest : α → PluginOp β}
    {middle : List (Exchange PluginAnswer) → α → Prop}
    {good : List (Exchange PluginAnswer) → β → Prop}
    (first : Does env settings identity program trace middle)
    (second : ∀ after value, middle after value →
      Does env settings identity (rest value) after good) :
    Does env settings identity (program.bind rest) trace good := by
  refine Prog.Obeys.bind (Prog.Obeys.mono first ?_)
  intro after result holds
  cases result with
  | ok value => exact second after value (holds value rfl)
  | error error =>
      intro value same
      cases same

theorem ofExcept {outcome : Except Exc α} {good : List (Exchange PluginAnswer) → α → Prop}
    (holds : ∀ value, outcome = .ok value → good trace value) :
    Does env settings identity (Prog.ofExcept outcome) trace good :=
  Prog.Obeys.ofExcept holds

theorem guard {condition : Prop} [Decidable condition] {error : Exc}
    {good : List (Exchange PluginAnswer) → Unit → Prop} (holds : condition → good trace ()) :
    Does env settings identity (Prog.guard condition error) trace good :=
  Prog.Obeys.guard (fun passes value _ => holds passes) fun _ value same => by cases same

theorem docker {args : List String}
    {good : List (Exchange PluginAnswer) → DockerCommandResult → Prop}
    (permits : Permits env settings identity trace (.docker args))
    (holds : ∀ result, good (trace ++ [⟨.docker args, .ok result⟩]) result) :
    Does env settings identity (PluginOp.docker args) trace good := by
  refine ⟨permits, fun answer => ?_⟩
  cases answer with
  | ok result => exact ret (holds result)
  | error error => exact raise

end Does

/-- The trace has grown by exchanges that tell nothing new of the container of a name. -/
def Later (env : PluginEnv) (name : String) (before after : List (Exchange PluginAnswer)) : Prop :=
  seen env name after = seen env name before ∧ before <+: after

theorem Later.refl {name : String} (trace : List (Exchange PluginAnswer)) :
    Later env name trace trace :=
  ⟨rfl, List.prefix_refl _⟩

theorem Later.trans {name : String} {first second third : List (Exchange PluginAnswer)}
    (one : Later env name first second) (two : Later env name second third) :
    Later env name first third :=
  ⟨two.1.trans one.1, one.2.trans two.2⟩

theorem Later.holds {before after : List (Exchange PluginAnswer)}
    (later : Later env (identity.name env settings) before after)
    (holds : Holds env settings identity before) : Holds env settings identity after := by
  obtain ⟨sighting, isSeen, carries⟩ := holds
  exact ⟨sighting, later.1.trans isSeen, carries⟩

theorem later_read {name : String} {args : List String}
    (reads : args.head? = some "image" ∨ args.head? = some "pull")
    (result : DockerCommandResult) (trace : List (Exchange PluginAnswer)) :
    Later env name trace (trace ++ [⟨.docker args, .ok result⟩]) := by
  refine ⟨?_, List.prefix_append _ _⟩
  rw [seen_append]
  obtain ⟨first, rest, rfl⟩ : ∃ first rest, args = first :: rest := by
    cases args with
    | nil => rcases reads with same | same <;> cases same
    | cons first rest => exact ⟨first, rest, rfl⟩
  rcases reads with same | same
  · obtain rfl := Option.some.inj same
    simp [sight]
  · obtain rfl := Option.some.inj same
    simp [sight]

theorem permits_read {trace : List (Exchange PluginAnswer)} {args : List String}
    (reads : args.head? = some "image" ∨ args.head? = some "pull" ∨
      args.head? = some "inspect") :
    Permits env settings identity trace (.docker args) where
  acts := by
    rintro name ⟨acts, -⟩
    rcases reads with same | same | same <;> rw [same] at acts <;> simp [dockerReads] at acts
  creates := by
    rintro args' same isCreate
    cases same
    rcases reads with same | same | same <;> rw [same] at isCreate <;> simp at isCreate

/-- Go on after a command about images. -/
theorem Does.read {β : Type} {args : List String} {trace : List (Exchange PluginAnswer)}
    {rest : DockerCommandResult → PluginOp β} {good : List (Exchange PluginAnswer) → β → Prop}
    (reads : args.head? = some "image" ∨ args.head? = some "pull")
    (next : ∀ after result, Later env (identity.name env settings) trace after →
      Does env settings identity (rest result) after good) :
    Does env settings identity ((PluginOp.docker args).bind rest) trace good := by
  have permits : Permits env settings identity trace (.docker args) :=
    permits_read (reads.imp_right .inl)
  have first : Does env settings identity (PluginOp.docker args) trace fun after _ =>
      Later env (identity.name env settings) trace after :=
    .docker permits fun result => later_read reads result trace
  exact .bind first fun after result later => next after result later

/-- Go on after a check. -/
theorem Does.check {β : Type} {condition : Prop} [Decidable condition] {error : Exc}
    {trace : List (Exchange PluginAnswer)} {rest : Unit → PluginOp β}
    {good : List (Exchange PluginAnswer) → β → Prop}
    (next : condition → Does env settings identity (rest ()) trace good) :
    Does env settings identity ((Prog.guard condition error).bind rest) trace good := by
  have first : Does env settings identity (Prog.guard condition error) trace fun after _ =>
      condition ∧ after = trace := .guard fun holds => ⟨holds, rfl⟩
  refine .bind first ?_
  rintro after value ⟨holds, rfl⟩
  exact next holds

/-- Go on with the value of an outcome. -/
theorem Does.value {α β : Type} {outcome : Except Exc α}
    {trace : List (Exchange PluginAnswer)} {rest : α → PluginOp β}
    {good : List (Exchange PluginAnswer) → β → Prop}
    (next : ∀ value, outcome = .ok value → Does env settings identity (rest value) trace good) :
    Does env settings identity ((Prog.ofExcept outcome).bind rest) trace good := by
  have first : Does env settings identity (Prog.ofExcept outcome) trace fun after value =>
      outcome = .ok value ∧ after = trace := .ofExcept fun value same => ⟨same, rfl⟩
  refine .bind first ?_
  rintro after value ⟨same, rfl⟩
  exact next value same

/-- Go on with a value that is known. -/
theorem Does.known {α β : Type} {outcome : Except Exc α} {value : α}
    {trace : List (Exchange PluginAnswer)} {rest : α → PluginOp β}
    {good : List (Exchange PluginAnswer) → β → Prop} (isValue : outcome = .ok value)
    (next : Does env settings identity (rest value) trace good) :
    Does env settings identity ((Prog.ofExcept outcome).bind rest) trace good := by
  rw [isValue]
  exact next

theorem PluginOp.inspectImage_does (imageRef : String) (trace : List (Exchange PluginAnswer)) :
    Does env settings identity (PluginOp.inspectImage imageRef) trace fun after _ =>
      Later env (identity.name env settings) trace after := by
  unfold PluginOp.inspectImage
  refine Does.read (.inl rfl) fun after first later => ?_
  split
  · exact .ret later
  · refine Does.read (.inr rfl) fun middle pulled later' => ?_
    refine Does.check fun _ => ?_
    refine .docker (permits_read (.inl rfl)) fun result => ?_
    exact (later.trans later').trans (later_read (.inl rfl) result middle)

theorem PluginOp.imageReady_does (imageRef : String) (trace : List (Exchange PluginAnswer)) :
    Does env settings identity (PluginOp.imageReady env imageRef) trace fun after _ =>
      Later env (identity.name env settings) trace after := by
  unfold PluginOp.imageReady
  refine .bind (PluginOp.inspectImage_does imageRef trace) fun after inspect later => ?_
  refine Does.check fun _ => ?_
  split
  · exact .guard fun _ => later
  · exact .raise

theorem PluginOp.matchingContainer_does (container : Dict) (imageRef : String)
    (trace : List (Exchange PluginAnswer)) :
    Does env settings identity (PluginOp.matchingContainer env container
      (identity.labels settings) imageRef) trace fun after keep =>
        Later env (identity.name env settings) trace after ∧
          (keep = true → (Sighting.shown container).Carries env (identity.labels settings)) := by
  unfold PluginOp.matchingContainer
  refine Does.value fun owned isOwned => ?_
  split
  · exact .ret ⟨.refl trace, by simp⟩
  · rename_i carried
    have carries := labelsMatch_carries (isOwned.trans
      (congrArg Except.ok (Bool.of_not_eq_false carried)))
    refine Does.value fun named _ => ?_
    dsimp only
    split
    · exact .ret ⟨.refl trace, fun _ => carries⟩
    · split
      · exact .ret ⟨.refl trace, fun _ => carries⟩
      · refine Does.read (.inl rfl) fun after inspected later => ?_
        exact .ret ⟨later, fun _ => carries⟩

theorem PluginOp.inspectContainer_does (trace : List (Exchange PluginAnswer)) :
    Does env settings identity (PluginOp.inspectContainer env (identity.name env settings)) trace
      fun after existing => (∃ result, after = trace ++
          [⟨.docker ["inspect", identity.name env settings], .ok result⟩] ∧
            shownContainer env result = .ok existing) ∧
        ∀ container, existing = some container →
          seen env (identity.name env settings) after = some (.shown container) := by
  unfold PluginOp.inspectContainer
  have first : Does env settings identity (PluginOp.docker ["inspect", identity.name env settings])
      trace fun after result => after = trace ++
        [⟨.docker ["inspect", identity.name env settings], .ok result⟩] :=
    .docker (permits_read (.inr (.inr rfl))) fun _ => rfl
  refine .bind first ?_
  rintro after result rfl
  refine .ofExcept fun existing isShown => ⟨⟨result, rfl, isShown⟩, ?_⟩
  rintro container rfl
  rw [seen_append]
  simp [sight, isShown]

theorem permits_acts {trace : List (Exchange PluginAnswer)} {args : List String}
    (holds : Holds env settings identity trace)
    (isName : args.getLast? = some (identity.name env settings))
    (acts : args.head? ≠ some "create") : Permits env settings identity trace (.docker args) where
  acts := by
    rintro name ⟨-, isLast⟩
    exact ⟨Option.some.inj (isLast.symm.trans isName), holds⟩
  creates := by
    rintro args' same isCreate
    cases same
    exact absurd isCreate acts

/-- The container is removed by a call that has seen its labels. -/
theorem PluginOp.removeContainer_does {trace : List (Exchange PluginAnswer)}
    (holds : Holds env settings identity trace) :
    Does env settings identity (PluginOp.removeContainer (identity.name env settings)) trace
      fun after _ => trace <+: after := by
  unfold PluginOp.removeContainer
  have first : Does env settings identity
      (PluginOp.docker ["rm", "--force", identity.name env settings]) trace
      fun after _ => trace <+: after :=
    .docker (permits_acts holds rfl (by simp)) fun _ => List.prefix_append _ _
  exact .bind first fun after result later => .guard fun _ => later

theorem PluginOp.startCommand_does {trace : List (Exchange PluginAnswer)}
    (holds : Holds env settings identity trace) :
    Does env settings identity (PluginOp.docker ["start", identity.name env settings]) trace
      fun after _ => Later env (identity.name env settings) trace after := by
  refine .docker (permits_acts holds rfl (by simp)) fun result => ⟨?_, List.prefix_append _ _⟩
  rw [seen_append]
  simp [sight]

theorem PluginOp.keepContainer_does (imageRef : String) (trace : List (Exchange PluginAnswer)) :
    Does env settings identity (PluginOp.keepContainer env settings identity imageRef
      (identity.name env settings)) trace fun after existing =>
        existing ≠ none → Holds env settings identity after := by
  unfold PluginOp.keepContainer
  refine .bind (PluginOp.inspectContainer_does trace) ?_
  rintro after existing ⟨-, shows⟩
  cases existing with
  | none => exact .ret (by simp)
  | some container =>
      have isSeen := shows container rfl
      dsimp only
      refine .bind (PluginOp.matchingContainer_does container imageRef after) ?_
      rintro middle keep ⟨later, carries⟩
      split
      · rename_i kept
        exact .ret fun _ => ⟨_, later.1.trans isSeen, carries kept⟩
      · refine Does.value fun owned isOwned => ?_
        refine Does.check fun held => ?_
        have holds : Holds env settings identity middle :=
          ⟨_, later.1.trans isSeen, labelsMatch_carries (held ▸ isOwned)⟩
        exact .bind (PluginOp.removeContainer_does holds) fun _ _ _ => .ret (by simp)

theorem PluginOp.createCommand_does (imageRef : String) (trace : List (Exchange PluginAnswer)) :
    Does env settings identity (PluginOp.docker (createArgs settings (identity.name env settings)
      imageRef (identity.labels settings))) trace fun after created =>
        created.returncode = 0 → Holds env settings identity after := by
  have permits : Permits env settings identity trace (.docker (createArgs settings
      (identity.name env settings) imageRef (identity.labels settings))) := by
    constructor
    · rintro name ⟨acts, -⟩
      simp [createArgs, dockerReads] at acts
    · rintro args same -
      cases same
      exact ⟨imageRef, rfl⟩
  refine .docker permits fun result succeeded => ?_
  refine ⟨.created (createArgs settings (identity.name env settings) imageRef
    (identity.labels settings)), ?_, createArgs_carries _ _ _⟩
  rw [seen_append]
  simp [sight, createArgs, succeeded]

theorem PluginOp.startContainer_does {trace : List (Exchange PluginAnswer)} (imageRef : String)
    {existing : Option Dict} (holds : existing ≠ none → Holds env settings identity trace) :
    Does env settings identity (PluginOp.startContainer settings identity imageRef
      (identity.name env settings) existing) trace fun after _ =>
        Holds env settings identity after := by
  cases existing with
  | none =>
      unfold PluginOp.startContainer
      refine .bind (PluginOp.createCommand_does imageRef trace) fun after created made => ?_
      refine Does.check fun succeeded => ?_
      have holds' := made succeeded
      refine .bind (PluginOp.startCommand_does holds') fun middle started later => ?_
      split
      · refine .bind (PluginOp.removeContainer_does (later.holds holds')) fun _ _ _ => .raise
      · exact .ret (later.holds holds')
  | some container =>
      have holds' := holds (by simp)
      unfold PluginOp.startContainer
      refine Does.value fun running _ => ?_
      split
      · exact .ret holds'
      · refine .bind (PluginOp.startCommand_does holds') fun middle started later => ?_
        refine Does.check fun _ => ?_
        exact .ret (later.holds holds')

theorem PluginOp.health_does (port : Int) (path : String) (container : String)
    (trace : List (Exchange PluginAnswer)) :
    Does env settings identity (PluginOp.health container port path) trace fun after _ =>
      trace <+: after := by
  refine ⟨⟨fun name acts => acts.elim, fun args same => by cases same⟩, fun answer => ?_⟩
  cases answer with
  | ok status => exact Does.ret (List.prefix_append _ _)
  | error error => exact Does.raise

theorem PluginOp.awaitHealthy_does (port : Int) (path : String) (container : String) (rounds : Nat)
    (trace : List (Exchange PluginAnswer)) :
    Does env settings identity (PluginOp.awaitHealthy container port path rounds) trace
      fun after _ => trace <+: after := by
  induction rounds generalizing trace with
  | zero => exact .ret (List.prefix_refl _)
  | succ rounds ih =>
      unfold PluginOp.awaitHealthy
      refine .bind (PluginOp.health_does port path container trace) fun after healthy later => ?_
      split
      · exact .ret later
      · exact (ih after).mono fun _ _ later' => later.trans later'

/-- A call that returns has seen its container with its labels. -/
theorem Holds.owned_of_prefix {before after : List (Exchange PluginAnswer)}
    (holds : Holds env settings identity before) (later : before <+: after) :
    Owned env settings identity after := by
  obtain ⟨more, rfl⟩ := later
  exact holds.owned.append more

theorem profileName_ok {activation : Dict} {expectedName name : String}
    (isName : profileName env activation expectedName = .ok name) : name = expectedName := by
  unfold profileName at isName
  split at isName
  · dsimp only at isName
    split at isName
    · cases isName
    · rename_i same
      cases isName
      exact not_not.1 same
  · cases isName

theorem PluginOp.provision_does {package command : Dict}
    (isIdentity : ∀ found, commandContext env settings package command = .ok found →
      found = identity)
    (trace : List (Exchange PluginAnswer)) :
    Does env settings identity (PluginOp.provision env settings package command) trace
      fun after _ => Owned env settings identity after := by
  unfold PluginOp.provision
  refine Does.value fun values _ => Does.value fun found isFound => ?_
  rw [isIdentity found isFound]
  refine .bind (PluginOp.imageReady_does values.imageRef trace) fun imaged _ _ => ?_
  refine .bind (PluginOp.keepContainer_does values.imageRef imaged) fun kept existing holds => ?_
  refine .bind (PluginOp.startContainer_does values.imageRef holds) fun started _ holds => ?_
  have count : Does env settings identity PluginOp.countRounds started fun after _ =>
      started <+: after :=
    ⟨⟨fun name acts => acts.elim, fun args same => by cases same⟩,
      fun rounds => Does.ret (List.prefix_append _ _)⟩
  refine .bind count fun counted rounds later => ?_
  refine .bind (PluginOp.awaitHealthy_does _ _ _ rounds counted) fun after healthy later' => ?_
  have owned := holds.owned_of_prefix (later.trans later')
  split
  · exact .ret owned
  · exact .ret owned

theorem PluginOp.invoke_does {package capabilityExport activation : Dict}
    (isIdentity : activationContext env settings package activation = .ok identity)
    (payload : Json) (attemptId : String) (deadlineSeconds : Option ℚ)
    (trace : List (Exchange PluginAnswer)) :
    Does env settings identity (PluginOp.invoke env settings package capabilityExport payload
      activation attemptId deadlineSeconds) trace
      fun after _ => Owned env settings identity after := by
  unfold PluginOp.invoke
  refine Does.value fun values _ => Does.known isIdentity ?_
  refine Does.check fun _ => ?_
  refine Does.value fun path _ => ?_
  refine Does.value fun name isName => ?_
  obtain rfl := profileName_ok isName
  refine .bind (PluginOp.inspectContainer_does trace) ?_
  rintro after existing ⟨-, shows⟩
  cases existing with
  | none => exact .raise
  | some container =>
      have isSeen := shows container rfl
      refine .bind (PluginOp.matchingContainer_does container values.imageRef after) ?_
      rintro middle keep ⟨later, carries⟩
      refine Does.check fun kept => ?_
      have holds : Holds env settings identity middle :=
        ⟨_, later.1.trans isSeen, carries kept⟩
      refine Does.value fun running _ => ?_
      refine Does.check fun _ => ?_
      refine Does.check fun _ => ?_
      have acquire : Does env settings identity (PluginOp.acquire identity.packageDigest) middle
          fun after _ => Later env (identity.name env settings) middle after := by
        refine ⟨⟨fun name acts => acts.elim, fun args same => by cases same⟩, fun acquired => ?_⟩
        refine Does.ret ⟨?_, List.prefix_append _ _⟩
        rw [seen_append]
        rfl
      refine .bind acquire fun ready acquired later' => ?_
      refine Does.check fun _ => ?_
      have holds' := later'.holds holds
      refine ⟨⟨fun name acts => ⟨acts.symm, holds'⟩, fun args same => by cases same⟩,
        fun response => ?_⟩
      exact Does.ofExcept fun _ _ => holds'.owned.append _

/-- What a report of `inspect` says of the container. -/
theorem PluginOp.inspect_does {package activation : Dict}
    (isPackage : activationPackage activation = .ok package)
    (isIdentity : activationContext env settings package activation = .ok identity)
    (trace : List (Exchange PluginAnswer)) :
    Does env settings identity (PluginOp.inspect env settings activation) trace
      fun after report => Dict.get report "identity_match" = .bool false ∨
        Owned env settings identity after := by
  unfold PluginOp.inspect
  refine Does.known isPackage (Does.value fun values _ => Does.known isIdentity ?_)
  refine Does.value fun name isName => ?_
  obtain rfl := profileName_ok isName
  refine .bind (PluginOp.inspectContainer_does trace) ?_
  rintro after existing ⟨-, shows⟩
  cases existing with
  | none => exact .ret (.inl rfl)
  | some container =>
      have isSeen := shows container rfl
      refine .bind (PluginOp.matchingContainer_does container values.imageRef after) ?_
      rintro middle keep ⟨later, carries⟩
      refine Does.value fun running _ => ?_
      have healthy : Does env settings identity (PluginOp.healthWhen (keep && running)
          (identity.name env settings) values.containerPort values.healthPath) middle
          fun after _ => middle <+: after := by
        unfold PluginOp.healthWhen
        split
        · exact PluginOp.health_does _ _ _ _
        · exact .ret (List.prefix_refl _)
      refine .bind healthy fun last healthy later' => ?_
      cases keep with
      | false => exact .ret (.inl rfl)
      | true =>
          have holds : Holds env settings identity middle :=
            ⟨_, later.1.trans isSeen, carries rfl⟩
          exact .ret (.inr (holds.owned_of_prefix later'))

/-- A call that stops a container either owns it or finds none. -/
theorem PluginOp.stopContainer_does (trace : List (Exchange PluginAnswer)) :
    Does env settings identity (PluginOp.stopContainer env settings identity
      (identity.name env settings)) trace fun after _ =>
        Owned env settings identity after ∨ ∃ result, after = trace ++
          [⟨.docker ["inspect", identity.name env settings], .ok result⟩] ∧
            shownContainer env result = .ok none := by
  unfold PluginOp.stopContainer
  refine .bind (PluginOp.inspectContainer_does trace) ?_
  rintro after existing ⟨isAnswer, shows⟩
  cases existing with
  | none => exact .ret (.inr isAnswer)
  | some container =>
      have isSeen := shows container rfl
      refine Does.value fun owned isOwned => ?_
      refine Does.check fun held => ?_
      have holds : Holds env settings identity after :=
        ⟨_, isSeen, labelsMatch_carries (held ▸ isOwned)⟩
      exact .bind (PluginOp.removeContainer_does holds) fun last _ later =>
        .ret (.inl (holds.owned_of_prefix later))

theorem namedIdentity_digest {package named : Dict} {targetSlave : Json}
    (isIdentity : namedIdentity env settings package named targetSlave = .ok identity) :
    Dict.get named "workspace_id" = .str identity.workspaceId ∧
      ∃ packageRef, executionIdentity env package = .ok (packageRef, identity.packageDigest) := by
  unfold namedIdentity at isIdentity
  cases isExecution : executionIdentity env package with
  | error error =>
      rw [isExecution] at isIdentity
      cases isIdentity
  | ok execution =>
      rw [isExecution] at isIdentity
      dsimp only [bind, Except.bind] at isIdentity
      split at isIdentity
      · rename_i workspaceId isWorkspace
        split at isIdentity
        · cases isIdentity
        · cases isIdentity
          exact ⟨isWorkspace, execution.1, rfl⟩
      · cases isIdentity

/-- The command of `reconcile` is for the identity of the activation. -/
theorem commandContext_reconcile {package activation : Dict} {packageRef : String}
    {found : ContainerIdentity}
    (isIdentity : activationContext env settings package activation = .ok identity)
    (isFound : commandContext env settings package
      (PluginOp.reconcileCommand env settings activation packageRef identity) = .ok found) :
    found = identity := by
  obtain ⟨-, ref, execution⟩ := namedIdentity_digest isIdentity
  obtain ⟨workspace, ref', execution'⟩ := namedIdentity_digest isFound
  rw [execution] at execution'
  have digest := (Prod.mk.inj (Except.ok.inj execution')).2
  have same := Json.str.inj workspace
  obtain ⟨workspaceId, packageDigest⟩ := found
  obtain ⟨workspaceId', packageDigest'⟩ := identity
  dsimp only at digest same
  rw [digest, ← same]

end Operations

/-! ### Calls -/

/-- A call of the plugin. -/
inductive PluginCall where
  | provision (package command : Dict)
  | invoke (package capabilityExport : Dict) (payload : Json) (activation : Dict)
      (attemptId : String) (deadlineSeconds : Option ℚ)
  | inspect (activation : Dict)
  | deprovision (command : Dict)
  | reconcile (activations : List Dict)

section Calls

variable (env : PluginEnv) (settings : ContainerSettings)

def PluginCall.program : PluginCall → PluginOp Dict
  | .provision package command => PluginOp.provision env settings package command
  | .invoke package capabilityExport payload activation attemptId deadlineSeconds =>
      PluginOp.invoke env settings package capabilityExport payload activation attemptId
        deadlineSeconds
  | .inspect activation => PluginOp.inspect env settings activation
  | .deprovision command => PluginOp.deprovision env settings command
  | .reconcile activations => PluginOp.reconcile env settings activations

/-- The identity that an entry of `reconcile` names. -/
def entryIdentity (activation : Dict) : Except Exc ContainerIdentity := do
  let package ← activationPackage activation
  let _ ← executionIdentity env package
  activationContext env settings package activation

/-- An entry of `reconcile` is to be stopped. -/
def wantsStopped (activation : Dict) : Prop :=
  env.text ((Dict.get activation "desired_state").orElse (.str "running")) = "stopped"

/-- The part of a call that is for one identity: a whole call, or an entry of `reconcile`. -/
structure CallPart where
  identity : Except Exc ContainerIdentity
  stops : Prop
  trace : List (Exchange PluginAnswer)
  result : Except Exc Dict

/-- What is given for a call other than `reconcile`. -/
def PluginCall.part (call : PluginCall) (trace : List (Exchange PluginAnswer))
    (result : Except Exc Dict) : CallPart :=
  match call with
  | .provision package command =>
      { identity := do
          let _ ← serviceValues env package
          commandContext env settings package command
        stops := False, trace, result }
  | .invoke package _ _ activation _ _ =>
      { identity := do
          let _ ← serviceValues env package
          activationContext env settings package activation
        stops := False, trace, result }
  | .inspect activation =>
      { identity := do
          let package ← activationPackage activation
          let _ ← serviceValues env package
          activationContext env settings package activation
        stops := False, trace, result }
  | .deprovision command =>
      { identity := deprovisionContext env settings command, stops := True, trace, result }
  | .reconcile _ => { identity := .error (.valueError ""), stops := False, trace, result }

/-- The parts of a call: `reconcile` has one for each entry, with its report. -/
def PluginCall.Consists (call : PluginCall) (trace : List (Exchange PluginAnswer))
    (result : Except Exc Dict) (parts : List CallPart) : Prop :=
  match call with
  | .reconcile activations =>
      trace = parts.flatMap CallPart.trace ∧
        List.Forall₂ (fun activation part =>
          part.identity = entryIdentity env settings activation ∧
            part.stops = wantsStopped env activation) activations parts ∧
        ∃ reports : List Dict, result = .ok [("activations", .arr (reports.map .obj))] ∧
          parts.map CallPart.result = reports.map .ok
  | call => parts = [call.part env settings trace result]

/-- The result is an exception, or a report of failure. -/
def Fails : Except Exc Dict → Prop
  | .error _ => True
  | .ok report => Dict.get report "activation_state" = .str "failed" ∨
      Dict.get report "identity_match" = .bool false

/-- The call has reported a container as stopped after it has found none, and done nothing else. -/
def FoundNone (identity : ContainerIdentity) (trace : List (Exchange PluginAnswer))
    (result : Except Exc Dict) : Prop :=
  (∃ report, result = .ok report ∧ Dict.get report "activation_state" = .str "stopped") ∧
    ∃ answer, trace = [⟨.docker ["inspect", identity.name env settings], .ok answer⟩] ∧
      shownContainer env answer = .ok none

/-- A part of a call acts only on the container of its identity, which it has seen with its labels.
A part that has not seen it so changes nothing and fails, or has nothing to stop. -/
structure CallPart.Owns (part : CallPart) : Prop where
  guarded : ∀ before exchange after, part.trace = before ++ exchange :: after →
    ∀ name, exchange.query.ActsOn name → ∃ identity, part.identity = .ok identity ∧
      name = identity.name env settings ∧ Holds env settings identity before
  otherwise : (∀ identity, part.identity = .ok identity →
      ¬Owned env settings identity part.trace) →
    (∀ exchange ∈ part.trace, ¬Changes exchange) ∧
      (Fails part.result ∨ part.stops ∧ ∃ identity, part.identity = .ok identity ∧
        FoundNone env settings identity part.trace part.result)

end Calls

section Parts

variable {env : PluginEnv} {settings : ContainerSettings} {identity : ContainerIdentity}

/-- What a part whose program obeys the rule of its identity has done. -/
theorem CallPart.owns_of_does {program : PluginOp Dict} {stops : Prop}
    {end' : Unit × List (Exchange PluginAnswer)} {result : Except Exc Dict}
    (does : Does env settings identity program [] fun after report =>
      Owned env settings identity after ∨ Fails (.ok report) ∨
        stops ∧ FoundNone env settings identity after (.ok report))
    (runs : program.traced.Runs (fun _ _ => True) ((), []) end' result) :
    CallPart.Owns env settings { identity := .ok identity, stops, trace := end'.2, result } := by
  obtain ⟨outcome, more, same, each⟩ := Prog.Obeys.runs does runs
  rw [List.nil_append] at same
  constructor
  · intro before exchange after split name acts
    have permits := each before exchange after (same ▸ split)
    obtain ⟨isName, holds⟩ := permits.acts name acts
    rw [List.nil_append] at holds
    exact ⟨identity, rfl, isName, holds⟩
  · intro notOwned
    have notOwned := notOwned identity rfl
    constructor
    · intro exchange member changes
      obtain ⟨before, after, split⟩ := List.append_of_mem member
      have permits := each before exchange after (same ▸ split)
      rw [List.nil_append] at permits
      have owned : Owned env settings identity (before ++ [exchange]) → False := fun owned =>
        notOwned (by
          have whole := owned.append after
          rw [List.append_assoc, List.singleton_append] at whole
          rwa [split])
      have acted : ∀ name, exchange.query.ActsOn name → False := fun name acts =>
        owned ((permits.acts name acts).2.owned.append [exchange])
      obtain ⟨query, answer⟩ := exchange
      cases query with
      | docker args =>
          rcases changes with ⟨name, acts⟩ | ⟨isCreate, answered, rfl, succeeded⟩
          · exact acted name acts
          · obtain ⟨imageRef, rfl⟩ := permits.creates args rfl isCreate
            refine owned (Holds.owned ⟨.created (createArgs settings (identity.name env settings)
              imageRef (identity.labels settings)), ?_, createArgs_carries _ _ _⟩)
            rw [seen_append]
            simp [sight, createArgs, succeeded]
      | rounds => exact changes.elim fun name acts => acted name acts
      | health container port path => exact changes.elim fun name acts => acted name acts
      | acquire packageDigest => exact changes.elim fun name acts => acted name acts
      | post container port path payload attemptId =>
          exact changes.elim fun name acts => acted name acts
    · cases result with
      | error error => exact .inl trivial
      | ok report =>
          rcases outcome report rfl with isOwned | fails | ⟨stops, none⟩
          · exact absurd isOwned notOwned
          · exact .inl fails
          · exact .inr ⟨stops, identity, rfl, none⟩

/-- A part that raises at once. -/
theorem CallPart.owns_of_error {error : Exc} {stops : Prop} {result : Except Exc Dict}
    (fails : Fails result) : CallPart.Owns env settings
      { identity := .error error, stops, trace := [], result } where
  guarded := by
    intro before exchange after split
    simp at split
  otherwise := fun _ => ⟨by simp, .inl fails⟩

theorem provision_owns {package command : Dict} {end' : Unit × List (Exchange PluginAnswer)}
    {result : Except Exc Dict}
    (runs : (PluginOp.provision env settings package command).traced.Runs (fun _ _ => True)
      ((), []) end' result) :
    ((PluginCall.provision package command).part env settings end'.2 result).Owns env settings := by
  unfold PluginCall.part
  dsimp only
  cases isValues : serviceValues env package with
  | error error =>
      unfold PluginOp.provision at runs
      rw [isValues] at runs
      cases runs with
      | raise => exact CallPart.owns_of_error trivial
  | ok values =>
      dsimp only [bind, Except.bind]
      cases isIdentity : commandContext env settings package command with
      | error error =>
          unfold PluginOp.provision at runs
          rw [isValues, isIdentity] at runs
          cases runs with
          | raise => exact CallPart.owns_of_error trivial
      | ok identity =>
          have unique : ∀ found, commandContext env settings package command = .ok found →
              found = identity := fun found isFound =>
            Except.ok.inj (isFound.symm.trans isIdentity)
          exact CallPart.owns_of_does
            ((PluginOp.provision_does unique []).mono fun _ _ owned => .inl owned) runs

theorem invoke_owns {package capabilityExport : Dict} {payload : Json} {activation : Dict}
    {attemptId : String} {deadlineSeconds : Option ℚ}
    {end' : Unit × List (Exchange PluginAnswer)} {result : Except Exc Dict}
    (runs : (PluginOp.invoke env settings package capabilityExport payload activation attemptId
      deadlineSeconds).traced.Runs (fun _ _ => True) ((), []) end' result) :
    ((PluginCall.invoke package capabilityExport payload activation attemptId
      deadlineSeconds).part env settings end'.2 result).Owns env settings := by
  unfold PluginCall.part
  dsimp only
  cases isValues : serviceValues env package with
  | error error =>
      unfold PluginOp.invoke at runs
      rw [isValues] at runs
      cases runs with
      | raise => exact CallPart.owns_of_error trivial
  | ok values =>
      dsimp only [bind, Except.bind]
      cases isIdentity : activationContext env settings package activation with
      | error error =>
          unfold PluginOp.invoke at runs
          rw [isValues, isIdentity] at runs
          cases runs with
          | raise => exact CallPart.owns_of_error trivial
      | ok identity =>
          exact CallPart.owns_of_does
            ((PluginOp.invoke_does isIdentity payload attemptId deadlineSeconds []).mono
              fun _ _ owned => .inl owned) runs

theorem inspect_owns {activation : Dict} {end' : Unit × List (Exchange PluginAnswer)}
    {result : Except Exc Dict}
    (runs : (PluginOp.inspect env settings activation).traced.Runs (fun _ _ => True)
      ((), []) end' result) :
    ((PluginCall.inspect activation).part env settings end'.2 result).Owns env settings := by
  unfold PluginCall.part
  dsimp only
  cases isPackage : activationPackage activation with
  | error error =>
      unfold PluginOp.inspect at runs
      rw [isPackage] at runs
      cases runs with
      | raise => exact CallPart.owns_of_error trivial
  | ok package =>
      dsimp only [bind, Except.bind]
      cases isValues : serviceValues env package with
      | error error =>
          unfold PluginOp.inspect at runs
          rw [isPackage] at runs
          change (Prog.bind (Prog.ofExcept (serviceValues env package)) _).traced.Runs _ _ _ _
            at runs
          rw [isValues] at runs
          cases runs with
          | raise => exact CallPart.owns_of_error trivial
      | ok values =>
          dsimp only
          cases isIdentity : activationContext env settings package activation with
          | error error =>
              unfold PluginOp.inspect at runs
              rw [isPackage] at runs
              change (Prog.bind (Prog.ofExcept (serviceValues env package)) _).traced.Runs _ _ _ _
                at runs
              rw [isValues] at runs
              change (Prog.bind (Prog.ofExcept
                (activationContext env settings package activation)) _).traced.Runs _ _ _ _ at runs
              rw [isIdentity] at runs
              cases runs with
              | raise => exact CallPart.owns_of_error trivial
          | ok identity =>
              refine CallPart.owns_of_does
                ((PluginOp.inspect_does isPackage isIdentity []).mono ?_) runs
              rintro after report (missed | owned)
              · exact .inr (.inl (.inr missed))
              · exact .inl owned

theorem deprovision_owns {command : Dict} {end' : Unit × List (Exchange PluginAnswer)}
    {result : Except Exc Dict}
    (runs : (PluginOp.deprovision env settings command).traced.Runs (fun _ _ => True)
      ((), []) end' result) :
    ((PluginCall.deprovision command).part env settings end'.2 result).Owns env settings := by
  unfold PluginCall.part
  dsimp only
  cases isIdentity : deprovisionContext env settings command with
  | error error =>
      unfold PluginOp.deprovision at runs
      rw [isIdentity] at runs
      cases runs with
      | raise => exact CallPart.owns_of_error trivial
  | ok identity =>
      refine CallPart.owns_of_does ?_ runs
      unfold PluginOp.deprovision
      refine Does.known isIdentity ?_
      refine .bind (PluginOp.stopContainer_does []) fun after idempotent outcome => .ret ?_
      rcases outcome with owned | ⟨answer, same, none⟩
      · exact .inl owned
      · exact .inr (.inr ⟨trivial, ⟨_, rfl, rfl⟩, answer, same, none⟩)

theorem PluginOp.reconcileActivation_does {activation : Dict}
    (isIdentity : entryIdentity env settings activation = .ok identity) :
    Does env settings identity (PluginOp.reconcileActivation env settings activation) []
      fun after report => Owned env settings identity after ∨ Fails (.ok report) ∨
        wantsStopped env activation ∧ FoundNone env settings identity after (.ok report) := by
  unfold entryIdentity at isIdentity
  unfold PluginOp.reconcileActivation
  refine Does.value fun package isPackage => ?_
  rw [isPackage] at isIdentity
  refine Does.value fun execution isExecution => ?_
  dsimp only [bind, Except.bind] at isIdentity
  rw [isExecution] at isIdentity
  refine Does.known isIdentity ?_
  dsimp only
  split
  · rename_i stops
    unfold PluginOp.reconcileStopped
    refine Does.value fun name isName => ?_
    obtain rfl := profileName_ok isName
    refine .bind (PluginOp.stopContainer_does []) fun after idempotent outcome => .ret ?_
    rcases outcome with owned | ⟨answer, same, none⟩
    · exact .inl owned
    · exact .inr (.inr ⟨stops, ⟨_, rfl, rfl⟩, answer, same, none⟩)
  · refine .bind (PluginOp.inspect_does isPackage isIdentity []) fun after report holds => ?_
    split
    · rename_i healthy
      refine .ret (.inl ?_)
      rcases holds with missed | owned
      · rw [missed] at healthy
        simp [Json.truthy] at healthy
      · exact owned
    · refine Does.check fun _ => ?_
      refine .bind (PluginOp.provision_does (fun found isFound =>
        commandContext_reconcile isIdentity isFound) after) fun last report owned => ?_
      exact .ret (.inl owned)

theorem reconcileActivation_of_error {activation : Dict} {error : Exc}
    (isError : entryIdentity env settings activation = .error error) :
    PluginOp.reconcileActivation env settings activation = .raise error := by
  unfold entryIdentity at isError
  unfold PluginOp.reconcileActivation
  cases isPackage : activationPackage activation with
  | error other =>
      rw [isPackage] at isError
      cases isError
      rfl
  | ok package =>
      rw [isPackage] at isError
      dsimp only [bind, Except.bind] at isError
      change (Prog.ofExcept (executionIdentity env package)).bind _ = _
      cases isExecution : executionIdentity env package with
      | error other =>
          rw [isExecution] at isError
          cases isError
          rfl
      | ok execution =>
          rw [isExecution] at isError
          change (Prog.ofExcept (activationContext env settings package activation)).bind _ = _
          dsimp only at isError
          rw [isError]
          rfl

/-- An entry of `reconcile` never raises. -/
theorem PluginOp.reconcileEntry_does {activation : Dict}
    (isIdentity : entryIdentity env settings activation = .ok identity) :
    Does env settings identity (PluginOp.reconcileEntry env settings activation) []
      fun after report => Owned env settings identity after ∨ Fails (.ok report) ∨
        wantsStopped env activation ∧ FoundNone env settings identity after (.ok report) := by
  unfold PluginOp.reconcileEntry
  refine Prog.Obeys.bind (Prog.Obeys.attempt (Prog.Obeys.mono
    (PluginOp.reconcileActivation_does isIdentity) fun after result holds => ?_))
  cases result with
  | ok report => exact Does.ret (holds report rfl)
  | error error => exact Does.ret (.inr (.inl (.inl rfl)))

theorem reconcileEntry_owns {activation : Dict} {end' : Unit × List (Exchange PluginAnswer)}
    {result : Except Exc Dict}
    (runs : (PluginOp.reconcileEntry env settings activation).traced.Runs (fun _ _ => True)
      ((), []) end' result) :
    CallPart.Owns env settings
      { identity := entryIdentity env settings activation
        stops := wantsStopped env activation, trace := end'.2, result } := by
  cases isIdentity : entryIdentity env settings activation with
  | ok identity => exact CallPart.owns_of_does (PluginOp.reconcileEntry_does isIdentity) runs
  | error error =>
      unfold PluginOp.reconcileEntry at runs
      rw [reconcileActivation_of_error isIdentity] at runs
      cases runs with
      | ret => exact CallPart.owns_of_error (.inl rfl)

theorem reconcileEntry_returns {activation : Dict} {trace : List (Exchange PluginAnswer)}
    {end' : Unit × List (Exchange PluginAnswer)} {error : Exc}
    (runs : (PluginOp.reconcileEntry env settings activation).traced.Runs (fun _ _ => True)
      ((), trace) end' (.error error)) : False := by
  unfold PluginOp.reconcileEntry at runs
  rw [Prog.traced_bind, Prog.traced_attempt] at runs
  rcases runs.of_bind with ⟨middle, outcome, -, rest⟩ | ⟨other, first, -⟩
  · cases outcome with
    | ok report => cases rest
    | error failure => cases rest
  · obtain ⟨outcome, -, impossible⟩ := first.of_attempt
    cases impossible

/-- A run of the loop of `reconcile` is a run of its entries, one after the other. -/
theorem reconcileAll_parts {activations : List Dict} {end' : Unit × List (Exchange PluginAnswer)}
    {result : Except Exc (List Dict)}
    (runs : (PluginOp.reconcileAll env settings activations).traced.Runs (fun _ _ => True)
      ((), []) end' result) :
    ∃ parts reports, end'.2 = parts.flatMap CallPart.trace ∧ result = .ok reports ∧
      List.Forall₂ (fun activation part =>
        part.identity = entryIdentity env settings activation ∧
          part.stops = wantsStopped env activation) activations parts ∧
      parts.map CallPart.result = reports.map .ok ∧
      ∀ part ∈ parts, part.Owns env settings := by
  induction activations generalizing end' result with
  | nil =>
      cases runs with
      | ret => exact ⟨[], [], rfl, rfl, .nil, rfl, by simp⟩
  | cons activation activations ih =>
      unfold PluginOp.reconcileAll at runs
      rw [Prog.bind_eq, Prog.traced_bind] at runs
      rcases runs.of_bind with ⟨middle, report, first, rest⟩ | ⟨error, first, -⟩
      · rw [Prog.bind_eq, Prog.traced_bind] at rest
        have owns := reconcileEntry_owns first
        obtain ⟨middleState, entryTrace⟩ := middle
        rcases rest.of_bind with ⟨last, reports, others, done⟩ | ⟨error, others, -⟩
        · cases done with
          | ret =>
              obtain ⟨more, same, again⟩ := Prog.traced_runs_append others
              obtain ⟨parts, reports', isTrace, isOk, entries, results, each⟩ := ih (again [])
              cases isOk
              refine ⟨⟨entryIdentity env settings activation, wantsStopped env activation,
                entryTrace, .ok report⟩ :: parts, report :: reports, ?_, rfl,
                .cons ⟨rfl, rfl⟩ entries, congrArg _ results, ?_⟩
              · rw [same, List.flatMap_cons]
                exact congrArg _ isTrace
              · intro part member
                rcases List.mem_cons.1 member with rfl | member
                · exact owns
                · exact each part member
        · obtain ⟨more, same, again⟩ := Prog.traced_runs_append others
          obtain ⟨parts, reports', -, impossible, -⟩ := ih (again [])
          cases impossible
      · exact absurd first reconcileEntry_returns

end Parts

/-- A completed call: the exchanges that it had, and its result. -/
structure CompletedCall where
  call : PluginCall
  trace : List (Exchange PluginAnswer)
  result : Except Exc Dict

/-- The call has run to its end, with any answers of Docker and the services. -/
def CompletedCall.Runs (env : PluginEnv) (settings : ContainerSettings)
    (completed : CompletedCall) : Prop :=
  (completed.call.program env settings).traced.Runs (fun _ _ => True) ((), [])
    ((), completed.trace) completed.result

/-- In every sequence of completed calls, every part of every call owns what it acts on. -/
theorem containers_owned {env : PluginEnv} {settings : ContainerSettings}
    {session : List CompletedCall} (runs : ∀ completed ∈ session, completed.Runs env settings) :
    ∀ completed ∈ session, ∃ parts,
      completed.call.Consists env settings completed.trace completed.result parts ∧
        ∀ part ∈ parts, part.Owns env settings := by
  intro completed member
  have run := runs completed member
  obtain ⟨call, trace, result⟩ := completed
  cases call with
  | provision package command => exact ⟨_, rfl, by simpa using provision_owns run⟩
  | invoke package capabilityExport payload activation attemptId deadlineSeconds =>
      exact ⟨_, rfl, by simpa using invoke_owns run⟩
  | inspect activation => exact ⟨_, rfl, by simpa using inspect_owns run⟩
  | deprovision command => exact ⟨_, rfl, by simpa using deprovision_owns run⟩
  | reconcile activations =>
      unfold CompletedCall.Runs PluginCall.program PluginOp.reconcile at run
      dsimp only at run
      rw [Prog.bind_eq, Prog.traced_bind] at run
      rcases run.of_bind with ⟨middle, reports, first, rest⟩ | ⟨error, first, -⟩
      · obtain ⟨parts, reports', isTrace, isOk, entries, results, each⟩ :=
          reconcileAll_parts first
        cases isOk
        cases rest with
        | ret => exact ⟨parts, ⟨isTrace, entries, reports, rfl, results⟩, each⟩
      · obtain ⟨parts, reports', -, impossible, -⟩ := reconcileAll_parts first
        cases impossible

/-! ### A container that is removed, and one that is not there -/

namespace Demo

def containerSettings : ContainerSettings where
  slaveId := "slave-1"
  network := "loom"

/-- The command to deprovision a service. -/
def deprovisionService : Dict :=
  [("workspace_id", .str "lab"), ("package_version_ref", .str "capability-package://echo/1"),
    ("package_digest", .str (digestOf '5')), ("target_slave", .str "slave-1")]

def serviceIdentity : ContainerIdentity where
  workspaceId := "lab"
  packageDigest := digestOf '5'

/-- The container of the service, with the labels it was created with. -/
def serviceContainer : Dict :=
  [("Config", .obj [("Labels", .obj ((serviceIdentity.labels containerSettings).map fun label =>
    (label.1, .str label.2)))])]

/-- `[...]` is what `docker inspect` prints of the container. -/
def pluginEnv : PluginEnv where
  str := fun _ => ""
  lower := lower
  loads := fun text => if text = "[...]" then some (.arr [.obj serviceContainer]) else none

theorem deprovisionContext_service :
    deprovisionContext pluginEnv containerSettings deprovisionService = .ok serviceIdentity := by
  have lowered : lower (digestOf '5') = digestOf '5' := by
    unfold lower digestOf
    rw [String.toList_ofList, List.map_replicate]
    rfl
  have inhabited : (Json.str (digestOf '5')).orElse (.str "") = .str (digestOf '5') := by
    have apart : digestOf '5' ≠ "" := by
      intro empty
      have chars := congrArg String.toList empty
      simp [digestOf] at chars
    simp [Json.orElse, Json.truthy, apart]
  have isDigest : pluginEnv.lower (pluginEnv.text ((Dict.get deprovisionService
      "package_digest").orElse (.str ""))) = digestOf '5' := by
    change lower (pluginEnv.text ((Json.str (digestOf '5')).orElse (.str ""))) = _
    rw [inhabited]
    exact lowered
  unfold deprovisionContext
  dsimp only
  rw [isDigest, isSha256_digestOf (by decide)]
  rfl

/-- `docker inspect` shows the container of the service. -/
def isFound : Exchange PluginAnswer :=
  ⟨.docker ["inspect", serviceIdentity.name pluginEnv containerSettings],
    .ok { returncode := 0, stdout := "[...]" }⟩

def isRemoved : Exchange PluginAnswer :=
  ⟨.docker ["rm", "--force", serviceIdentity.name pluginEnv containerSettings],
    .ok { returncode := 0 }⟩

/-- Deprovision a service, whose container is removed. -/
def stoppedService : CompletedCall where
  call := .deprovision deprovisionService
  trace := [isFound, isRemoved]
  result := .ok (PluginOp.stoppedReport false)

theorem labelsMatch_service : labelsMatch pluginEnv serviceContainer
    (serviceIdentity.labels containerSettings) = .ok true := by
  simp [labelsMatch, serviceContainer, serviceIdentity, ContainerIdentity.labels, Dict.get,
    Json.orElse, Json.truthy, List.lookup_cons, PluginEnv.text, bind, Except.bind]

theorem stoppedService_runs : stoppedService.Runs pluginEnv containerSettings := by
  have isShown : shownContainer pluginEnv { returncode := 0, stdout := "[...]" } =
      .ok (some serviceContainer) := rfl
  unfold CompletedCall.Runs stoppedService PluginCall.program PluginOp.deprovision
  dsimp only
  rw [deprovisionContext_service]
  refine .await (.ok { returncode := 0, stdout := "[...]" }) trivial (.write ?_)
  dsimp only [Prog.bind, Bind.bind]
  simp only [Prog.ofExcept, Prog.bind, isShown, labelsMatch_service, Prog.guard, if_true]
  refine .await (.ok { returncode := 0 }) trivial (.write ?_)
  exact .ret

/-- `docker inspect` where there is no such container. -/
def notFound : Exchange PluginAnswer :=
  ⟨.docker ["inspect", serviceIdentity.name pluginEnv containerSettings],
    .ok { returncode := 1, stderr := "Error: No such object" }⟩

/-- Deprovision a service whose container is not there. -/
def stoppedNothing : CompletedCall where
  call := .deprovision deprovisionService
  trace := [notFound]
  result := .ok (PluginOp.stoppedReport true)

theorem stoppedNothing_runs : stoppedNothing.Runs pluginEnv containerSettings := by
  unfold CompletedCall.Runs stoppedNothing PluginCall.program PluginOp.deprovision
  dsimp only
  rw [deprovisionContext_service]
  refine .await (.ok { returncode := 1, stderr := "Error: No such object" }) trivial (.write ?_)
  exact .ret

end Demo

/-- A service is deprovisioned twice: its container is removed, and then it is missing. -/
theorem containers_owned_removed : ∃ parts,
    (PluginCall.deprovision Demo.deprovisionService).Consists Demo.pluginEnv Demo.containerSettings
      [Demo.isFound, Demo.isRemoved] (.ok (PluginOp.stoppedReport false)) parts ∧
        ∀ part ∈ parts, part.Owns Demo.pluginEnv Demo.containerSettings := by
  have runs : ∀ completed ∈ [Demo.stoppedService, Demo.stoppedNothing],
      completed.Runs Demo.pluginEnv Demo.containerSettings := by
    intro completed member
    rcases List.mem_cons.1 member with rfl | member
    · exact Demo.stoppedService_runs
    · rw [List.mem_singleton.1 member]
      exact Demo.stoppedNothing_runs
  exact containers_owned runs Demo.stoppedService List.mem_cons_self

/-- A call may end without a failure and without ever having seen the container. -/
theorem stopped_without_container :
    Demo.stoppedNothing.Runs Demo.pluginEnv Demo.containerSettings ∧
      ¬Owned Demo.pluginEnv Demo.containerSettings Demo.serviceIdentity Demo.stoppedNothing.trace ∧
      ¬Fails Demo.stoppedNothing.result := by
  refine ⟨Demo.stoppedNothing_runs, ?_, ?_⟩
  · rintro ⟨before, after, split, sighting, isSeen, -⟩
    change [Demo.notFound] = before ++ after at split
    cases before with
    | nil => cases isSeen
    | cons first rest =>
        obtain ⟨rfl, none⟩ := List.cons.inj split
        obtain ⟨rfl, -⟩ := List.append_eq_nil_iff.1 none.symm
        simp [seen, sight, Demo.notFound, shownContainer] at isSeen
  · change ¬(Dict.get (PluginOp.stoppedReport true) "activation_state" = .str "failed" ∨
      Dict.get (PluginOp.stoppedReport true) "identity_match" = .bool false)
    decide

end Loom
