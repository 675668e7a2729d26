import Loom.Observer.Execution

/-!
# Drafts under interleaving

`apply_patch` and `commit` check the draft that the caller names before they suspend, and go on
with the draft that the record has when they resume.  In every interleaving of the Observer's
operations the draft of a record is replaced only by newer ones, so that a version id stands for
one draft.  Hence a commit whose write finds the named draft in place commits what was inspected,
and patches whose writes find their base in place form a chain.
-/

namespace Loom

open Coroutine

/-- A version with a draft id that was drawn after the one of `old`. -/
def Newer (env : Env) (old new : ClosureVersion) : Prop :=
  ∃ number, new.versionId = "draft-" ++ env.hex number ∧
    ∀ earlier, old.versionId = "draft-" ++ env.hex earlier → earlier < number

namespace Newer

variable {env : Env} {old middle new : ClosureVersion}

theorem trans (one : Newer env old middle) (two : Newer env middle new) : Newer env old new := by
  obtain ⟨first, isFirst, before⟩ := one
  obtain ⟨second, isSecond, between⟩ := two
  refine ⟨second, isSecond, fun earlier isEarlier => ?_⟩
  exact lt_trans (before earlier isEarlier) (between first isFirst)

/-- A newer version has another id. -/
theorem differs (newer : Newer env old new) : new.versionId ≠ old.versionId := by
  obtain ⟨number, isNumber, above⟩ := newer
  intro same
  exact lt_irrefl _ (above number (same.symm.trans isNumber))

end Newer

/-- The draft of a record is kept or replaced by newer ones. -/
def DraftMoves (env : Env) (before after : RunRecord) : Prop :=
  after.draft = before.draft ∨ Newer env before.draft after.draft

/-- The draft id of a record has been drawn. -/
def DraftDrawn (env : Env) (uuids : Nat) (record : RunRecord) : Prop :=
  ∀ number, record.draft.versionId = "draft-" ++ env.hex number → number < uuids

namespace DraftMoves

variable {env : Env} {first second third : RunRecord}

theorem trans (one : DraftMoves env first second) (two : DraftMoves env second third) :
    DraftMoves env first third := by
  rcases one with same | newer
  · rcases two with same' | newer
    · exact .inl (same'.trans same)
    · right
      rwa [same] at newer
  · rcases two with same | newer'
    · right
      rwa [same]
    · exact .inr (newer.trans newer')

/-- A version id stands for one draft of a record. -/
theorem eq_of_versionId (moves : DraftMoves env first second)
    (same : second.draft.versionId = first.draft.versionId) : second.draft = first.draft := by
  rcases moves with kept | newer
  · exact kept
  · exact (newer.differs same).elim

end DraftMoves

/-! ### Updates of the draft -/

/-- The draft that an update installs. -/
def RecordWrite.draft? : RecordWrite → Option ClosureVersion
  | .setDraft version => some version
  | _ => none

theorem draft_apply (update : RecordWrite) (record : RunRecord) :
    (apply update record).draft = update.draft?.getD record.draft := by
  cases update with
  | transition event reason =>
      obtain ⟨state, events, same⟩ := apply_transition record event reason
      rw [same]
      rfl
  | _ => rfl

theorem draft_applyAll {updates : List RecordWrite}
    (keep : ∀ update ∈ updates, update.draft? = none) (record : RunRecord) :
    (applyAll updates record).draft = record.draft := by
  induction updates generalizing record with
  | nil => rfl
  | cons update updates ih =>
      rw [applyAll_cons, ih fun other member => keep other (List.mem_cons_of_mem _ member),
        draft_apply, keep update List.mem_cons_self]
      rfl

variable {env : Env} {ok : (query : Query) → Answer query → Prop} {rely : Repo → Repo → Prop}

/-- No operation but `apply_patch` installs a draft. -/
theorem Change.keepsDraft {site : Site} {call : Call} {updates : List RecordWrite} {fate : Fate}
    (change : Change env ok rely site call updates fate) :
    ∀ update ∈ updates, update.draft? = none := by
  cases change <;> simp [RecordWrite.draft?]

theorem Reassignment.keepsDraft {site : Site} {args : ReassignArgs}
    (move : Reassignment env rely site args) : ∀ update ∈ move.updates, update.draft? = none := by
  simp [Reassignment.updates, RecordWrite.draft?]

/-- What a patch installs: a draft made of the named one, with a fresh id. -/
theorem DraftChange.installs {site : Site} {operations : List Dict} {draft : List RecordWrite}
    (change : DraftChange env ok site operations draft) :
    ∃ number digest snapshot rest, draft =
        .setDraft (site.patched (env.hex number) digest snapshot) :: rest ∧
      (∀ update ∈ rest, update.draft? = none) ∧ site.Drawn number ∧
      (Op.applyOperations env site.address operations site.loaded.draft.snapshot).Returns ok
        (.ok snapshot) := by
  cases change with
  | refined number digest snapshot applied drawn thinking =>
      exact ⟨number, digest, snapshot, _, rfl, by simp, drawn, applied⟩
  | begun number digest snapshot applied drawn opened legal =>
      exact ⟨number, digest, snapshot, _, rfl, by simp [RecordWrite.draft?], drawn, applied⟩
  | repaired number digest snapshot applied drawn awaiting legal =>
      exact ⟨number, digest, snapshot, _, rfl, by simp [RecordWrite.draft?], drawn, applied⟩
  | late number digest snapshot applied drawn undecided illegal =>
      exact ⟨number, digest, snapshot, _, rfl, by simp, drawn, applied⟩

/-- The draft after the updates of a patch. -/
theorem draft_patched (packages : List CapabilityPackageVersion) (version : ClosureVersion)
    {rest : List RecordWrite} (keep : ∀ update ∈ rest, update.draft? = none)
    (events : List Event) (record : RunRecord) :
    (applyAll (packages.map .appendPackage ++ .setDraft version :: rest ++
      events.map .appendEvent) record).draft = version := by
  rw [applyAll_append, applyAll_append, applyAll_cons]
  rw [draft_applyAll, draft_applyAll keep]
  · rfl
  · intro update member
    obtain ⟨event, -, rfl⟩ := List.mem_map.1 member
    rfl

theorem draft_packed (packages : List CapabilityPackageVersion) (events : List Event)
    (record : RunRecord) :
    (applyAll (packages.map RecordWrite.appendPackage ++ [] ++ events.map .appendEvent)
      record).draft = record.draft := by
  refine draft_applyAll ?_ record
  intro update member
  simp only [List.append_nil, List.mem_append, List.mem_map] at member
  rcases member with ⟨package, -, rfl⟩ | ⟨event, -, rfl⟩
  · rfl
  · rfl

/-- Drafts are replaced by newer ones only. -/
theorem draft_law (fresh : Function.Injective env.hex) :
    Law env ok (fun _ => True) (DraftMoves env) (DraftDrawn env) where
  still {before after} still := by
    obtain ⟨events, packages, -, rfl⟩ := still
    exact .inl rfl
  trans := DraftMoves.trans
  touch {segment address after} _ sound bound touched := by
    have later : segment.origin.start.uuids ≤ segment.final.uuids := uuids_le _ _
    have drawn := sound.fine address bound
    have kept : ∀ {record : RunRecord}, record.draft = (segment.origin.start.heap address).draft →
        DraftMoves env (segment.origin.start.heap address) record ∧
          DraftDrawn env segment.final.uuids record := by
      intro record same
      refine ⟨.inl same, fun number isNumber => ?_⟩
      rw [same] at isNumber
      exact lt_of_lt_of_le (drawn number isNumber) later
    cases touched with
    | kept => exact kept rfl
    | changed site updates fate isSite place change =>
        exact kept (draft_applyAll change.keepsDraft _)
    | concluded runId baseVersion baseDigest operationId operations events isPatch =>
        exact kept (draft_packed [] events _)
    | patched site runId baseVersion baseDigest operationId operations packages draft events isSite
        place isPatch admitted drafted =>
        rcases drafted with rfl | change
        · exact kept (draft_packed packages events _)
        · obtain ⟨number, digest, snapshot, rest, rfl, keep, isDrawn, -⟩ := change.installs
          unfold Site.Drawn at isDrawn
          rw [place.start, place.uuids] at isDrawn
          unfold DraftMoves DraftDrawn
          rw [draft_patched packages _ keep events]
          refine ⟨.inr ⟨number, rfl, fun earlier isEarlier => ?_⟩, fun other isOther => ?_⟩
          · exact lt_of_lt_of_le (drawn earlier isEarlier) isDrawn.1
          · have same := fresh ((String.append_right_inj _).1 isOther)
            subst same
            exact isDrawn.2
  create {segment record} _ sound created := by
    have later : segment.origin.start.uuids ≤ segment.final.uuids := uuids_le _ _
    have copied : ∀ {site : Site} {args : ReassignArgs} {copy : RunRecord},
        segment.label = .reassignDynamicNode args →
        site.Place (Evolves (DraftMoves env)) segment.label segment.origin segment.made →
        copy.draft = site.record.draft → DraftDrawn env segment.final.uuids copy := by
      intro site args copy isReassign place same number isNumber
      have names : segment.label.runId? = some args.runId := by rw [isReassign]; rfl
      obtain ⟨bound, -⟩ := place.evolved sound.allocated (fun _ => .inl rfl) names
      rw [same, Site.record, place.start] at isNumber
      exact lt_of_lt_of_le (sound.fine _ bound number isNumber) later
    cases created with
    | opened args record contract number isOpen contracted isNew drawn drafted =>
        intro other isOther
        rw [drafted] at isOther
        have same := fresh ((String.append_right_inj _).1 isOther)
        subst same
        exact drawn.2
    | copied site args move isReassign place =>
        exact copied isReassign place (draft_applyAll move.keepsDraft _)
    | copyFailed site args isReassign place => exact copied isReassign place rfl

/-! ### The chain of drafts -/

/-- A segment installs a draft in the record at an address. -/
def Installs (segment : ObserverSegment) (address : Nat) (version : ClosureVersion) : Prop :=
  Write.record address (.setDraft version) ∈ segment.made

/-- The base that a patch names. -/
def Call.baseVersion? : Call → Option String
  | .applyPatch _ baseVersion _ _ _ => some baseVersion
  | _ => none

/-- The draft of a record is the one with an id and a digest. -/
def Repo.hasDraft (repo : Repo) (address : Nat) (versionId digest : String) : Bool :=
  (repo.heap address).draft.versionId = versionId &&
    (repo.heap address).draft.snapshotDigest = digest

/-- A segment of `apply_patch` that installs a draft starts with the named base in place. -/
def patchesNamedDraft (segment : ObserverSegment) : Bool :=
  match segment.label with
  | .applyPatch _ baseVersion baseDigest _ _ =>
      segment.made.all fun write =>
        match write with
        | .record address (.setDraft _) =>
            segment.origin.start.hasDraft address baseVersion baseDigest
        | _ => true
  | _ => true

/-- The draft that a segment installs extends the one it finds, which is the base that its caller
named: it is the next in the chain, and the operations of the patch made it of the old snapshot. -/
structure Link (env : Env) (ok : (query : Query) → Answer query → Prop)
    (segment : ObserverSegment) (address : Nat) (old new : ClosureVersion) : Prop where
  found : (segment.origin.start.heap address).draft = old
  installed : (segment.final.heap address).draft = new
  parent : new.parentVersion = some old.versionId
  cursor : new.patchCursor = old.patchCursor + 1
  patched : ∃ runId operationId operations,
    segment.label = .applyPatch runId old.versionId old.snapshotDigest operationId operations ∧
    (Op.applyOperations env address operations old.snapshot).Returns ok (.ok new.snapshot)

/-- What is known of a segment that installs a draft. -/
structure Patches (env : Env) (ok : (query : Query) → Answer query → Prop)
    (rely : Repo → Repo → Prop) (call : Call) (origin : Origin Repo Query) (made : List Write)
    (address : Nat) (version : ClosureVersion) where
  site : Site
  runId : String
  baseVersion : String
  baseDigest : String
  operationId : String
  operations : List Dict
  number : Nat
  digest : String
  snapshot : TaskClosure
  isSite : site.address = address
  isPatch : call = .applyPatch runId baseVersion baseDigest operationId operations
  place : site.Place rely call origin made
  admitted : site.loaded.draft.versionId = baseVersion ∧
    site.loaded.draft.snapshotDigest = baseDigest
  drawn : site.Drawn number
  isVersion : version = site.patched (env.hex number) digest snapshot
  installed : ((applyAll made origin.start).heap address).draft = version
  applied : (Op.applyOperations env site.address operations site.loaded.draft.snapshot).Returns ok
    (.ok snapshot)

theorem mem_writesAt {address target : Nat} {update : RecordWrite} {updates : List RecordWrite}
    (member : Write.record address update ∈ writesAt target updates) :
    address = target ∧ update ∈ updates := by
  obtain ⟨other, isOther, same⟩ := List.mem_map.1 member
  cases same
  exact ⟨rfl, isOther⟩

theorem mem_effects {made : List Write} {address : Nat} {update : RecordWrite}
    (member : Write.record address update ∈ made) : Write.record address update ∈ effects made :=
  List.mem_filter.2 ⟨member, rfl⟩

/-- Only the segment of a patch that is through its operations installs a draft. -/
theorem Block.installs {call : Call} {origin : Origin Repo Query} {made : List Write}
    {stop : Stop Exc Query Reply} (block : Block env ok rely call origin made stop)
    {address : Nat} {version : ClosureVersion}
    (installs : Write.record address (.setDraft version) ∈ made) :
    Nonempty (Patches env ok rely call origin made address version) := by
  have member := mem_effects installs
  have absurdly : ∀ {updates : List RecordWrite}, RecordWrite.setDraft version ∈ updates →
      (∀ update ∈ updates, update.draft? = none) → False := by
    intro updates isUpdate keep
    cases keep _ isUpdate
  have receiptless : ∀ {operationId : String} {target : Nat} {receipt : List Write},
      receipt = [] ∨ IsReceipt operationId target receipt →
      Write.record address (.setDraft version) ∉ receipt := by
    rintro operationId target receipt (rfl | ⟨stored, events, -, rfl⟩) isWrite
    · cases isWrite
    · rcases List.mem_cons.1 isWrite with same | isWrite
      · cases same
      · obtain ⟨-, isEvent⟩ := mem_writesAt isWrite
        obtain ⟨event, -, same⟩ := List.mem_map.1 isEvent
        cases same
  cases block with
  | quiet untouched _ =>
      rw [untouched] at member
      cases member
  | change site updates fate place writes ends change =>
      rw [writes] at member
      exact (absurdly (mem_writesAt member).2 change.keepsDraft).elim
  | opened args record contract isOpen first writes named contracted isNew ends number drawn
      drafted =>
      rw [writes] at member
      simp at member
  | copied site args move isReassign place writes ends =>
      rw [writes] at member
      rcases List.mem_cons.1 member with same | member
      · cases same
      · exact (absurdly (mem_writesAt member).2 move.keepsDraft).elim
  | copyFailed site args error isReassign place writes ends =>
      rw [writes] at member
      simp at member
  | swapped args copied copy target isReassign query isCopy allocated moved writes ends =>
      rw [writes] at member
      simp at member
  | concluded runId baseVersion baseDigest operationId operations target before middle earlier
      receipt updates isPatch found moved wrote movedAgain late writes isReceipt =>
      rw [writes] at member
      exact (receiptless (.inr isReceipt) member).elim
  | patched site runId baseVersion baseDigest operationId operations packages draft receipt isPatch
      place admitted editable writes drafted concluded =>
      rw [writes] at member
      rcases List.mem_append.1 member with member | member
      · obtain ⟨rfl, isUpdate⟩ := mem_writesAt member
        rcases List.mem_append.1 isUpdate with isPackage | isDraft
        · obtain ⟨package, -, same⟩ := List.mem_map.1 isPackage
          cases same
        · rcases drafted with rfl | change
          · cases isDraft
          · obtain ⟨number, digest, snapshot, rest, rfl, keep, drawn, applied⟩ := change.installs
            rcases List.mem_cons.1 isDraft with same | isRest
            · cases same
              obtain ⟨events, heap⟩ := heap_patched origin.start writes concluded
              have installed := draft_patched packages
                (site.patched (env.hex number) digest snapshot) keep events
                (origin.start.heap site.address)
              refine ⟨⟨site, runId, baseVersion, baseDigest, operationId, operations, number,
                digest, snapshot, rfl, isPatch, place, admitted, drawn, rfl, ?_, applied⟩⟩
              rw [heap, Function.update_self]
              exact installed
            · exact (absurdly isRest keep).elim
      · exact (receiptless concluded member).elim

/-- A patch whose base is in place when its draft is installed extends the chain. -/
theorem Patches.link {segment : ObserverSegment} {address : Nat} {version : ClosureVersion}
    (patches : Patches env ok (Evolves (DraftMoves env)) segment.label segment.origin segment.made
      address version)
    (sound : segment.origin.start.Sound (DraftDrawn env))
      (installs : Installs segment address version)
    (named : patchesNamedDraft segment) :
    address < segment.origin.start.next ∧
      Link env ok segment address (segment.origin.start.heap address).draft version ∧
      Newer env (segment.origin.start.heap address).draft version := by
  obtain ⟨site, runId, baseVersion, baseDigest, operationId, operations, number, digest, snapshot,
    rfl, isPatch, place, admitted, drawn, isVersion, installed, applied⟩ := patches
  have names : segment.label.runId? = some runId := by
    rw [isPatch]
    rfl
  obtain ⟨bound, moves⟩ := place.evolved sound.allocated (fun _ => .inl rfl) names
  have isRecord : site.record = segment.origin.start.heap site.address := by
    rw [Site.record, place.start]
  -- The base is still in place, so the draft that was patched is the one that is replaced.
  have inPlace : site.record.draft.versionId = baseVersion ∧
      site.record.draft.snapshotDigest = baseDigest := by
    unfold patchesNamedDraft at named
    rw [isPatch] at named
    have here := List.all_eq_true.1 named _ installs
    simp only [Repo.hasDraft, Bool.and_eq_true, decide_eq_true_eq] at here
    rwa [isRecord]
  have same := moves.eq_of_versionId (inPlace.1.trans admitted.1.symm)
  rw [← isRecord]
  refine ⟨bound, ⟨?_, installed, ?_, ?_, ?_⟩, ?_⟩
  · rw [isRecord]
  · rw [isVersion]
    rfl
  · rw [isVersion]
    rfl
  · refine ⟨runId, operationId, operations, ?_, ?_⟩
    · rw [isPatch, inPlace.1, inPlace.2]
    · rw [same, isVersion]
      exact applied
  · refine ⟨number, by rw [isVersion]; rfl, fun earlier isEarlier => ?_⟩
    have isDrawn := drawn.1
    rw [place.start] at isDrawn
    rw [isRecord] at isEarlier
    exact lt_of_lt_of_le (sound.fine _ bound earlier isEarlier) isDrawn

theorem sound_empty (fine : Nat → RunRecord → Prop) : Repo.empty.Sound fine := by
  constructor
  · intro runId address installed
    cases installed
  · intro address bound
    cases bound

/-- The draft of an allocated record changes only where one is installed. -/
theorem draft_of_writes {made : List Write} {address : Nat} {repo : Repo}
    (bound : address < repo.next)
    (none : ∀ version, Write.record address (.setDraft version) ∉ made) :
    ((applyAll made repo).heap address).draft = (repo.heap address).draft := by
  induction made generalizing repo with
  | nil => rfl
  | cons write made ih =>
      have rest : ∀ version, Write.record address (.setDraft version) ∉ made :=
        fun version member => none version (List.mem_cons_of_mem _ member)
      have here : address < (apply write repo).next ∧
          ((apply write repo).heap address).draft = (repo.heap address).draft := by
        cases write with
        | record target update =>
            refine ⟨bound, ?_⟩
            show (Function.update repo.heap target _ address).draft = _
            by_cases same : address = target
            · subst same
              rw [Function.update_self]
              refine (draft_apply update _).trans ?_
              cases update with
              | setDraft version => exact (none version List.mem_cons_self).elim
              | _ => rfl
            · rw [Function.update_of_ne same]
        | alloc record =>
            refine ⟨Nat.lt_succ_of_lt bound, ?_⟩
            show (Function.update repo.heap repo.next _ address).draft = _
            rw [Function.update_of_ne bound.ne]
        | _ => exact ⟨bound, rfl⟩
      rw [applyAll_cons, ih here.1 rest, here.2]

/-- In every interleaving in which each patch installs its draft while the base that its caller
named is in place, the drafts of a record form one chain: each segment keeps the draft or
extends it, the base of an extension is the draft it replaces, and no two patches extend one
base. -/
theorem patches_form_chain (fresh : Function.Injective env.hex) {ready : Query → Repo → Prop}
    {segments : List ObserverSegment} {pool : ObserverPool}
    (run : Pool.Run (Call.prog env) ok ready ⟨Repo.empty, []⟩ segments pool)
    (named : ∀ segment ∈ segments, patchesNamedDraft segment) :
    (∀ segment ∈ segments, ∀ address < segment.origin.start.next,
      (segment.final.heap address).draft = (segment.origin.start.heap address).draft ∨
      ∃ version, Link env ok segment address (segment.origin.start.heap address).draft version) ∧
    (∀ segment ∈ segments, ∀ address version, Installs segment address version →
      Link env ok segment address (segment.origin.start.heap address).draft version) ∧
    segments.Pairwise fun earlier later => ∀ address first second,
      Installs earlier address first → Installs later address second →
        earlier.label.baseVersion? ≠ later.label.baseVersion? := by
  have law : Law env ok _ _ _ := draft_law fresh
  have all := law.run run (fun _ _ => trivial) (sound_empty _)
  have linked : ∀ segment ∈ segments, ∀ address version, Installs segment address version →
      address < segment.origin.start.next ∧
        Link env ok segment address (segment.origin.start.heap address).draft version ∧
        Newer env (segment.origin.start.heap address).draft version := by
    intro segment member address version installs
    obtain ⟨block, sound, -⟩ := all segment member
    obtain ⟨patches⟩ := block.installs installs
    exact patches.link sound installs (named segment member)
  refine ⟨?_, fun segment member address version installs =>
    (linked segment member address version installs).2.1, ?_⟩
  · intro segment member address bound
    by_cases installs : ∃ version, Installs segment address version
    · obtain ⟨version, installs⟩ := installs
      exact .inr ⟨version, (linked segment member address version installs).2.1⟩
    · exact .inl (draft_of_writes bound fun version member => installs ⟨version, member⟩)
  · refine (law.ordered run (fun _ _ => trivial) (sound_empty _)).imp_of_mem ?_
    intro earlier later isEarlier isLater evolved address first second installs installs'
    obtain ⟨bound, link, newer⟩ := linked earlier isEarlier address first installs
    obtain ⟨-, link', -⟩ := linked later isLater address second installs'
    -- The draft that the later patch finds is the earlier one's, or newer than it.
    have moved : DraftMoves env (earlier.final.heap address) (later.origin.start.heap address) := by
      refine evolved.records address (lt_of_lt_of_le bound ?_)
      exact (all earlier isEarlier).2.2.next
    have beyond : Newer env (earlier.origin.start.heap address).draft
        (later.origin.start.heap address).draft := by
      rcases moved with same | newer'
      · rwa [same, link.installed]
      · rw [link.installed] at newer'
        exact newer.trans newer'
    obtain ⟨_, _, _, label, -⟩ := link.patched
    obtain ⟨_, _, _, label', -⟩ := link'.patched
    rw [label, label']
    intro same
    exact beyond.differs (Option.some.inj same).symm

/-- The draft that a segment installs in the record at an address. -/
def installed? (segment : ObserverSegment) (address : Nat) : Option ClosureVersion :=
  segment.made.findSome? fun write =>
    match write with
    | .record target (.setDraft version) => if target = address then some version else none
    | _ => none

theorem installs_of_installed? {segment : ObserverSegment} {address : Nat}
    {version : ClosureVersion} (installed : installed? segment address = some version) :
    Installs segment address version := by
  obtain ⟨write, member, found⟩ := List.exists_of_findSome?_eq_some installed
  split at found
  · split at found
    · rename_i same
      subst same
      cases found
      exact member
    · cases found
  · cases found

/-- A patch that suspends for the contract of its package. -/
def packagePatch (base operationId : String) : Call :=
  .applyPatch "run" base (Demo.digest 1) operationId
    [Demo.materialize "double" "process:json_stdio" []]

/-- A patch that does not suspend before its draft is installed. -/
def expectationPatch (base operationId : String) : Call :=
  .applyPatch "run" base (Demo.digest 1) operationId
    [[("kind", .str "set_result_expectation"), ("value", .str "a number")]]

/-- A patch that nothing interferes with. -/
def onePatch : Demo.Checked fun segments => segments.all patchesNamedDraft &&
    segments.any fun segment => (installed? segment 0).isSome where
  schedule := Demo.refining ++ .spawn (expectationPatch "draft-0" "first") :: Demo.answered 2 6
  passes := by decide +kernel

theorem patches_form_chain_expectation :
    ∃ segments, Demo.Plays onePatch.schedule segments ∧ ∃ segment ∈ segments, ∃ version,
      Installs segment 0 version ∧ Link Demo.env (fun _ _ => True) segment 0
        (segment.origin.start.heap 0).draft version := by
  obtain ⟨segments, plays, checked⟩ := onePatch.plays
  obtain ⟨pool, run⟩ := plays.interleaves
  obtain ⟨named, installs⟩ := Bool.and_eq_true_iff.1 checked
  obtain ⟨segment, member, isSome⟩ := List.any_eq_true.1 installs
  obtain ⟨version, isVersion⟩ := Option.isSome_iff_exists.1 isSome
  have installs := installs_of_installed? isVersion
  obtain ⟨-, linked, -⟩ := patches_form_chain Demo.hex_injective run (List.all_eq_true.1 named)
  exact ⟨segments, plays, segment, member, version, installs,
    linked segment member 0 version installs⟩

/-- The call has returned. -/
def hasReturned (segments : List ObserverSegment) (call : Call) : Bool :=
  segments.any fun segment => segment.label = call &&
    match segment.stop with
    | .returns _ => true
    | _ => false

/-- A segment of `later` overwrites what a segment of `earlier` has installed. -/
def Overwrites (segments : List ObserverSegment) (earlier later : ObserverSegment)
    (first second : ClosureVersion) : Prop :=
  earlier.label = expectationPatch "draft-0" "second" ∧
  later.label = packagePatch "draft-0" "first" ∧
  hasReturned segments earlier.label ∧ hasReturned segments later.label ∧
  earlier.label.baseVersion? = later.label.baseVersion? ∧
  second.parentVersion ≠ later.label.baseVersion? ∧
  Dict.get first.snapshot.metadata "result_expectation" = .str "a number" ∧
  Dict.get second.snapshot.metadata "result_expectation" = .null

instance (segments : List ObserverSegment) (earlier later : ObserverSegment)
    (first second : ClosureVersion) : Decidable (Overwrites segments earlier later first second) :=
  inferInstanceAs (Decidable (_ ∧ _))

def overwritten (segments : List ObserverSegment) : Bool :=
  segments[8]?.any fun earlier => segments[14]?.any fun later =>
    (installed? earlier 0).any fun first => (installed? later 0).any fun second =>
      Overwrites segments earlier later first second

/-- Two patches of one base, the second while the first is suspended. -/
def rivalPatches : Demo.Checked overwritten where
  schedule := Demo.refining ++ .spawn (packagePatch "draft-0" "first") :: Demo.answered 2 1 ++
    .spawn (expectationPatch "draft-0" "second") :: Demo.answered 3 6 ++ Demo.answered 2 6
  passes := by decide +kernel

/-- The patches of one base both return; the draft of the later one does not have the named base as
its parent, and the effect of the earlier one is lost. -/
theorem rival_patches_overwrite :
    ∃ segments, Demo.Plays rivalPatches.schedule segments ∧ ∃ earlier later first second,
      segments[8]? = some earlier ∧ segments[14]? = some later ∧
      Installs earlier 0 first ∧ Installs later 0 second ∧
      Overwrites segments earlier later first second := by
  obtain ⟨segments, plays, checked⟩ := rivalPatches.plays
  obtain ⟨earlier, isEarlier, checked⟩ := (Option.any_eq_true _ _).1 checked
  obtain ⟨later, isLater, checked⟩ := (Option.any_eq_true _ _).1 checked
  obtain ⟨first, isFirst, checked⟩ := (Option.any_eq_true _ _).1 checked
  obtain ⟨second, isSecond, checked⟩ := (Option.any_eq_true _ _).1 checked
  exact ⟨segments, plays, earlier, later, first, second, isEarlier, isLater,
    installs_of_installed? isFirst, installs_of_installed? isSecond, of_decide_eq_true checked⟩

/-! ### Commits -/

/-- Drafts with one id are the same draft. -/
def Repo.AgreesOn (first second : Repo) : Prop :=
  ∀ address < first.next, address < second.next →
    (first.heap address).draft.versionId = (second.heap address).draft.versionId →
    (first.heap address).draft = (second.heap address).draft

theorem Repo.AgreesOn.symm {first second : Repo} (agree : first.AgreesOn second) :
    second.AgreesOn first :=
  fun address bound bound' same => (agree address bound' bound same.symm).symm

end Loom
