import Loom.Coroutine.Lives
import Loom.Observer.Execution

/-!
# Receipts of patches

`apply_patch` answers a repeated operation id from a map in memory, which it looks at before it
loads the run, and fills after the draft is installed.  In every life of the Observer, with any
interleaving of its operations and any restarts, the operations of one operation id are applied at
most once, and answered with a receipt of the same run, as long as each call finds the receipt of
its own run, or no draft and no suspended call of its operation id.
-/

namespace Loom

open Coroutine

/-- The operation id of a patch. -/
def Call.operationId? : Call → Option String
  | .applyPatch _ _ _ operationId _ => some operationId
  | _ => none

/-- The call is a patch under an operation id. -/
def Call.patchesUnder (operationId : String) (call : Call) : Bool :=
  call.operationId? = some operationId

/-- The drafts that a write installs. -/
def draftWeight : Write → Nat
  | .record _ (.setDraft _) => 1
  | _ => 0

/-- How often drafts were installed under an operation id. -/
def applications (operationId : String) (segments : List ObserverSegment) : Nat :=
  Pool.spent draftWeight (Call.patchesUnder operationId) segments

/-- What a restart of the Observer makes of its memory: the map of receipts and the locks are
empty, and the records are such as were handed to storage. -/
structure Repo.Restarted (segments : List ObserverSegment) (before after : Repo) : Prop where
  idempotency : after.idempotency = []
  locked : after.locked = []
  uuids : before.uuids ≤ after.uuids
  stored : ∀ runId address, after.address? runId = some address →
    address < after.next ∧ (after.heap address).runId = runId ∧
      ∃ segment ∈ segments, segment.stop = .awaits (.persist (after.heap address))

/-- A patch starts where the receipt of its operation id belongs to its run, or, if there is none,
no draft was installed under the operation id and no patch under it is suspended. -/
def patchInOrder (segments : List ObserverSegment) (pool : ObserverPool) (call : Call) : Bool :=
  match call with
  | .applyPatch runId _ _ operationId _ =>
      match pool.state.idempotency.lookup operationId with
      | some receipt => receipt.runId = runId
      | none => applications operationId segments = 0 &&
          pool.threads.all fun thread =>
            !thread.label.patchesUnder operationId || thread.rest.isOver
  | _ => true

/-- Lives of the Observer whose calls are permitted. -/
abbrev ObserverLife (env : Env) (ok : (query : Query) → Answer query → Prop)
    (ready : Query → Repo → Prop)
    (permits : List ObserverSegment → ObserverPool → Call → Prop) :=
  Pool.Life (Call.prog env) ok ready permits Repo.Restarted Repo.empty

/-! ### The writes of a patch -/

/-- The write installs no draft and stores no receipt. -/
def Write.isPlain : Write → Bool
  | .record _ (.setDraft _) | .storeReceipt _ _ => false
  | _ => true

/-- The write stores receipts of one run under one operation id only. -/
def StoresOwn (runId operationId : String) (write : Write) : Prop :=
  ∀ other receipt, write = .storeReceipt other receipt →
    other = operationId ∧ receipt.runId = runId

theorem draftWeight_plain {write : Write} (plain : write.isPlain) : draftWeight write = 0 := by
  cases write with
  | record address update => cases update <;> first | rfl | cases plain
  | _ => rfl

theorem storesOwn_plain {runId operationId : String} {write : Write} (plain : write.isPlain) :
    StoresOwn runId operationId write := by
  rintro other receipt rfl
  cases plain

namespace Op

variable {env : Env} {α : Type}

/-- The program installs no draft and stores no receipt. -/
abbrev Plain (program : Op α) : Prop := program.Only (fun write => write.isPlain) fun _ => True

theorem Reads.plain {program : Op α} (reads : Reads program) : Plain program := by
  refine reads.mono (fun write isMinor => ?_) fun _ _ => trivial
  cases write <;> first | rfl | cases isMinor

theorem plain_applyOperations (address : Nat) (operations : List Dict) (snapshot : TaskClosure) :
    Plain (applyOperations env address operations snapshot) := by
  refine (packs_applyOperations address operations snapshot).mono (fun write packs => ?_)
    fun _ _ => trivial
  rcases packs with isMinor | ⟨package, rfl⟩
  · cases write <;> first | rfl | cases isMinor
  · rfl

theorem plain_load (runId : String) : Plain (load runId) := by
  refine ⟨trivial, fun _ repo => ?_⟩
  dsimp only
  split
  · trivial
  · trivial

theorem plain_admitPatch (runId baseVersion baseDigest : String) :
    Plain (admitPatch runId baseVersion baseDigest) := by
  refine Prog.Only.bind (plain_load runId) fun address => ?_
  refine Prog.Only.bind (Reads.recordAt address).plain fun record => ?_
  refine Prog.Only.bind (Prog.Only.guard _ _) fun _ => ?_
  refine Prog.Only.bind (Prog.Only.guard _ _) fun _ => ?_
  exact Prog.Only.bind (Prog.Only.guard _ _) fun _ => trivial

theorem plain_transition (address : Nat) (event : RunEvent) (reason : Option Json) :
    Plain (transition address event reason) := by
  intro repo
  dsimp only
  split
  · exact ⟨rfl, trivial⟩
  · trivial

theorem plain_persist (address : Nat) : Plain (persist address) :=
  fun _ => ⟨trivial, fun _ => Prog.Only.ofExcept _⟩

theorem plain_appendEvent (address : Nat) (event : Event) : Plain (appendEvent address event) :=
  ⟨rfl, trivial⟩

/-- The transition of a patch, after its draft. -/
def beginRefining (address : Nat) (admitted : RunState) : Op Unit :=
  if admitted = .opened then transition address .refinementStarted
  else if admitted = .awaitingDecision then
    transition address .refinementStarted >>= fun _ => modify address (.setOutcome none)
  else .ret ()

/-- The draft that a patch makes for a record. -/
def newDraft (record : RunRecord) (versionId digest : String) (snapshot : TaskClosure) :
    ClosureVersion :=
  { versionId := "draft-" ++ versionId, closureId := record.draft.closureId
    parentVersion := some record.draft.versionId, snapshot, snapshotDigest := digest
    patchCursor := record.draft.patchCursor + 1 }

theorem installDraft_eq (address : Nat) (admitted : RunState) (snapshot : TaskClosure) :
    installDraft env address admitted snapshot =
      uuid env >>= fun versionId => recordAt address >>= fun record =>
        Prog.ofExcept (env.closureDigest snapshot) >>= fun digest =>
          modify address (.setDraft (newDraft record versionId digest snapshot)) >>= fun _ =>
            beginRefining address admitted >>= fun _ =>
              .ret (newDraft record versionId digest snapshot) := by
  unfold installDraft beginRefining
  by_cases opened : admitted = .opened
  · simp only [if_pos opened]
    rfl
  · by_cases awaiting : admitted = .awaitingDecision
    · simp only [if_neg opened, if_pos awaiting, Prog.bind_bind]
      rfl
    · simp only [if_neg opened, if_neg awaiting]
      rfl

/-- The events of a patch, and the storage of its receipt and record. -/
def storePatch (address : Nat) (operationId : String) (version : ClosureVersion) : Op Unit :=
  appendEvent address (.draftPatched operationId version.versionId) >>= fun _ =>
    (if (Dict.get version.snapshot.metadata "capability_package_refs").truthy then
      appendEvent address (.packageCandidateMaterialized operationId
        (Dict.get version.snapshot.metadata "capability_package_refs"))
    else .ret ()) >>= fun _ =>
      (.await (.storeReceipt operationId) Prog.ofExcept : Op Unit) >>= fun _ => persist address

/-- The receipt of a patch. -/
def newReceipt (runId receiptId : String) (version : ClosureVersion) (readiness : Readiness) :
    PatchReceipt :=
  { receipt := "receipt-" ++ receiptId, runId, draftVersion := version.versionId
    draftDigest := version.snapshotDigest, snapshot := version.snapshot
    patchCursor := version.patchCursor, ready := readiness.ready
    blockers := readiness.blockers }

theorem concludePatch_eq (address : Nat) (runId operationId : String) (version : ClosureVersion) :
    concludePatch env address runId operationId version =
      uuid env >>= fun receiptId =>
        evaluateReadiness env version.snapshot runId >>= fun readiness =>
          (Prog.tell (.storeReceipt operationId (newReceipt runId receiptId version readiness)) :
            Op Unit) >>= fun _ =>
              storePatch address operationId version >>= fun _ =>
                .ret (newReceipt runId receiptId version readiness) := by
  unfold concludePatch storePatch
  by_cases packed : (Dict.get version.snapshot.metadata "capability_package_refs").truthy = true
  · simp only [if_pos packed, Prog.bind_bind]
    rfl
  · simp only [if_neg packed, Prog.bind_bind]
    rfl

theorem plain_beginRefining (address : Nat) (admitted : RunState) :
    Plain (beginRefining address admitted) := by
  unfold beginRefining
  split
  · exact plain_transition address _ _
  · split
    · exact Prog.Only.bind (plain_transition address _ _) fun _ => ⟨rfl, trivial⟩
    · trivial

theorem plain_storePatch (address : Nat) (operationId : String) (version : ClosureVersion) :
    Plain (storePatch address operationId version) := by
  refine Prog.Only.bind (plain_appendEvent address _) fun _ => ?_
  refine Prog.Only.bind ?_ fun _ => ?_
  · split
    · exact plain_appendEvent address _
    · trivial
  · exact Prog.Only.bind ⟨trivial, fun _ => Prog.Only.ofExcept _⟩ fun _ => plain_persist address

theorem Plain.weightless {program : Op α} (plain : Plain program) :
    program.Only (fun write => draftWeight write = 0) fun _ => True :=
  plain.mono (fun _ => draftWeight_plain) fun _ isQuery => isQuery

theorem Plain.own {program : Op α} (plain : Plain program) (runId operationId : String) :
    program.Only (StoresOwn runId operationId) fun _ => True :=
  plain.mono (fun _ => storesOwn_plain) fun _ isQuery => isQuery

/-- A patch that has found no receipt. -/
def freshPatch (env : Env) (runId baseVersion baseDigest operationId : String)
    (operations : List Dict) : Op PatchReceipt :=
  admitPatch runId baseVersion baseDigest >>= fun admitted =>
    applyOperations env admitted.1 operations admitted.2.draft.snapshot >>= fun snapshot =>
      installDraft env admitted.1 admitted.2.state snapshot >>= fun version =>
        concludePatch env admitted.1 runId operationId version

theorem applyPatch_eq (runId baseVersion baseDigest operationId : String)
    (operations : List Dict) :
    applyPatch env runId baseVersion baseDigest operationId operations =
      .read fun repo =>
        match repo.idempotency.lookup operationId with
        | some receipt => .ret receipt
        | none => freshPatch env runId baseVersion baseDigest operationId operations := rfl

variable (runId baseVersion baseDigest operationId : String) (operations : List Dict)

/-- The steps of a patch that has found no receipt. -/
theorem freshPatch_eq :
    freshPatch env runId baseVersion baseDigest operationId operations =
      admitPatch runId baseVersion baseDigest >>= fun admitted =>
        applyOperations env admitted.1 operations admitted.2.draft.snapshot >>= fun snapshot =>
          uuid env >>= fun versionId => recordAt admitted.1 >>= fun record =>
            Prog.ofExcept (env.closureDigest snapshot) >>= fun digest =>
              modify admitted.1 (.setDraft (newDraft record versionId digest snapshot)) >>= fun _ =>
                beginRefining admitted.1 admitted.2.state >>= fun _ =>
                  concludePatch env admitted.1 runId operationId
                    (newDraft record versionId digest snapshot) := by
  unfold freshPatch
  simp only [installDraft_eq, Prog.bind_bind]
  rfl

/-- A patch stores receipts of its own run under its own operation id only. -/
theorem own_applyPatch :
    (applyPatch env runId baseVersion baseDigest operationId operations).Only
      (StoresOwn runId operationId) fun _ => True := by
  rw [applyPatch_eq, freshPatch_eq]
  intro repo
  dsimp only
  split
  · trivial
  · refine Prog.Only.bind ((plain_admitPatch _ _ _).own _ _) fun admitted => ?_
    refine Prog.Only.bind ((plain_applyOperations _ _ _).own _ _) fun snapshot => ?_
    refine Prog.Only.bind ((Reads.uuid env).plain.own _ _) fun versionId => ?_
    refine Prog.Only.bind ((Reads.recordAt _).plain.own _ _) fun record => ?_
    refine Prog.Only.bind (Prog.Only.ofExcept _) fun digest => ?_
    refine Prog.Only.bind ⟨?_, trivial⟩ fun _ => ?_
    · intro other receipt same
      cases same
    · refine Prog.Only.bind ((plain_beginRefining _ _).own _ _) fun _ => ?_
      rw [concludePatch_eq]
      refine Prog.Only.bind ((Reads.uuid env).plain.own _ _) fun receiptId => ?_
      refine Prog.Only.bind ((reads_evaluateReadiness env _ _).plain.own _ _) fun readiness => ?_
      refine Prog.Only.bind ⟨?_, trivial⟩ fun _ => ?_
      · intro other receipt same
        cases same
        exact ⟨rfl, rfl⟩
      · exact Prog.Only.bind ((plain_storePatch _ _ _).own _ _) fun _ => trivial

/-- A patch installs at most one draft. -/
theorem metered_applyPatch :
    (applyPatch env runId baseVersion baseDigest operationId operations).Metered draftWeight 1 := by
  rw [applyPatch_eq, freshPatch_eq]
  intro repo
  dsimp only
  split
  · trivial
  · refine Prog.Metered.bind_only (plain_admitPatch _ _ _).weightless fun admitted => ?_
    refine Prog.Metered.bind_only (plain_applyOperations _ _ _).weightless fun snapshot => ?_
    refine Prog.Metered.bind_only (Reads.uuid env).plain.weightless fun versionId => ?_
    refine Prog.Metered.bind_only (Reads.recordAt _).plain.weightless fun record => ?_
    refine Prog.Metered.bind_only (Plain.weightless (Prog.Only.ofExcept _)) fun digest => ?_
    show Prog.Metered draftWeight _ (1 + 0)
    refine Prog.Metered.bind ⟨le_refl 1, trivial⟩ fun _ => ?_
    refine Prog.Metered.bind_only (plain_beginRefining _ _).weightless fun _ => ?_
    rw [concludePatch_eq]
    refine Prog.Metered.bind_only (Reads.uuid env).plain.weightless fun receiptId => ?_
    refine Prog.Metered.bind_only (reads_evaluateReadiness env _ _).plain.weightless
      fun readiness => ?_
    show Prog.Metered draftWeight _ (0 + 0)
    refine Prog.Metered.bind ⟨le_refl 0, trivial⟩ fun _ => ?_
    exact Prog.Metered.bind_only (plain_storePatch _ _ _).weightless fun _ => trivial

/-- The write installs the draft that a receipt of the run names. -/
def InstallsFor (runId : String) (write : Write) (receipt : PatchReceipt) : Prop :=
  receipt.runId = runId ∧ ∃ address version,
    write = .record address (.setDraft version) ∧ receipt.draftVersion = version.versionId

/-- A patch that has found no receipt returns one for the draft it has installed. -/
theorem yields_freshPatch (done : Write → Prop) :
    (freshPatch env runId baseVersion baseDigest operationId operations).Yields
      (InstallsFor runId) done := by
  rw [freshPatch_eq]
  refine Prog.Yields.bind _ fun admitted done _ => ?_
  refine Prog.Yields.bind _ fun snapshot done _ => ?_
  refine Prog.Yields.bind _ fun versionId done _ => ?_
  refine Prog.Yields.bind _ fun record done _ => ?_
  refine Prog.Yields.bind _ fun digest done _ => ?_
  -- From here on the draft is installed, and stays among the writes that are done.
  show Prog.Yields (InstallsFor runId) (Prog.write _ (Prog.bind (.ret ()) _)) done
  refine Prog.Yields.bind _ fun _ first installed => ?_
  refine Prog.Yields.bind _ fun _ second begun => ?_
  rw [concludePatch_eq]
  refine Prog.Yields.bind _ fun receiptId third drawn => ?_
  refine Prog.Yields.bind _ fun readiness fourth evaluated => ?_
  refine Prog.Yields.bind _ fun _ fifth received => ?_
  refine Prog.Yields.bind _ fun _ last stored => ?_
  have isDone := stored _ (received _ (evaluated _ (drawn _ (begun _ (installed _ (.inr rfl))))))
  exact ⟨_, isDone, rfl, _, _, rfl, rfl⟩

end Op

/-! ### Lives of the Observer -/

section Lives

variable {env : Env} {ok : (query : Query) → Answer query → Prop} {ready : Query → Repo → Prop}
variable {permits : List ObserverSegment → ObserverPool → Call → Prop}
variable {segments : List ObserverSegment} {pool : ObserverPool}

/-- A call stores receipts of its own run under its own operation id only. -/
def Stores (call : Call) (made : List Write) : Prop :=
  ∀ operationId receipt, Write.storeReceipt operationId receipt ∈ made →
    ∃ baseVersion baseDigest operations,
      call = .applyPatch receipt.runId baseVersion baseDigest operationId operations

/-- Only patches store receipts. -/
theorem Block.storesNone {rely : Repo → Repo → Prop} {call : Call} {origin : Origin Repo Query}
    {made : List Write} {stop : Stop Exc Query Reply}
    (block : Block env ok rely call origin made stop) (notPatch : call.isPatch = false)
    (operationId : String) (receipt : PatchReceipt) :
    Write.storeReceipt operationId receipt ∉ made := by
  intro member
  have effect : Write.storeReceipt operationId receipt ∈ effects made :=
    List.mem_filter.2 ⟨member, rfl⟩
  cases block with
  | quiet untouched _ =>
      rw [untouched] at effect
      cases effect
  | change site updates fate place writes =>
      rw [writes] at effect
      obtain ⟨update, -, same⟩ := List.mem_map.1 effect
      cases same
  | opened args record contract isOpen first writes =>
      rw [writes] at effect
      simp at effect
  | copied site args move isReassign place writes =>
      rw [writes] at effect
      rcases List.mem_cons.1 effect with same | effect
      · cases same
      · obtain ⟨update, -, same⟩ := List.mem_map.1 effect
        cases same
  | copyFailed site args error isReassign place writes =>
      rw [writes] at effect
      simp at effect
  | swapped args copied copy target isReassign query isCopy allocated moved writes =>
      rw [writes] at effect
      simp at effect
  | patched site runId base digest operationId operations packages draft receipt isPatch =>
      rw [isPatch] at notPatch
      cases notPatch
  | concluded runId base digest operationId operations target before middle earlier receipt updates
      isPatch =>
      rw [isPatch] at notPatch
      cases notPatch

theorem Call.stores (call : Call) (state : Repo) :
    (call.prog env).Does ok (fun _ _ => True) (fun _ made _ => Stores call made)
      ⟨none, state⟩ [] := by
  by_cases isPatch : call.isPatch = true
  · cases call with
    | applyPatch runId baseVersion baseDigest operationId operations =>
        refine Prog.Does.map_iff.2 (((Op.own_applyPatch runId baseVersion baseDigest operationId
          operations).writes_does (by simp)).mono ?_)
        intro origin made stop own other receipt member
        obtain ⟨rfl, rfl⟩ := own _ member other receipt rfl
        exact ⟨baseVersion, baseDigest, operations, rfl⟩
    | _ => cases isPatch
  · have tolerant : Tolerant fun _ _ => True :=
      ⟨fun _ => trivial, fun _ _ => trivial, fun _ _ => trivial⟩
    refine (Call.does tolerant call state).mono ?_
    intro origin made stop block operationId receipt member
    exact (block.storesNone (by simpa using isPatch) operationId receipt member).elim

theorem receipts_apply (write : Write) (repo : Repo) {operationId : String}
    {receipt : PatchReceipt} (member : (operationId, receipt) ∈ (apply write repo).idempotency) :
    (operationId, receipt) ∈ repo.idempotency ∨ write = .storeReceipt operationId receipt := by
  cases write with
  | storeReceipt other stored =>
      rcases List.mem_cons.1 member with same | member
      · cases same
        exact .inr rfl
      · exact .inl member
  | _ => exact .inl member

theorem receipts_applyAll (made : List Write) (repo : Repo) {operationId : String}
    {receipt : PatchReceipt} (member : (operationId, receipt) ∈ (applyAll made repo).idempotency) :
    (operationId, receipt) ∈ repo.idempotency ∨ .storeReceipt operationId receipt ∈ made := by
  induction made generalizing repo with
  | nil => exact .inl member
  | cons write made ih =>
      rcases ih (apply write repo) member with member | isWrite
      · rcases receipts_apply write repo member with member | rfl
        · exact .inl member
        · exact .inr List.mem_cons_self
      · exact .inr (List.mem_cons_of_mem _ isWrite)

/-- Every receipt in memory was stored by a segment. -/
def ReceiptsStored (segments : List ObserverSegment) (repo : Repo) : Prop :=
  ∀ operationId receipt, (operationId, receipt) ∈ repo.idempotency →
    ∃ segment ∈ segments, Write.storeReceipt operationId receipt ∈ segment.made

theorem receipts_stored (life : ObserverLife env ok ready permits segments pool) :
    ReceiptsStored segments pool.state := by
  have initial : ReceiptsStored [] Repo.empty := by
    intro operationId receipt member
    cases member
  refine life.induct initial ?_ ?_
  · intro segments segment known operationId receipt member
    rcases receipts_applyAll segment.made _ member with member | isWrite
    · obtain ⟨other, isOther, stored⟩ := known _ _ member
      exact ⟨other, List.mem_append_left _ isOther, stored⟩
    · exact ⟨segment, by simp, isWrite⟩
  · intro segments before after restarted known operationId receipt member
    rw [restarted.idempotency] at member
    cases member

/-- The write installs the draft that the reply of a patch names. -/
def Call.InstallsFor (call : Call) (write : Write) (reply : Reply) : Prop :=
  ∀ runId baseVersion baseDigest operationId operations receipt,
    call = .applyPatch runId baseVersion baseDigest operationId operations →
    reply = .receipt receipt → Op.InstallsFor runId write receipt

/-- The program of a patch: it looks for a receipt first. -/
theorem prog_applyPatch (runId baseVersion baseDigest operationId : String)
    (operations : List Dict) :
    (Call.applyPatch runId baseVersion baseDigest operationId operations).prog env =
      .read fun repo =>
        match repo.idempotency.lookup operationId with
        | some receipt => .ret (.receipt receipt)
        | none => (Op.freshPatch env runId baseVersion baseDigest operationId operations).map
            .receipt := by
  show (Op.applyPatch env runId baseVersion baseDigest operationId operations).map _ = _
  rw [Op.applyPatch_eq]
  refine congrArg Prog.read (funext fun repo => ?_)
  dsimp only
  cases repo.idempotency.lookup operationId with
  | some receipt => rfl
  | none => rfl

/-- A patch answers a stored receipt at once. -/
theorem patch_stored {runId baseVersion baseDigest operationId : String} {operations : List Dict}
    {state : Repo} {receipt : PatchReceipt}
    (found : state.idempotency.lookup operationId = some receipt) :
    let program := (Call.applyPatch runId baseVersion baseDigest operationId operations).prog env
    program.writes state = [] ∧ program.residue state = .ret (.receipt receipt) ∧
      program.stop state = .returns (.receipt receipt) := by
  dsimp only
  rw [prog_applyPatch]
  simp only [Prog.writes, Prog.residue, Prog.stop, found, and_self]

/-- A patch without a stored receipt suspends to load the run. -/
theorem patch_fresh {runId baseVersion baseDigest operationId : String} {operations : List Dict}
    {state : Repo} (missing : state.idempotency.lookup operationId = none) :
    let program := (Call.applyPatch runId baseVersion baseDigest operationId operations).prog env
    let fresh := (Op.freshPatch env runId baseVersion baseDigest operationId operations).map
      Reply.receipt
    program.writes state = fresh.writes state ∧ program.residue state = fresh.residue state ∧
      program.stop state = .awaits (.load runId) := by
  dsimp only
  rw [prog_applyPatch]
  refine ⟨?_, ?_, ?_⟩
  · simp only [Prog.writes, missing]
  · simp only [Prog.residue, missing]
  · simp only [Prog.stop, missing]
    rfl

theorem Call.yields (call : Call) (isPatch : call.isPatch) (state : Repo) :
    ((call.prog env).residue state).isOver ∨
      ((call.prog env).residue state).Yields call.InstallsFor fun write =>
        write ∈ (call.prog env).writes state := by
  cases call with
  | applyPatch runId baseVersion baseDigest operationId operations =>
      cases found : state.idempotency.lookup operationId with
      | some receipt =>
          left
          rw [(patch_stored found).2.1]
          rfl
      | none =>
          right
          obtain ⟨writes, residue, -⟩ := patch_fresh found
          rw [writes, residue]
          have yields : ((Op.freshPatch env runId baseVersion baseDigest operationId
              operations).map Reply.receipt).Yields (Call.InstallsFor
                (.applyPatch runId baseVersion baseDigest operationId operations))
              fun _ => False := by
            refine (Op.yields_freshPatch _ _ _ _ _ _).map ?_
            rintro write receipt installs _ _ _ _ _ _ isPatch isReply
            cases isPatch
            cases isReply
            exact installs
          exact (yields.residue state).mono fun write isWrite => isWrite.resolve_left id
  | _ => cases isPatch

/-- In every life of the Observer whose patches start in order, the operations of one operation id
are applied at most once, and a patch returns the receipt of the draft that it has installed, or
the one that an earlier patch of the same run has stored under its operation id. -/
theorem patches_applied_once
    (life : ObserverLife env ok ready (fun segments pool call => patchInOrder segments pool call)
      segments pool) :
    (∀ operationId, applications operationId segments ≤ 1) ∧
    ∀ earlier segment later, segments = earlier ++ segment :: later →
      ∀ runId baseVersion baseDigest operationId operations receipt,
        segment.label = .applyPatch runId baseVersion baseDigest operationId operations →
        segment.stop = .returns (.receipt receipt) →
        receipt.runId = runId ∧
        ((∃ other ∈ earlier ++ [segment], other.label = segment.label ∧ ∃ address version,
            .record address (.setDraft version) ∈ other.made ∧
              receipt.draftVersion = version.versionId) ∨
          ∃ other ∈ earlier, (∃ baseVersion baseDigest operations,
            other.label = .applyPatch runId baseVersion baseDigest operationId operations) ∧
            .storeReceipt operationId receipt ∈ other.made) := by
  constructor
  · intro operationId
    refine life.spent_le_one ?_ ?_
    · intro call counted
      cases call with
      | applyPatch runId baseVersion baseDigest other operations =>
          exact (Op.metered_applyPatch _ _ _ _ _).map _
      | _ => cases counted
    · intro segments pool call inOrder counted
      cases call with
      | applyPatch runId baseVersion baseDigest other operations =>
          obtain rfl : other = operationId := by
            simpa [Call.patchesUnder, Call.operationId?] using counted
          unfold patchInOrder at inOrder
          cases found : pool.state.idempotency.lookup other with
          | some receipt =>
              obtain ⟨writes, residue, -⟩ := patch_stored found
              left
              rw [writes, residue]
              exact ⟨rfl, rfl⟩
          | none =>
              right
              simp only [found, Bool.and_eq_true, decide_eq_true_eq, List.all_eq_true,
                Bool.or_eq_true, Bool.not_eq_true'] at inOrder
              refine ⟨inOrder.1, fun thread member under => ?_⟩
              rcases inOrder.2 thread member with notUnder | finished
              · rw [under] at notUnder
                cases notUnder
              · exact finished
      | _ => cases counted
  · intro earlier segment later parts runId baseVersion baseDigest operationId operations receipt
      isPatch returns
    obtain ⟨before, after, life', step, permitted⟩ := life.before parts
    have permittedLast : segment.origin.query = none →
        patchInOrder earlier before segment.label := permitted
    cases query : segment.origin.query with
    | none =>
        -- The patch returned at once, so its receipt was in memory, and belongs to its run.
        have inOrder := permittedLast query
        rw [isPatch] at inOrder
        have stops : ((Call.applyPatch runId baseVersion baseDigest operationId operations).prog
            env).stop before.state = .returns (.receipt receipt) := by
          rw [← isPatch, ← (step.spawned query).2]
          exact returns
        cases found : before.state.idempotency.lookup operationId with
        | none => cases (patch_fresh found).2.2.symm.trans stops
        | some stored =>
            cases (patch_stored found).2.2.symm.trans stops
            unfold patchInOrder at inOrder
            simp only [found, decide_eq_true_eq] at inOrder
            subst inOrder
            obtain ⟨front, back, parts', -⟩ := List.lookup_eq_some_iff.1 found
            obtain ⟨other, isOther, wrote⟩ := receipts_stored life' operationId receipt (by
              rw [parts']
              simp)
            have own := life'.described (fun call state => call.stores state) other isOther
            refine ⟨rfl, .inr ⟨other, isOther, ?_, wrote⟩⟩
            exact own operationId receipt wrote
    | some asked =>
        have life'' : ObserverLife env ok ready _ (earlier ++ [segment]) after :=
          life'.step step permitted
        obtain ⟨other, isOther, label, write, isWrite, installs⟩ := life''.yields
          (fun call isPatch state => call.yields isPatch state) segment (by simp)
          (by rw [isPatch]; rfl) _ returns (by rw [query]; simp)
        obtain ⟨run, address, version, rfl, named⟩ :=
          installs _ _ _ _ _ _ isPatch rfl
        exact ⟨run, .inl ⟨other, isOther, label, address, version, isWrite, named⟩⟩

/-- A patch of a run under an operation id that is used again. -/
def sharedPatch (runId : String) : Call :=
  .applyPatch runId "draft-0" (Demo.digest 1) "operation"
    [[("kind", .str "set_result_expectation"), ("value", .str "a number")]]

/-- The receipt that a segment returns. -/
def returnedReceipt? (segment : ObserverSegment) : Option PatchReceipt :=
  match segment.stop with
  | .returns (.receipt receipt) => some receipt
  | _ => none

theorem stop_of_returnedReceipt? {segment : ObserverSegment} {receipt : PatchReceipt}
    (returned : returnedReceipt? segment = some receipt) :
    segment.stop = .returns (.receipt receipt) := by
  unfold returnedReceipt? at returned
  split at returned
  · rename_i same
    cases returned
    exact same
  · cases returned

/-- A life in which the schedule is permitted and passes a check. -/
structure CheckedLife (check : List ObserverSegment → Bool) where
  schedule : Demo.Schedule
  passes : (Pool.Life.play (Call.prog Demo.env) isReady patchInOrder schedule []
    ⟨Repo.empty, []⟩).any (fun played => check played.1) = true

/-- A segment answers a repeated patch at once. -/
def answersAgain (segments : List ObserverSegment) : Bool :=
  segments.any fun segment => segment.label = sharedPatch "run" ∧ segment.origin.query = none ∧
    (returnedReceipt? segment).isSome

/-- A run is opened and patched, and the patch is repeated. -/
def repeatedPatch : CheckedLife answersAgain where
  schedule := .spawn (Demo.opens 1) :: Demo.answered 0 1 ++
    .spawn (sharedPatch "run") :: Demo.answered 1 6 ++ [.spawn (sharedPatch "run")]
  passes := by decide +kernel

theorem patches_applied_once_repeated :
    ∃ segments pool, Pool.Life.play (Call.prog Demo.env) isReady patchInOrder
        repeatedPatch.schedule [] ⟨Repo.empty, []⟩ = some (segments, pool) ∧
      applications "operation" segments ≤ 1 ∧ ∃ segment ∈ segments, ∃ receipt,
        segment.origin.query = none ∧ segment.stop = .returns (.receipt receipt) ∧
        receipt.runId = "run" := by
  obtain ⟨⟨segments, pool⟩, played, found⟩ := (Option.any_eq_true _ _).1 repeatedPatch.passes
  obtain ⟨segment, member, found⟩ := List.any_eq_true.1 found
  obtain ⟨label, first, returned⟩ := of_decide_eq_true found
  obtain ⟨receipt, returned⟩ := Option.isSome_iff_exists.1 returned
  have returns := stop_of_returnedReceipt? returned
  have life : ObserverLife Demo.env (fun _ _ => True) (fun query repo => isReady query repo)
      (fun segments pool call => patchInOrder segments pool call) segments pool :=
    Pool.Life.of_play repeatedPatch.schedule .nil played
  obtain ⟨once, answered⟩ := patches_applied_once life
  obtain ⟨earlier, later, parts⟩ := List.append_of_mem member
  obtain ⟨run, -⟩ := answered earlier segment later parts _ _ _ _ _ receipt label returns
  exact ⟨segments, pool, played, once "operation", segment, member, receipt, first, returns, run⟩

/-- The patch of the other run is answered with the receipt of the first, and not applied. -/
def answersOther (segments : List ObserverSegment) : Bool :=
  (segments.any fun segment => (returnedReceipt? segment).any fun receipt =>
    segment.label = sharedPatch "other" ∧ receipt.runId = "run") &&
  segments.all fun other => !decide (other.label = sharedPatch "other") ||
    Prog.total draftWeight other.made = 0

/-- Two runs are opened, and patched under one operation id. -/
def sharedOperation : Demo.Checked answersOther where
  schedule := .spawn (Demo.opens 1) :: Demo.answered 0 1 ++
    .spawn (.openRun { runId := some "other", taskRef := "task", goal := "goal"
                       closureContract := some (Demo.contract 1) }) :: Demo.answered 1 1 ++
    .spawn (sharedPatch "run") :: Demo.answered 2 6 ++ [.spawn (sharedPatch "other")]
  passes := by decide +kernel

theorem operation_shared_by_runs :
    ∃ segments, Demo.Plays sharedOperation.schedule segments ∧ ∃ segment ∈ segments, ∃ receipt,
      segment.label = sharedPatch "other" ∧ segment.stop = .returns (.receipt receipt) ∧
      receipt.runId = "run" ∧
      ∀ other ∈ segments, other.label = sharedPatch "other" →
        Prog.total draftWeight other.made = 0 := by
  obtain ⟨segments, plays, checked⟩ := sharedOperation.plays
  obtain ⟨answered, unapplied⟩ := Bool.and_eq_true_iff.1 checked
  obtain ⟨segment, member, found⟩ := List.any_eq_true.1 answered
  obtain ⟨receipt, returned, facts⟩ := (Option.any_eq_true _ _).1 found
  obtain ⟨label, run⟩ := of_decide_eq_true facts
  refine ⟨segments, plays, segment, member, receipt, label, stop_of_returnedReceipt? returned, run,
    ?_⟩
  intro other isOther same
  have none := List.all_eq_true.1 unapplied other isOther
  simpa [same] using none

end Lives

end Loom
