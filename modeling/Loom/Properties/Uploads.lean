import Loom.Properties.ContentStore
import Loom.Properties.SingleExecution
import Loom.Observer.Fences

/-!
# Results that share their bytes with earlier uploads

The key of an object is the digest of its bytes, and `put` compares the media type of whoever has
stored them first.  A result is stored as JSON when a Slave's attempt has executed and when Observer
records the result of a node.  It is stored unless the same bytes lie in the bucket under another
media type, and then the attempt is not remembered and the result is not recorded.
-/

namespace Loom

open Coroutine

/-! ### The object of a result -/

/-- An upload of the same bytes under another media type has created their object. -/
def StoredOtherwise (env : UploadEnv) (keyPrefix : String) (earlier : List StoreBeat)
    (content : Bytes) : Prop :=
  ∃ beat ∈ earlier, ∃ object, beat.label.Creates env object ∧ object.body = content ∧
    object.contentType ≠ "application/json" ∧
    beat.opening.before.2.lookup (storeKey keyPrefix (env.sha256 content)) = none ∧
    beat.after.2.lookup (storeKey keyPrefix (env.sha256 content)) = some object

def integrityConflict : Exc := .valueError "content_integrity_conflict"

section Objects

variable {env : UploadEnv} {keyPrefix : String}

theorem StoreCall.Creates.metadata {call : StoreCall} {object : StoredObject}
    (creates : call.Creates env object) :
    object.metadata = [("sha256", env.sha256 object.body)] := by
  cases call with
  | put client content mediaType =>
      have same : object = storedObject env.toEnv content mediaType := creates
      rw [same]
      rfl
  | putTyped client upload mediaType =>
      obtain ⟨content, _, same⟩ := creates
      rw [same]
      rfl
  | get client ref expected => exact creates.elim

/-- The check of an object fails for its media type only. -/
theorem validateHead_created (hashes : env.Hashes) {call : StoreCall} {object : StoredObject}
    (creates : call.Creates env object) :
    validateHead object.head (env.sha256 object.body) object.body.length "application/json" =
      if object.contentType = "application/json" then .ok () else .error integrityConflict := by
  have declared : metadataDigest object.head.metadata = some (env.sha256 object.body) := by
    have isSha : lower "sha256" = "sha256" := by decide +kernel
    change metadataDigest object.metadata = _
    rw [creates.metadata]
    unfold metadataDigest
    have found : [("sha256", env.sha256 object.body)].find?
        (fun entry => decide (lower entry.1 = "sha256")) =
          some ("sha256", env.sha256 object.body) :=
      List.find?_cons_of_pos (decide_eq_true isSha)
    rw [found, Option.map_some, hashes.lowers]
  have media : object.head.mediaType = "application/json" ↔
      object.contentType = "application/json" := by
    change (if object.contentType = "" then _ else object.contentType) = _ ↔ _
    split
    · rename_i empty
      rw [empty]
      decide
    · exact Iff.rfl
  have size : object.head.contentLength = object.body.length := rfl
  unfold validateHead integrityConflict
  by_cases json : object.contentType = "application/json"
  · rw [if_pos json, if_neg]
    rintro (other | other | other)
    · exact other declared
    · exact other size
    · exact other (media.2 json)
  · rw [if_neg json, if_pos (Or.inr (Or.inr fun isJson => json (media.1 isJson)))]

end Objects

/-! ### What depends on the upload -/

/-- The uploads of a content as JSON are answered so. -/
def RunQuery.Stores (content : Bytes) (answer : Except Exc Unit) :
    (query : RunQuery) → RunAnswer query → Prop
  | .contentPut given mediaType, reply =>
      given = content → mediaType = "application/json" → reply = answer
  | _, _ => True

/-- The uploads of a content as JSON are answered so. -/
def Query.Stores (content : Bytes) (answer : Except Exc Unit) :
    (query : Query) → Answer query → Prop
  | .contentPut given mediaType, reply =>
      given = content → mediaType = "application/json" → reply = answer
  | _, _ => True

namespace RunOp

/-- The end of an attempt whose result is valid and has a canonical text. -/
def upload (env : Env) (attemptId : String) (result : ExecutionResult) (content : Bytes) :
    RunOp ExecutionResult :=
  .await (.contentPut content "application/json") fun answer =>
    (Prog.ofExcept answer).bind fun _ => record attemptId
      { result with
        resourceRef :=
          { resourceId := contentPrefix ++ env.sha256 content
            identityCriterion := some "content_digest"
            accessBinding := .obj [("media_type", .str "application/json")] } }

theorem conclude_eq (env : Env) (attemptId : String) (executionEpoch : Int)
    (closure : Option TaskClosure) (exported : CapabilityExport) (result : ExecutionResult) :
    conclude env attemptId executionEpoch closure exported result =
      (validateTerminalResult env result attemptId executionEpoch closure (some exported)).bind
        fun result => (Prog.ofExcept (env.canonicalJsonBytes result.value)).bind fun content =>
          upload env attemptId result content := rfl

end RunOp

namespace Op

/-- The verdict on the report of a node, and where it belongs. -/
def judgeReport (env : Env) (runId nodeId : String) (result : Json) :
    Op (Nat × NodeReport × List ValidationEvidence × List SchemaError) := do
  let address ← load runId
  let record ← recordAt address
  let report ← Prog.ofExcept (fenceNodeReport env record nodeId result)
  let (evidence, errors) ← judgeNode env runId report
  .ret (address, report, evidence, errors)

/-- What follows the upload of the value. -/
def settleReport (env : Env) (runId : String) (content : Bytes)
    (judged : Nat × NodeReport × List ValidationEvidence × List SchemaError) : Op DynamicNode :=
  let (terminalState, terminalError) := nodeVerdict judged.2.1 judged.2.2.2
  settleNode env judged.1 runId judged.2.1
    { resourceId := contentPrefix ++ env.sha256 content
      identityCriterion := some "content_digest"
      accessBinding := .obj [("media_type", .str "application/json")] }
    judged.2.2.1 terminalState terminalError

theorem recordDynamicNodeResult_eq (env : Env) (runId nodeId : String) (result : Json) :
    recordDynamicNodeResult env runId nodeId result =
      (judgeReport env runId nodeId result).bind fun judged =>
        (Prog.ofExcept (env.canonicalJsonBytes judged.2.1.value)).bind fun content =>
          .await (.contentPut content "application/json") fun answer =>
            (Prog.ofExcept answer).bind fun _ => settleReport env runId content judged := by
  unfold recordDynamicNodeResult judgeReport
  simp only [← Prog.bind_eq, Prog.bind_bind]
  congr 1
  funext address
  congr 1
  funext record
  congr 1
  funext report
  congr 1
  funext verdict
  congr 1
  funext content
  unfold contentPut
  change Prog.await _ _ = Prog.await _ _
  congr 1
  funext answer
  cases answer with
  | error error => rfl
  | ok value => rfl

end Op

/-- How an attempt ends whose result has this content, lost or not. -/
def AttemptEnds (env : Env) (content : Bytes) (answer : Except Exc Unit) (lost : Prop) : Prop :=
  ∀ attemptId executionEpoch closure exported (made : ExecutionResult) state state' outcome,
    env.canonicalJsonBytes made.value = .ok content →
      (RunOp.conclude env attemptId executionEpoch closure exported made).Runs
        (RunQuery.Stores content answer) state state' outcome →
        (∃ error, (RunOp.validateTerminalResult env made attemptId executionEpoch closure
            (some exported)).Runs (RunQuery.Stores content answer) state state' (.error error) ∧
          outcome = .error error) ∨
        (lost ∧ outcome = .error integrityConflict ∧ state'.attempts = state.attempts) ∨
        ¬lost ∧ ∃ stored : ExecutionResult, stored.value = made.value ∧
          state'.attempts = (attemptId, stored) :: state.attempts

/-- How the report of a node ends whose value has this content, lost or not. -/
def ReportEnds (env : Env) (content : Bytes) (answer : Except Exc Unit) (lost : Prop) : Prop :=
  ∀ runId nodeId report value state state' outcome, report.lookup "value" = some value →
    env.canonicalJsonBytes value = .ok content →
      (Op.recordDynamicNodeResult env runId nodeId (.obj report)).Runs
        (Query.Stores content answer) state state' outcome →
        (∃ error, (Op.judgeReport env runId nodeId (.obj report)).Runs
            (Query.Stores content answer) state state' (.error error) ∧ outcome = .error error) ∨
        ∃ middle judged, (Op.judgeReport env runId nodeId (.obj report)).Runs
            (Query.Stores content answer) state middle (.ok judged) ∧
          ((lost ∧ outcome = .error integrityConflict ∧ state' = middle) ∨
            ¬lost ∧ (Op.settleReport env runId content judged).Runs
              (Query.Stores content answer) middle state' outcome)

section Ends

variable {env : Env}

theorem validateTerminalResult_value {made validated : ExecutionResult} {attemptId : String}
    {executionEpoch : Int} {closure : Option TaskClosure} {exported : Option CapabilityExport}
    {ok : (query : RunQuery) → RunAnswer query → Prop} {state state' : SlaveState}
    (runs : (RunOp.validateTerminalResult env made attemptId executionEpoch closure exported).Runs
      ok state state' (.ok validated)) : validated.value = made.value := by
  have judged : ∀ contract evidence answer,
      (made.judge contract evidence answer).value = made.value := by
    intro contract evidence answer
    unfold ExecutionResult.judge
    cases answer with
    | none =>
        dsimp only
        split
        · rfl
        · rfl
    | some answer =>
        dsimp only
        split
        · rfl
        · rfl
  unfold RunOp.validateTerminalResult at runs
  cases isRef : contractRefFor exported closure with
  | none =>
      rw [isRef] at runs
      cases runs with
      | ret => rfl
  | some contractRef =>
      rw [isRef] at runs
      obtain ⟨_, contract, _, runs⟩ := runs.of_bind_ok
      obtain ⟨_, checked, _, runs⟩ := runs.of_bind_ok
      split at runs
      · cases runs with
        | ret => rfl
      · obtain ⟨_, answer, _, runs⟩ := runs.of_bind_ok
        cases runs with
        | ret => exact judged _ _ _

theorem record_remembers {attemptId : String} {stored : ExecutionResult}
    {ok : (query : RunQuery) → RunAnswer query → Prop} {state state' : SlaveState}
    {outcome : Except Exc ExecutionResult}
    (runs : (RunOp.record attemptId stored).Runs ok state state' outcome) :
    state'.attempts = (attemptId, stored) :: state.attempts := by
  cases runs with
  | write rest =>
      cases rest with
      | await answer allowed rest =>
          cases answer with
          | ok value =>
              cases rest with
              | ret => rfl
          | error error =>
              cases rest with
              | raise => rfl

/-- The outcome of the upload decides whether the attempt is remembered. -/
theorem attemptEnds {content : Bytes} {answer : Except Exc Unit} {lost : Prop}
    (refused : lost → answer = .error integrityConflict) (stored : ¬lost → answer = .ok ()) :
    AttemptEnds env content answer lost := by
  intro attemptId executionEpoch closure exported made state state' outcome canonical runs
  rw [RunOp.conclude_eq] at runs
  rcases runs.of_bind with ⟨middle, validated, ran, rest⟩ | ⟨error, ran, rfl⟩
  · have keeps : middle.attempts = state.attempts :=
      (validateTerminalResult_judges made attemptId executionEpoch closure (some exported)).runs ran
    have sameValue := validateTerminalResult_value ran
    rw [sameValue, canonical] at rest
    right
    cases rest with
    | await answer' allowed rest =>
        cases (allowed rfl rfl)
        by_cases isLost : lost
        · rw [refused isLost] at rest
          cases rest with
          | raise => exact Or.inl ⟨isLost, rfl, keeps⟩
        · obtain rfl := stored isLost
          refine Or.inr ⟨isLost, _, ?_, (record_remembers rest).trans (by rw [keeps])⟩
          exact sameValue
  · exact Or.inl ⟨error, ran, rfl⟩

/-- The value of a report that was judged. -/
theorem judgeReport_value {runId nodeId : String} {report : Dict} {value : Json}
    {ok : (query : Query) → Answer query → Prop} {state state' : Repo}
    {judged : Nat × NodeReport × List ValidationEvidence × List SchemaError}
    (isValue : report.lookup "value" = some value)
    (runs : (Op.judgeReport env runId nodeId (.obj report)).Runs ok state state' (.ok judged)) :
    judged.2.1.value = value := by
  unfold Op.judgeReport at runs
  obtain ⟨_, address, _, runs⟩ := runs.of_bind_ok
  obtain ⟨_, record, _, runs⟩ := runs.of_bind_ok
  obtain ⟨_, fenced, accepted, runs⟩ := runs.of_bind_ok
  obtain ⟨_, verdict, _, runs⟩ := runs.of_bind_ok
  have isFenced := (fenceNodeReport_ok (accepted.of_ofExcept).2.symm).value
  cases runs with
  | ret => exact Option.some.inj (isFenced.symm.trans isValue)

/-- The outcome of the upload decides whether the report is recorded. -/
theorem reportEnds {content : Bytes} {answer : Except Exc Unit} {lost : Prop}
    (refused : lost → answer = .error integrityConflict) (stored : ¬lost → answer = .ok ()) :
    ReportEnds env content answer lost := by
  intro runId nodeId report value state state' outcome isValue canonical runs
  rw [Op.recordDynamicNodeResult_eq] at runs
  rcases runs.of_bind with ⟨middle, judged, ran, rest⟩ | ⟨error, ran, rfl⟩
  · refine Or.inr ⟨middle, judged, ran, ?_⟩
    rw [judgeReport_value isValue ran, canonical] at rest
    cases rest with
    | await answer' allowed rest =>
        cases (allowed rfl rfl)
        by_cases isLost : lost
        · rw [refused isLost] at rest
          cases rest with
          | raise => exact Or.inl ⟨isLost, rfl, rfl⟩
        · obtain rfl := stored isLost
          exact Or.inr ⟨isLost, rest⟩
  · exact Or.inl ⟨error, ran, rfl⟩

end Ends

/-! ### Uploads of results -/

/-- What becomes of a result whose canonical text is this content: it is lost if and only if an
earlier upload has stored the same bytes under another media type. -/
structure ResultUploaded (env : UploadEnv) (keyPrefix : String) (earlier : List StoreBeat)
    (content : Bytes) (result : Except Exc StoreResult) : Prop where
  conflict : StoredOtherwise env keyPrefix earlier content → result = .error integrityConflict
  stored : ¬StoredOtherwise env keyPrefix earlier content →
    result = .ok (.ref (putRef (env.sha256 content) "application/json"))
  attempt : AttemptEnds env.toEnv content (result.map fun _ => ())
    (StoredOtherwise env keyPrefix earlier content)
  report : ReportEnds env.toEnv content (result.map fun _ => ())
    (StoredOtherwise env keyPrefix earlier content)

/-- The errors of an S3 that does not fail. -/
def reliable : StoreError → Prop := fun _ => False

section Runs

variable {env : UploadEnv} {keyPrefix : String}

/-- An upload as JSON ends as the check of the object under its digest says. -/
theorem put_checks (hashes : env.Hashes) {bucket : Bucket} {call : StoreCall} {client : Nat}
    {object : StoredObject} {result : Except Exc StoreResult} (creates : call.Creates env object)
    (found : bucket.lookup (storeKey keyPrefix (env.sha256 object.body)) = some object)
    (ends : StoreEnds env keyPrefix reliable bucket (.put client object.body "application/json")
      result) :
    result = if object.contentType = "application/json" then
        .ok (.ref (putRef (env.sha256 object.body) "application/json"))
      else .error integrityConflict := by
  have valid := validateHead_created hashes creates
  obtain ⟨outcome, rfl, ended⟩ := ends
  cases outcome with
  | ok ref =>
      obtain ⟨rfl, other, isOther, checked⟩ := ended
      cases found.symm.trans isOther
      have json : object.contentType = "application/json" := by
        rcases checked with checked | same
        · by_contra other
          rw [valid, if_neg other] at checked
          cases checked
        · rw [same]
          rfl
      rw [if_pos json]
      rfl
  | error error =>
      rcases ended with ⟨other, isOther, failed⟩ | ⟨_, _, impossible⟩
      · cases found.symm.trans isOther
        rw [valid] at failed
        split at failed
        · cases failed
        · rename_i notJson
          rw [if_neg notJson]
          cases failed
          rfl
      · exact impossible.elim

/-- In every interleaving of uploads, storing a result fails if and only if its bytes have been
stored under another media type before; then its attempt is not remembered, and its report not
recorded. -/
theorem result_lost_iff_stored_otherwise (hashes : env.Hashes) {ready : List Nat}
    {earlier later : List StoreBeat} {beat : StoreBeat}
    {system : System StoreClients Exc StoreWrite StoreAnswer StoreResult StoreCall Bucket}
    (run : (contentSetting env keyPrefix reliable).Run ⟨({ ready := ready }, []), [], 0⟩
      (earlier ++ beat :: later) system)
    (collisionless : Collisionless env (earlier ++ beat :: later)) {client : Nat} {content : Bytes}
    {result : Except Exc StoreResult} (isPut : beat.label = .put client content "application/json")
    (ended : beat.stop = .ofResult result) :
    ResultUploaded env keyPrefix earlier content result := by
  obtain ⟨system', run', isPoint⟩ := Setting.Run.until _ run rfl
  obtain ⟨⟨blocks, kept, -, origin⟩, -⟩ := storePast_of_run run'
  have member : beat ∈ earlier ++ [beat] := by simp
  have ends := (blocks beat member).ends _ ended
  rw [isPut] at ends
  have isFound : ∃ object, beat.after.2.lookup (storeKey keyPrefix (env.sha256 content)) =
      some object := by
    obtain ⟨outcome, -, ends⟩ := ends
    cases outcome with
    | ok ref => exact ⟨_, ends.2.choose_spec.1⟩
    | error error =>
        rcases ends with ⟨object, found, -⟩ | ⟨_, _, impossible⟩
        · exact ⟨object, found⟩
        · exact impossible.elim
  obtain ⟨object, found⟩ := isFound
  obtain ⟨creator, isCreator, creates, free, created⟩ := origin _ _ (isPoint ▸ found)
  have sameBody : content = object.body := by
    have inRun : ∀ other ∈ earlier ++ [beat], other ∈ earlier ++ beat :: later := by
      intro other isOther
      rcases List.mem_append.1 isOther with isOther | isOther
      · exact List.mem_append_left _ isOther
      · exact List.mem_append_right _ (List.mem_cons.2 (Or.inl (List.mem_singleton.1 isOther)))
    refine collisionless beat (inRun _ member) creator (inRun _ isCreator) _ _ ?_ creates.body
      (storeKey_inj ((blocks beat member).stored _ _ found))
    rw [isPut]
    rfl
  have isLost : StoredOtherwise env keyPrefix earlier content ↔
      object.contentType ≠ "application/json" := by
    constructor
    · rintro ⟨other, isOther, object', -, -, notJson, -, stored⟩
      have extended := (List.pairwise_append.1 kept).2.2 other isOther beat (by simp)
      cases found.symm.trans (extended _ _ stored)
      exact notJson
    · intro notJson
      rcases List.mem_append.1 isCreator with isCreator | isCreator
      · exact ⟨creator, isCreator, object, creates, sameBody.symm, notJson, free, created⟩
      · rw [List.mem_singleton.1 isCreator, isPut] at creates
        have same : object = storedObject env.toEnv content "application/json" := creates
        exact absurd (congrArg StoredObject.contentType same) notJson
  subst sameBody
  have checks := put_checks hashes creates found ends
  have conflict : StoredOtherwise env keyPrefix earlier object.body →
      result = .error integrityConflict := by
    intro lost
    rw [checks, if_neg (isLost.1 lost)]
  have stored : ¬StoredOtherwise env keyPrefix earlier object.body →
      result = .ok (.ref (putRef (env.sha256 object.body) "application/json")) := by
    intro kept
    rw [checks, if_pos (not_not.1 fun notJson => kept (isLost.2 notJson))]
  refine ⟨conflict, stored, attemptEnds (fun lost => ?_) fun kept => ?_,
    reportEnds (fun lost => ?_) fun kept => ?_⟩
  · rw [conflict lost]
    rfl
  · rw [stored kept]
    rfl
  · rw [conflict lost]
    rfl
  · rw [stored kept]
    rfl

end Runs

namespace StoreDemo

/-- A program text is stored before a result that has the same bytes. -/
def conflicting : List (Choice StoreCall) :=
  [.start (.put 0 trueBytes "text/plain"), .answer 0, .answer 0, .answer 0,
    .start (.put 1 trueBytes "application/json"), .answer 1, .answer 1]

theorem conflicting_ne : (played conflicting).1 ≠ [] := by decide +kernel

/-- The beat in which the second upload ends. -/
def refusal : StoreBeat := (played conflicting).1.getLast conflicting_ne

def refuses (beat : StoreBeat) : Bool :=
  match beat.stop with
  | .raises error => error = integrityConflict
  | _ => false

theorem refusal_stop : refusal.stop = .ofResult (.error integrityConflict) := by
  have refused : refuses refusal = true := by decide +kernel
  unfold refuses at refused
  split at refused
  · rename_i error isStop
    rw [isStop, of_decide_eq_true refused]
    rfl
  · cases refused

theorem refusal_label : refusal.label = .put 1 trueBytes "application/json" := by decide +kernel

theorem conflicting_run : (contentSetting env "content" reliable).Run start
    ((played conflicting).1.dropLast ++ refusal :: []) (played conflicting).2 := by
  have isRun := played_run conflicting
  rw [← List.dropLast_concat_getLast conflicting_ne] at isRun
  exact isRun

theorem conflicting_collisionless :
    Collisionless env ((played conflicting).1.dropLast ++ refusal :: []) := by
  have isSplit : (played conflicting).1.dropLast ++ refusal :: [] = (played conflicting).1 :=
    List.dropLast_concat_getLast conflicting_ne
  have bodies : (played conflicting).1.all (fun beat =>
      (beat.label.body? env).all (· = trueBytes)) = true := by decide +kernel
  rw [isSplit]
  intro beat member other memberOther content content' isBody isBody' _
  have body := List.all_eq_true.1 bodies beat member
  have body' := List.all_eq_true.1 bodies other memberOther
  rw [isBody, Option.all_some, decide_eq_true_eq] at body
  rw [isBody', Option.all_some, decide_eq_true_eq] at body'
  rw [body, body']

end StoreDemo

/-- The result `true` after an upload of its bytes as text. -/
theorem result_lost_iff_stored_otherwise_conflicting :
    ResultUploaded StoreDemo.env "content" (StoreDemo.played StoreDemo.conflicting).1.dropLast
      StoreDemo.trueBytes (.error integrityConflict) :=
  result_lost_iff_stored_otherwise StoreDemo.hashes StoreDemo.conflicting_run
    StoreDemo.conflicting_collisionless StoreDemo.refusal_label StoreDemo.refusal_stop

/-- A result that canonicalises is not stored, where its bytes were uploaded as text before. -/
theorem earlier_upload_loses_result :
    StoreDemo.env.canonicalJsonBytes (.bool true) = .ok StoreDemo.trueBytes ∧
      (contentSetting StoreDemo.env "content" reliable).Run StoreDemo.start
        ((StoreDemo.played StoreDemo.conflicting).1.dropLast ++ StoreDemo.refusal :: [])
        (StoreDemo.played StoreDemo.conflicting).2 ∧
      StoreDemo.refusal.label = .put 1 StoreDemo.trueBytes "application/json" ∧
      StoreDemo.refusal.stop = .ofResult (.error integrityConflict) :=
  ⟨rfl, StoreDemo.conflicting_run, StoreDemo.refusal_label, StoreDemo.refusal_stop⟩

end Loom
