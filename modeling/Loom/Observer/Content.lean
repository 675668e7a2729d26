import Loom.Coroutine.Computes
import Loom.Observer.Result

/-!
# What Observer reads from the content store

Where the content store answers from one fixed content, the programs of Observer that only read
content are functions of it.
-/

namespace Loom

open Coroutine

/-- What a content store holds under each digest. -/
abbrev Content := String → Option Bytes

/-- Observer reads from `content`; nothing is known of its other answers. -/
def AnsweredBy (content : Content) : (query : Query) → Answer query → Prop
  | .contentGet digest, answer => answer = .ok (content digest)
  | _, _ => True

namespace Content

/-- What `ContentStore.get` returns. -/
def get (content : Content) (env : Env) (ref : ResourceRef) : Except Exc Bytes :=
  match Op.digestFromRef ref with
  | .error error => .error error
  | .ok digest =>
      match content digest with
      | none => .error ⟨.fileNotFound, "content_not_found"⟩
      | some bytes =>
          if env.sha256 bytes = digest then .ok bytes
          else .error (.valueError "content_digest_mismatch")

/-- The JSON document at a reference, as Observer loads it. -/
def loadJson (content : Content) (env : Env) (ref : ResourceRef) : Except Exc Json :=
  (requireContentRef ref).bind fun _ => (content.get env ref).bind fun raw =>
    match env.jsonLoads raw with
    | .ok value => .ok value
    | .error _ => .error (.valueError "invalid_json")

/-- The IoContract at a reference, as Observer loads it. -/
def loadContract (content : Content) (env : Env) (ref : ResourceRef) : Except Exc IoContract :=
  (content.loadJson env ref).bind env.ioContract

end Content

namespace Op

variable {content : Content} {env : Env}

theorem contentGet_computes (ref : ResourceRef) :
    (contentGet env ref).Computes (AnsweredBy content) (content.get env ref) := by
  unfold contentGet Content.get
  cases digestFromRef ref with
  | error error => exact .raise error
  | ok digest =>
      have only : ∀ other, AnsweredBy content (.contentGet digest) other ↔
          other = .ok (content digest) := fun _ => Iff.rfl
      refine .await only ?_
      dsimp only
      cases content digest with
      | none => exact .raise _
      | some bytes =>
          dsimp only
          split
          · exact .ret bytes
          · exact .raise _

theorem loadJsonContent_computes (ref : ResourceRef) :
    (loadJsonContent env ref).Computes (AnsweredBy content) (content.loadJson env ref) := by
  unfold loadJsonContent Content.loadJson
  cases requireContentRef ref with
  | error error => exact .raise error
  | ok _ =>
      refine .bind (contentGet_computes ref) fun raw _ => ?_
      cases env.jsonLoads raw with
      | ok value => exact .ret value
      | error error => exact .raise _

theorem loadIoContract_computes (ref : ResourceRef) :
    (loadIoContract env ref).Computes (AnsweredBy content) (content.loadContract env ref) :=
  .bind (loadJsonContent_computes ref) fun _ _ => .ofExcept _

/-- The outcome of a content read whose handled errors become a `ValueError`. -/
def contentOutcome {α : Type} (outcome : Except Exc α) (text : String) : Except Exc α :=
  match outcome with
  | .ok value => .ok value
  | .error error => if error.isContentError then .error (.valueError text) else .error error

theorem orContentError_computes {α : Type} {program : Op α} {outcome : Except Exc α}
    (computes : program.Computes (AnsweredBy content) outcome) (text : String) :
    (orContentError program text).Computes (AnsweredBy content) (contentOutcome outcome text) := by
  have whole : (orContentError program text).Computes (AnsweredBy content)
      ((Except.ok outcome : Except Exc (Except Exc α)).bind fun outcome =>
        contentOutcome outcome text) := by
    refine .bind computes.attempt fun tried _ => ?_
    cases tried with
    | ok value => exact .ret value
    | error error =>
        unfold contentOutcome
        dsimp only
        split
        · exact .raise _
        · exact .raise error
  exact whole

theorem loadCommittedContract_computes (record : RunRecord) :
    (loadCommittedContract env record).Computes (AnsweredBy content)
      (match record.committed.bind fun version => version.snapshot.program.ioContractRef with
        | none => .ok none
        | some ref =>
            (contentOutcome (content.loadContract env ref) "io_contract_invalid").map some) := by
  unfold loadCommittedContract
  cases record.committed.bind fun version => version.snapshot.program.ioContractRef with
  | none => exact .ret none
  | some ref =>
      have loaded := orContentError_computes (@loadIoContract_computes content env ref)
        "io_contract_invalid"
      have whole := loaded.bind fun contract _ => Prog.Computes.ret (some contract)
      dsimp only at whole ⊢
      cases isLoaded : contentOutcome (content.loadContract env ref) "io_contract_invalid" with
      | ok contract =>
          rw [isLoaded] at whole
          exact whole
      | error error =>
          rw [isLoaded] at whole
          exact whole

end Op

end Loom
