import Loom.Observer.Content
import Loom.Slave.Service

/-!
# What a Slave reads from its content store

Where the content store answers from one fixed content, the programs of the Slave that only read
are functions of it.
-/

namespace Loom

open Coroutine

/-- The Slave reads from `content`; nothing is known of its other answers. -/
def ServedBy (content : Content) : (query : RunQuery) → RunAnswer query → Prop
  | .contentGet digest, answer => answer = .ok (content digest)
  | _, _ => True

namespace Content

/-- The JSON document at a reference, as the Slave loads it. -/
def json (content : Content) (env : Env) (ref : ResourceRef) : Except Exc Json :=
  (content.get env ref).bind env.jsonLoads

/-- The IoContract at a reference, as the Slave loads it. -/
def contract (content : Content) (env : Env) (ref : ResourceRef) : Except Exc IoContract :=
  (content.get env ref).bind fun raw =>
    match (env.jsonLoads raw).bind env.ioContract with
    | .ok contract => .ok contract
    | .error error =>
        if error.kind = .typeError ∨ error.kind = .valueError then
          .error (runtimeError "io_contract_invalid")
        else .error error

/-- The errors that the schema at a reference finds in a value. -/
def schemaErrors (content : Content) (env : Env) (schemaRef : ResourceRef) (value : Json) :
    Except Exc (List SchemaError) :=
  (content.json env schemaRef).bind fun schema =>
    (env.validateSchema schema).bind fun _ => env.validate schema value

/-- The errors that an output schema finds, where one that cannot be evaluated counts as one. -/
def outputErrors (content : Content) (env : Env) (schemaRef : ResourceRef) (value : Json) :
    Except Exc (List SchemaError) :=
  match content.schemaErrors env schemaRef value with
  | .ok errors => .ok errors
  | .error error =>
      if error.isContentError then
        .ok [unevaluated "output schema could not be evaluated" "valid output schema" error]
      else .error error

end Content

namespace RunOp

variable {content : Content} {env : Env}

theorem contentGet_computes (ref : ResourceRef) :
    (contentGet env ref).Computes (ServedBy content) (content.get env ref) := by
  unfold contentGet Content.get
  cases Op.digestFromRef ref with
  | error error => exact .raise error
  | ok digest =>
      have only : ∀ other, ServedBy content (.contentGet digest) other ↔
          other = .ok (content digest) := fun _ => Iff.rfl
      refine .await only ?_
      dsimp only
      cases content digest with
      | none => exact .raise _
      | some bytes =>
          dsimp only
          split
          · exact .ret bytes
          · exact .raise _

theorem loadJson_computes (ref : ResourceRef) :
    (loadJson env ref).Computes (ServedBy content) (content.json env ref) :=
  .bind (contentGet_computes ref) fun _ _ => .ofExcept _

theorem loadIoContract_computes (ref : ResourceRef) :
    (loadIoContract env ref).Computes (ServedBy content) (content.contract env ref) := by
  refine .bind (contentGet_computes ref) fun raw _ => ?_
  cases (env.jsonLoads raw).bind env.ioContract with
  | ok contract => exact .ret contract
  | error error =>
      dsimp only
      split
      · exact .raise _
      · exact .raise error

theorem evaluateSchema_computes (schemaRef : ResourceRef) (value : Json) :
    (evaluateSchema env schemaRef value).Computes (ServedBy content)
      (content.schemaErrors env schemaRef value) :=
  .bind (loadJson_computes schemaRef) fun _ _ => .bind (.ofExcept _) fun _ _ => .ofExcept _

theorem outputErrors_computes (schemaRef : ResourceRef) (value : Json) :
    (outputErrors env schemaRef value).Computes (ServedBy content)
      (content.outputErrors env schemaRef value) := by
  have evaluated := @evaluateSchema_computes content env schemaRef value
  have whole : (outputErrors env schemaRef value).Computes (ServedBy content)
      ((Except.ok (content.schemaErrors env schemaRef value) :
        Except Exc (Except Exc (List SchemaError))).bind fun evaluated =>
          match evaluated with
          | .ok errors => .ok errors
          | .error error =>
              if error.isContentError then
                .ok [unevaluated "output schema could not be evaluated" "valid output schema" error]
              else .error error) := by
    refine .bind evaluated.attempt fun outcome _ => ?_
    cases outcome with
    | ok errors => exact .ret errors
    | error error =>
        dsimp only
        split
        · exact .ret _
        · exact .raise error
  exact whole

end RunOp

end Loom
