import Loom.Coroutine.Basic
import Loom.Observer.Repository

/-!
# The content store

`ContentStore.put`, `ContentStore.get` and `put_typed_content` of `loom_v2/content_store.py`, over
the calls of S3 that they make.  A client is one `ContentStore`; all clients of a bucket have the
same prefix.

What runs in a thread makes its calls of S3 one after another, so that every call is an await of its
own.  `_bucket_lock` is left out: it keeps a client from looking for the bucket twice at a time,
which `_head_sync` and `_get_sync` do without it.
-/

namespace Loom

open Coroutine

/-! ### S3 -/

/-- An object of the bucket. -/
structure StoredObject where
  body : Bytes
  contentType : String
  metadata : List (String × String)
  deriving Repr, DecidableEq, Inhabited

/-- What `head_object` returns of an object. -/
structure ObjectHead where
  contentLength : Nat
  contentType : String
  metadata : List (String × String)
  deriving Repr, DecidableEq, Inhabited

def StoredObject.head (object : StoredObject) : ObjectHead :=
  { contentLength := object.body.length, contentType := object.contentType
    metadata := object.metadata }

/-- How a call of S3 fails: with a `ClientError` of a code, or with another exception. -/
inductive StoreError where
  | client (code : String)
  | other (text : String)
  deriving Repr, DecidableEq, Inhabited

namespace StoreError

/-- The exception as it leaves the content store. -/
def exc : StoreError → Exc
  | .client code => ⟨.other, code⟩
  | .other text => ⟨.other, text⟩

/-- `_is_not_found`. -/
def isNotFound : StoreError → Bool
  | .client code => code ∈ ["404", "NoSuchKey", "NoSuchBucket", "NotFound"]
  | .other _ => false

/-- `_is_precondition_failed`. -/
def isPreconditionFailed : StoreError → Bool
  | .client code => code ∈ ["412", "PreconditionFailed", "ConditionalRequestConflict"]
  | .other _ => false

/-- The bucket is there already. -/
def isOwned : StoreError → Bool
  | .client code => code ∈ ["BucketAlreadyOwnedByYou", "BucketAlreadyExists"]
  | .other _ => false

end StoreError

/-- The calls of S3.  `putObject` is made with `IfNoneMatch="*"`. -/
inductive StoreQuery where
  | headBucket
  | createBucket
  | headObject (key : String)
  | putObject (key : String) (object : StoredObject)
  | getObject (key : String)
  deriving Repr, DecidableEq, Inhabited

def StoreAnswer : StoreQuery → Type
  | .headBucket => Except StoreError Unit
  | .createBucket => Except StoreError Unit
  | .headObject _ => Except StoreError ObjectHead
  | .putObject _ _ => Except StoreError Unit
  | .getObject _ => Except StoreError Bytes

/-- The clients that have found the bucket, by their numbers. -/
structure StoreClients where
  ready : List Nat := []
  deriving Repr, DecidableEq, Inhabited

inductive StoreWrite where
  | ready (client : Nat)
  deriving Repr, DecidableEq, Inhabited

instance : Update StoreWrite StoreClients where
  apply
    | .ready client, clients => { ready := client :: clients.ready }

abbrev StoreOp (α : Type) := Prog StoreClients Exc StoreWrite StoreAnswer α

/-! ### Operations -/

/-- `_key`. -/
def storeKey (keyPrefix digest : String) : String :=
  if keyPrefix = "" then digest else keyPrefix ++ "/" ++ digest

/-- `_metadata_digest`. -/
def metadataDigest (metadata : List (String × String)) : Option String :=
  (metadata.find? fun entry => lower entry.1 = "sha256").map fun entry => lower entry.2

/-- `str(head.get("ContentType") or "application/octet-stream")`. -/
def ObjectHead.mediaType (head : ObjectHead) : String :=
  if head.contentType = "" then "application/octet-stream" else head.contentType

/-- `_validate_head`. -/
def validateHead (head : ObjectHead) (digest : String) (size : Nat) (mediaType : String) :
    Except Exc Unit :=
  if metadataDigest head.metadata ≠ some digest ∨ head.contentLength ≠ size ∨
      head.mediaType ≠ mediaType then .error (.valueError "content_integrity_conflict")
  else .ok ()

/-- The reference that `put` returns. -/
def putRef (digest mediaType : String) : ResourceRef :=
  { resourceId := contentPrefix ++ digest, identityCriterion := some "content_digest"
    accessBinding := .obj [("media_type", .str mediaType)] }

namespace StoreOp

variable (env : Env) (keyPrefix : String) (client : Nat)

/-- `_ensure_bucket_sync`, with what it raises. -/
def ensureBucketOutcome : StoreOp (Except StoreError Unit) :=
  .read fun clients =>
    if client ∈ clients.ready then .ret (.ok ())
    else .await .headBucket fun
      | .ok () => .write (.ready client) (.ret (.ok ()))
      | .error error =>
          if error.isNotFound = false then
            if error.isOwned then .write (.ready client) (.ret (.ok ())) else .ret (.error error)
          else .await .createBucket fun
            | .ok () => .write (.ready client) (.ret (.ok ()))
            | .error error =>
                if error.isOwned then .write (.ready client) (.ret (.ok ()))
                else .ret (.error error)

/-- `_ensure_bucket_sync`. -/
def ensureBucketSync : StoreOp Unit := do
  match ← ensureBucketOutcome client with
  | .ok () => .ret ()
  | .error error => .raise error.exc

/-- `_head_sync`, with nothing for `_NotFound`. -/
def headSync (digest : String) : StoreOp (Option ObjectHead) := do
  ensureBucketSync client
  .await (.headObject (storeKey keyPrefix digest)) fun
    | .ok head => .ret (some head)
    | .error error => if error.isNotFound then .ret none else .raise error.exc

/-- `create`, with what it raises. -/
def create (content : Bytes) (mediaType : String) : StoreOp (Except StoreError Unit) := do
  match ← ensureBucketOutcome client with
  | .error error => .ret (.error error)
  | .ok () =>
      .await (.putObject (storeKey keyPrefix (env.sha256 content))
        { body := content, contentType := mediaType
          metadata := [("sha256", env.sha256 content)] }) .ret

/-- `put`.  An object that is not found after a conflict raises `_NotFound`. -/
def put (content : Bytes) (mediaType : String) : StoreOp ResourceRef := do
  ensureBucketSync client
  match ← headSync keyPrefix client (env.sha256 content) with
  | some head =>
      Prog.ofExcept (validateHead head (env.sha256 content) content.length mediaType)
      .ret (putRef (env.sha256 content) mediaType)
  | none => do
      match ← create env keyPrefix client content mediaType with
      | .ok () => .ret (putRef (env.sha256 content) mediaType)
      | .error error =>
          if error.isPreconditionFailed = false then .raise error.exc
          else do
            match ← headSync keyPrefix client (env.sha256 content) with
            | none => .raise ⟨.other, "_NotFound"⟩
            | some head => do
                Prog.ofExcept (validateHead head (env.sha256 content) content.length mediaType)
                .ret (putRef (env.sha256 content) mediaType)

/-- `_get_sync`, with nothing for `_NotFound`. -/
def getSync (digest : String) : StoreOp (Option Bytes) := do
  ensureBucketSync client
  .await (.getObject (storeKey keyPrefix digest)) fun
    | .ok content => .ret (some content)
    | .error error => if error.isNotFound then .ret none else .raise error.exc

/-- The expected digest of `get`. -/
def expectedDigest (expected : Option String) : Except Exc (Option String) :=
  match expected with
  | none => .ok none
  | some text =>
      match Op.normalizeDigest text with
      | .ok digest => .ok (some digest)
      | .error _ => .error (.valueError "content_digest_mismatch")

/-- `get`. -/
def get (ref : ResourceRef) (expected : Option String) : StoreOp Bytes := do
  let digest ← Prog.ofExcept (Op.digestFromRef ref)
  let expected ← Prog.ofExcept (expectedDigest expected)
  match ← getSync keyPrefix client digest with
  | none => .raise ⟨.fileNotFound, "content_not_found"⟩
  | some content =>
      if env.sha256 content ≠ digest ∨ expected.any fun expected => env.sha256 content ≠ expected
      then .raise (.valueError "content_digest_mismatch")
      else .ret content

end StoreOp

/-! ### Typed uploads -/

/-- What `put_typed_content` is given: text, bytes, or a value that is neither. -/
inductive Upload where
  | text (text : String)
  | bytes (content : Bytes)
  | value (value : Json)
  deriving Repr, DecidableEq, Inhabited

/-- The libraries that uploads use, with `json.loads` of a text. -/
structure UploadEnv extends Env where
  textLoads : String → Except Exc Json

/-- `str(media_type or "").split(";", 1)[0].strip().lower()`. -/
def normalizeMediaType (mediaType : String) : String :=
  lower (strip (String.ofList (mediaType.toList.takeWhile fun char => char ≠ ';')))

def jsonMediaTypes : List String :=
  ["application/json", "application/schema+json", "application/vnd.loom.io-contract+json",
    "application/vnd.loom.operation-descriptor+json"]

def descriptorMediaType : String := "application/vnd.loom.operation-descriptor+json"

/-- The JSON value of an upload. -/
def Upload.parsed (env : UploadEnv) : Upload → Except Exc Json
  | .value given => .ok given
  | .text given => (env.textLoads given).mapError invalid
  | .bytes given => (env.jsonLoads given).mapError invalid
where
  invalid (error : Exc) : Exc :=
    if error.kind = .typeError ∨ error.kind = .valueError then .valueError "invalid_json" else error

/-- The check of a value against its media type. -/
def checkTyped (env : UploadEnv) (mediaType : String) (value : Json) : Except Exc Unit :=
  if mediaType = "application/schema+json" then env.validateSchema value
  else if mediaType = "application/vnd.loom.io-contract+json" then
    match env.ioContract value with
    | .ok _ => .ok ()
    | .error _ => .error (.valueError "io_contract_invalid")
  else if mediaType = descriptorMediaType then
    match value with
    | .obj _ => .ok ()
    | _ => .error (.valueError "operation_descriptor_invalid")
  else .ok ()

namespace StoreOp

variable (env : UploadEnv) (keyPrefix : String) (client : Nat)

/-- The upload of a JSON document. -/
def putJson (value : Json) (mediaType : String) : StoreOp ResourceRef := do
  Prog.ofExcept (checkTyped env mediaType value)
  let body ← Prog.ofExcept (env.canonicalJsonBytes value)
  let ref ← put env.toEnv keyPrefix client body mediaType
  if mediaType ≠ descriptorMediaType then .ret ref
  else do
    let digest ← Prog.ofExcept (env.descriptorDigest value)
    .ret { resourceId := ref.resourceId, versionOrDigest := some digest
           identityCriterion := some "descriptor_digest", accessBinding := ref.accessBinding }

/-- `put_typed_content`. -/
def putTypedContent (upload : Upload) (mediaType : String) : StoreOp ResourceRef :=
  if normalizeMediaType mediaType = "" then .raise (.valueError "media_type_required")
  else if normalizeMediaType mediaType ∈ jsonMediaTypes then do
    let value ← Prog.ofExcept (upload.parsed env)
    putJson env keyPrefix client value (normalizeMediaType mediaType)
  else
    match upload with
    | .text text =>
        put env.toEnv keyPrefix client text.toUTF8.toList (normalizeMediaType mediaType)
    | .bytes content => put env.toEnv keyPrefix client content (normalizeMediaType mediaType)
    | .value _ => .raise (.typeError "content_must_be_string_or_bytes")

end StoreOp

end Loom
