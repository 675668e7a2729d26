import Loom.ContentStore
import Loom.Coroutine.Concurrent
import Loom.Contracts.Packages
import Loom.Observer.Execution

/-!
# The content store under any interleaving

S3 is a map from keys to objects in which `putObject` creates an object only where there is none.
It may fail besides, with the errors that `fails` allows, also after it has created the object.

No call removes or changes an object, so that what a call has found under a key stays there: the
bucket only `Extends`.  A call that puts content ends with an object under the key of its digest,
which it has created or whose head it has checked, and every object lies under the key of its own
digest.
-/

namespace Loom

open Coroutine

/-! ### The bucket -/

/-- The objects of the bucket by their keys. -/
abbrev Bucket := List (String × StoredObject)

/-- How S3 answers.  A call is answered at the moment of its effect. -/
def s3Answers (fails : StoreError → Prop) :
    (query : StoreQuery) → Bucket → StoreAnswer query → Bucket → Prop
  | .headBucket, bucket, answer, bucket' => bucket' = bucket ∧
      ∀ error, answer = .error error → fails error ∨ error.isNotFound = true ∨ error.isOwned = true
  | .createBucket, bucket, answer, bucket' => bucket' = bucket ∧
      ∀ error, answer = .error error → fails error ∨ error.isOwned = true
  | .headObject key, bucket, answer, bucket' => bucket' = bucket ∧
      match answer with
      | .ok head => ∃ object, bucket.lookup key = some object ∧ head = object.head
      | .error error =>
          if error.isNotFound then bucket.lookup key = none else fails error
  | .putObject key object, bucket, answer, bucket' =>
      match answer with
      | .ok _ => bucket.lookup key = none ∧ bucket' = (key, object) :: bucket
      | .error error =>
          (bucket' = bucket ∧ error.isPreconditionFailed = true ∧ bucket.lookup key ≠ none) ∨
            fails error ∧
              (bucket' = bucket ∨ bucket.lookup key = none ∧ bucket' = (key, object) :: bucket)
  | .getObject key, bucket, answer, bucket' => bucket' = bucket ∧
      match answer with
      | .ok content => ∃ object, bucket.lookup key = some object ∧ content = object.body
      | .error error =>
          if error.isNotFound then bucket.lookup key = none else fails error

/-- Objects stay as they are. -/
def Extends (before after : Bucket) : Prop :=
  ∀ key object, before.lookup key = some object → after.lookup key = some object

theorem Extends.refl (bucket : Bucket) : Extends bucket bucket := fun _ _ found => found

theorem Extends.trans {first second third : Bucket} (earlier : Extends first second)
    (later : Extends second third) : Extends first third :=
  fun key object found => later key object (earlier key object found)

theorem extends_cons {bucket : Bucket} {key : String} {object : StoredObject}
    (free : bucket.lookup key = none) : Extends bucket ((key, object) :: bucket) := by
  intro wanted found isFound
  rw [List.lookup_cons]
  by_cases same : wanted = key
  · rw [same, free] at isFound
    cases isFound
  · rw [beq_eq_false_iff_ne.2 same]
    exact isFound

/-- Objects stay as they are, and new ones are of a kind. -/
structure Grown (own : StoredObject → Prop) (before after : Bucket) : Prop where
  extended : Extends before after
  added : ∀ key object, after.lookup key = some object →
    before.lookup key = some object ∨ own object

theorem Grown.refl (own : StoredObject → Prop) (bucket : Bucket) : Grown own bucket bucket :=
  ⟨.refl bucket, fun _ _ found => Or.inl found⟩

theorem Grown.trans {own : StoredObject → Prop} {first second third : Bucket}
    (earlier : Grown own first second) (later : Grown own second third) :
      Grown own first third := by
  refine ⟨earlier.extended.trans later.extended, fun key object found => ?_⟩
  rcases later.added key object found with found | owned
  · exact earlier.added key object found
  · exact Or.inr owned

theorem grown_cons {own : StoredObject → Prop} {bucket : Bucket} {key : String}
    {object : StoredObject}
    (free : bucket.lookup key = none) (owned : own object) :
    Grown own bucket ((key, object) :: bucket) := by
  refine ⟨extends_cons free, fun wanted found isFound => ?_⟩
  rw [List.lookup_cons] at isFound
  by_cases same : wanted = key
  · rw [same, beq_self_eq_true] at isFound
    cases isFound
    exact Or.inr owned
  · rw [beq_eq_false_iff_ne.2 same] at isFound
    exact Or.inl isFound

/-- What a query may put into the bucket. -/
def StoreQuery.puts (own : StoredObject → Prop) : StoreQuery → Prop
  | .putObject _ object => own object
  | _ => True

theorem s3Answers_grown {fails : StoreError → Prop} {own : StoredObject → Prop} {query : StoreQuery}
    {bucket bucket' : Bucket} {answer : StoreAnswer query} (puts : query.puts own)
    (answered : s3Answers fails query bucket answer bucket') : Grown own bucket bucket' := by
  cases query with
  | headBucket => exact answered.1 ▸ .refl own bucket
  | createBucket => exact answered.1 ▸ .refl own bucket
  | headObject key => exact answered.1 ▸ .refl own bucket
  | getObject key => exact answered.1 ▸ .refl own bucket
  | putObject key object =>
      cases answer with
      | ok value => exact answered.2 ▸ grown_cons answered.1 puts
      | error error =>
          rcases answered with ⟨same, _⟩ | ⟨_, same | ⟨free, inserted⟩⟩
          · exact same ▸ .refl own bucket
          · exact same ▸ .refl own bucket
          · exact inserted ▸ grown_cons free puts

/-- The object that an upload creates. -/
def storedObject (env : Env) (content : Bytes) (mediaType : String) : StoredObject :=
  { body := content, contentType := mediaType, metadata := [("sha256", env.sha256 content)] }

/-- Every object lies under the key of its digest. -/
def WellStored (env : Env) (keyPrefix : String) (bucket : Bucket) : Prop :=
  ∀ key object, bucket.lookup key = some object → key = storeKey keyPrefix (env.sha256 object.body)

/-- Two digests have two keys. -/
theorem storeKey_inj {keyPrefix digest digest' : String}
    (same : storeKey keyPrefix digest = storeKey keyPrefix digest') : digest = digest' := by
  unfold storeKey at same
  split at same
  · exact same
  · have lists := congrArg String.toList same
    simp only [String.toList_append, List.append_assoc] at lists
    exact String.toList_inj.1 (List.append_cancel_left (List.append_cancel_left lists))

/-- Digests are 64 hexadecimal digits in lower case. -/
structure Env.Hashes (env : Env) : Prop where
  digests : ∀ content, isHexDigest (env.sha256 content) = true
  lowers : ∀ content, lower (env.sha256 content) = env.sha256 content

/-! ### What a call has done when it ends -/

section Calls

variable {env : Env} {keyPrefix : String} {fails : StoreError → Prop} {own : StoredObject → Prop}

/-- The program leaves objects as they are, stores what it may under digests only, and ends as
`post` says, from a bucket of which `pre` holds. -/
structure Upholds {α : Type} (env : Env) (keyPrefix : String) (fails : StoreError → Prop)
    (own : StoredObject → Prop) (pre : Bucket → Prop) (program : StoreOp α)
    (post : Bucket → Except Exc α → Prop) : Prop where
  secure : ∀ (opening : Opening StoreClients Bucket StoreAnswer) (now : StoreClients × Bucket),
    Grown own opening.before.2 now.2 → WellStored env keyPrefix now.2 → pre now.2 →
      program.Secure (s3Answers fails)
        (fun now later => WellStored env keyPrefix later.2 ∧ Extends now.2 later.2)
        (fun opening now _ => Grown own opening.before.2 now.2 ∧ WellStored env keyPrefix now.2)
        opening now
        fun opening now result => Grown own opening.before.2 now.2 ∧
          WellStored env keyPrefix now.2 ∧ post now.2 result

/-- What holds of a bucket goes on to hold. -/
def Lasting (pre : Bucket → Prop) : Prop :=
  ∀ before after, Extends before after → pre before → pre after

namespace Upholds

variable {α β : Type} {pre : Bucket → Prop}

theorem ret {value : α} {post : Bucket → Except Exc α → Prop}
    (holds : ∀ bucket, pre bucket → post bucket (.ok value)) :
    Upholds env keyPrefix fails own pre (.ret value) post :=
  ⟨fun _ _ grown stored here => ⟨grown, stored, holds _ here⟩⟩

theorem raise {error : Exc} {post : Bucket → Except Exc α → Prop}
    (holds : ∀ bucket, pre bucket → post bucket (.error error)) :
    Upholds env keyPrefix fails own pre (.raise error) post :=
  ⟨fun _ _ grown stored here => ⟨grown, stored, holds _ here⟩⟩

theorem read {next : StoreClients → StoreOp α} {post : Bucket → Except Exc α → Prop}
    (rest : ∀ clients, Upholds env keyPrefix fails own pre (next clients) post) :
    Upholds env keyPrefix fails own pre (.read next) post :=
  ⟨fun opening now grown stored here => (rest now.1).secure opening now grown stored here⟩

theorem write {update : StoreWrite} {next : StoreOp α} {post : Bucket → Except Exc α → Prop}
    (rest : Upholds env keyPrefix fails own pre next post) :
    Upholds env keyPrefix fails own pre (.write update next) post :=
  ⟨fun opening now grown stored here =>
    rest.secure opening (apply update now.1, now.2) grown stored here⟩

theorem await {query : StoreQuery} {next : StoreAnswer query → StoreOp α}
    {post : Bucket → Except Exc α → Prop} (lasting : Lasting pre) (puts : query.puts own)
    (stores : ∀ bucket answer bucket', WellStored env keyPrefix bucket →
      s3Answers fails query bucket answer bucket' → WellStored env keyPrefix bucket')
    (rest : ∀ answer, Upholds env keyPrefix fails own
      (fun bucket' => ∃ bucket, pre bucket ∧ s3Answers fails query bucket answer bucket')
      (next answer) post) :
    Upholds env keyPrefix fails own pre (.await query next) post := by
  refine ⟨fun opening now grown stored here => ?_⟩
  refine ⟨⟨grown, stored⟩, fun later relied answer world answered => ?_⟩
  exact (rest answer).secure _ _ (s3Answers_grown puts answered)
    (stores _ _ _ relied.1 answered) ⟨later.2, lasting _ _ relied.2 here, answered⟩

theorem mono {weak : Bucket → Prop} {program : StoreOp α}
    {post strong : Bucket → Except Exc α → Prop}
    (upholds : Upholds env keyPrefix fails own weak program strong)
    (weakens : ∀ bucket, pre bucket → weak bucket)
    (implies : ∀ bucket result, strong bucket result → post bucket result) :
    Upholds env keyPrefix fails own pre program post :=
  ⟨fun opening now grown stored here =>
    (upholds.secure opening now grown stored (weakens _ here)).mono fun _ _ _ held =>
      ⟨held.1, held.2.1, implies _ _ held.2.2⟩⟩

theorem weaken (weak : Bucket → Prop) {program : StoreOp α} {post : Bucket → Except Exc α → Prop}
    (weakens : ∀ bucket, pre bucket → weak bucket)
    (upholds : Upholds env keyPrefix fails own weak program post) :
    Upholds env keyPrefix fails own pre program post :=
  upholds.mono weakens fun _ _ held => held

theorem bind {program : StoreOp α} {rest : α → StoreOp β}
    {middle : Bucket → Except Exc α → Prop} {post : Bucket → Except Exc β → Prop}
    (first : Upholds env keyPrefix fails own pre program middle)
    (second : ∀ value, Upholds env keyPrefix fails own (fun bucket => middle bucket (.ok value))
      (rest value) post)
    (raised : ∀ bucket error, middle bucket (.error error) → post bucket (.error error)) :
    Upholds env keyPrefix fails own pre (program.bind rest) post := by
  refine ⟨fun opening now grown stored here => ?_⟩
  refine Prog.Secure.bind ((first.secure opening now grown stored here).mono
    fun opening now result held => ?_)
  cases result with
  | ok value => exact (second value).secure opening now held.1 held.2.1 held.2.2
  | error error => exact ⟨held.1, held.2.1, raised _ _ held.2.2⟩

theorem ofExcept_bind {outcome : Except Exc α} {rest : α → StoreOp β}
    {post : Bucket → Except Exc β → Prop}
    (second : ∀ value, outcome = .ok value → Upholds env keyPrefix fails own pre (rest value) post)
    (raised : ∀ error, outcome = .error error → ∀ bucket, pre bucket → post bucket (.error error)) :
    Upholds env keyPrefix fails own pre ((Prog.ofExcept outcome).bind rest) post := by
  cases outcome with
  | ok value => exact second value rfl
  | error error => exact .raise (raised error rfl)

end Upholds

/-! ### The calls -/

variable {client : Nat} {pre : Bucket → Prop}

theorem ensureBucketOutcome_upholds (lasting : Lasting pre) :
    Upholds env keyPrefix fails own pre (StoreOp.ensureBucketOutcome client) fun bucket result =>
      pre bucket ∧ ∃ outcome, result = .ok outcome ∧ ∀ error, outcome = .error error →
        fails error := by
  have done : Upholds env keyPrefix fails own pre
      (.write (.ready client) (.ret (.ok ())) : StoreOp (Except StoreError Unit))
      fun bucket result => pre bucket ∧ ∃ outcome, result = .ok outcome ∧
        ∀ error, outcome = .error error → fails error :=
    .write (.ret fun bucket here => ⟨here, _, rfl, fun error impossible => by cases impossible⟩)
  unfold StoreOp.ensureBucketOutcome
  refine .read fun clients => ?_
  split
  · exact .ret fun bucket here => ⟨here, _, rfl, fun error impossible => by cases impossible⟩
  · refine .await lasting trivial (fun bucket answer bucket' stored answered => answered.1 ▸ stored)
      fun answer => ?_
    have kept : ∀ bucket' : Bucket, (∃ bucket, pre bucket ∧
        s3Answers fails .headBucket bucket answer bucket') → pre bucket' := by
      rintro bucket' ⟨bucket, here, same, -⟩
      exact same ▸ here
    cases answer with
    | ok value => exact done.mono kept fun _ _ held => held
    | error error =>
        dsimp only
        split
        · rename_i found
          split
          · exact done.mono kept fun _ _ held => held
          · rename_i notOwned
            refine .ret fun bucket' raised => ⟨kept _ raised, _, rfl, fun other same => ?_⟩
            cases same
            obtain ⟨bucket, -, -, cause⟩ := raised
            rcases cause error rfl with failed | missing | owned
            · exact failed
            · cases missing.symm.trans found
            · exact absurd owned notOwned
        · refine .weaken pre kept ?_
          refine .await lasting trivial (fun bucket answer bucket' stored answered =>
            answered.1 ▸ stored)
            fun answer => ?_
          have kept : ∀ bucket' : Bucket, (∃ bucket, pre bucket ∧
              s3Answers fails .createBucket bucket answer bucket') → pre bucket' := by
            rintro bucket' ⟨bucket, here, same, -⟩
            exact same ▸ here
          cases answer with
          | ok value => exact done.mono kept fun _ _ held => held
          | error error =>
              dsimp only
              split
              · exact done.mono kept fun _ _ held => held
              · rename_i notOwned
                refine .ret fun bucket' raised => ⟨kept _ raised, _, rfl, fun other same => ?_⟩
                cases same
                obtain ⟨bucket, -, -, cause⟩ := raised
                exact (cause error rfl).resolve_right notOwned

/-- S3 has failed in a way that it may. -/
def Failed (fails : StoreError → Prop) (error : Exc) : Prop :=
  error.kind = .other ∧ ∃ cause, fails cause

theorem StoreError.exc_kind (error : StoreError) : error.exc.kind = .other := by
  cases error with
  | client code => rfl
  | other text => rfl

theorem ensureBucketSync_upholds (lasting : Lasting pre) :
    Upholds env keyPrefix fails own pre (StoreOp.ensureBucketSync client) fun bucket result =>
      pre bucket ∧ ∀ error, result = .error error → Failed fails error := by
  refine .bind (ensureBucketOutcome_upholds lasting) (fun outcome => ?_) fun bucket error held => ?_
  · cases outcome with
    | ok value =>
        exact .ret fun bucket held => ⟨held.1, fun error impossible => by cases impossible⟩
    | error error =>
        refine .raise fun bucket held => ⟨held.1, fun other same => ?_⟩
        cases same
        obtain ⟨-, outcome, same, failed⟩ := held
        cases same
        exact ⟨error.exc_kind, error, failed error rfl⟩
  · obtain ⟨-, outcome, same, -⟩ := held
    cases same

/-- A head is that of an object. -/
def HeadOf (bucket : Bucket) (key : String) (head : ObjectHead) : Prop :=
  ∃ object, bucket.lookup key = some object ∧ head = object.head

theorem HeadOf.lasting (key : String) (head : ObjectHead) :
    Lasting fun bucket => HeadOf bucket key head := by
  rintro before after extended ⟨object, found, same⟩
  exact ⟨object, extended _ _ found, same⟩

/-- A head is looked up, where an object that is known to be there is found. -/
theorem headSync_upholds {digest : String} (lasting : Lasting pre) :
    Upholds env keyPrefix fails own pre (StoreOp.headSync keyPrefix client digest)
      fun bucket result =>
      pre bucket ∧ match result with
        | .ok (some head) => HeadOf bucket (storeKey keyPrefix digest) head
        | .ok none => bucket.lookup (storeKey keyPrefix digest) = none
        | .error error => Failed fails error := by
  refine .bind (ensureBucketSync_upholds lasting) (fun _ => ?_) fun bucket error held =>
    ⟨held.1, held.2 error rfl⟩
  refine .weaken pre (fun bucket held => held.1) ?_
  refine .await lasting trivial (fun bucket answer bucket' stored answered => answered.1 ▸ stored)
    fun answer => ?_
  cases answer with
  | ok head =>
      refine .ret ?_
      rintro bucket' ⟨bucket, here, rfl, object, found, same⟩
      exact ⟨here, object, found, same⟩
  | error error =>
      dsimp only
      split
      · rename_i missing
        refine .ret ?_
        rintro bucket' ⟨bucket, here, rfl, cause⟩
        change (if error.isNotFound = true then _ else _) at cause
        rw [if_pos missing] at cause
        exact ⟨here, cause⟩
      · rename_i found
        refine .raise ?_
        rintro bucket' ⟨bucket, here, rfl, cause⟩
        change (if error.isNotFound = true then _ else _) at cause
        rw [if_neg found] at cause
        exact ⟨here, error.exc_kind, error, cause⟩

/-- How `put` ends: with the reference of its content, whose object it has checked or created, or
with the conflict that the check has found, if S3 does not fail. -/
def PutEnds (env : Env) (keyPrefix : String) (fails : StoreError → Prop) (content : Bytes)
    (mediaType : String) (bucket : Bucket) : Except Exc ResourceRef → Prop
  | .ok ref => ref = putRef (env.sha256 content) mediaType ∧
      ∃ object, bucket.lookup (storeKey keyPrefix (env.sha256 content)) = some object ∧
        (validateHead object.head (env.sha256 content) content.length mediaType = .ok () ∨
          object = storedObject env content mediaType)
  | .error error =>
      (∃ object, bucket.lookup (storeKey keyPrefix (env.sha256 content)) = some object ∧
        validateHead object.head (env.sha256 content) content.length mediaType = .error error) ∨
      Failed fails error

theorem validated_upholds {content : Bytes} {mediaType : String} {head : ObjectHead} :
    Upholds env keyPrefix fails own
      (fun bucket => HeadOf bucket (storeKey keyPrefix (env.sha256 content)) head)
      ((Prog.ofExcept (validateHead head (env.sha256 content) content.length mediaType)).bind
        fun _ => (.ret (putRef (env.sha256 content) mediaType) : StoreOp ResourceRef))
      (PutEnds env keyPrefix fails content mediaType) := by
  cases isValid : validateHead head (env.sha256 content) content.length mediaType with
  | ok value =>
      refine .ret ?_
      rintro bucket ⟨object, found, rfl⟩
      exact ⟨rfl, object, found, Or.inl isValid⟩
  | error error =>
      refine .raise ?_
      rintro bucket ⟨object, found, rfl⟩
      exact Or.inl ⟨object, found, isValid⟩

theorem create_upholds {content : Bytes} {mediaType : String}
    (owned : own (storedObject env content mediaType)) :
    Upholds env keyPrefix fails own (fun _ => True)
      (StoreOp.create env keyPrefix client content mediaType) fun bucket result =>
        match result with
        | .ok (.ok _) => bucket.lookup (storeKey keyPrefix (env.sha256 content)) =
            some (storedObject env content mediaType)
        | .ok (.error error) =>
            (∃ object, bucket.lookup (storeKey keyPrefix (env.sha256 content)) = some object) ∧
              error.isPreconditionFailed = true ∨ fails error
        | .error _ => False := by
  have always : Lasting fun _ => True := fun _ _ _ here => here
  refine .bind (ensureBucketOutcome_upholds always) (fun outcome => ?_) fun bucket error held => ?_
  · cases outcome with
    | error error =>
        refine .ret fun bucket held => ?_
        obtain ⟨-, outcome, same, failed⟩ := held
        cases same
        exact Or.inr (failed error rfl)
    | ok value =>
        refine .weaken (fun _ => True) (fun _ _ => trivial) ?_
        have stores : ∀ bucket : Bucket, WellStored env keyPrefix bucket →
            bucket.lookup (storeKey keyPrefix (env.sha256 content)) = none →
            WellStored env keyPrefix ((storeKey keyPrefix (env.sha256 content),
              storedObject env content mediaType) :: bucket) := by
          intro bucket stored free key object found
          rw [List.lookup_cons] at found
          by_cases same : key = storeKey keyPrefix (env.sha256 content)
          · rw [same, beq_self_eq_true] at found
            cases found
            exact same
          · rw [beq_eq_false_iff_ne.2 same] at found
            exact stored key object found
        refine .await always owned (fun bucket answer bucket' stored answered => ?_)
          fun answer => ?_
        · cases answer with
          | ok value => exact answered.2 ▸ stores bucket stored answered.1
          | error error =>
              rcases answered with ⟨same, _⟩ | ⟨_, same | ⟨free, inserted⟩⟩
              · exact same ▸ stored
              · exact same ▸ stored
              · exact inserted ▸ stores bucket stored free
        · refine .ret ?_
          rintro bucket' ⟨bucket, -, answered⟩
          cases answer with
          | ok value =>
              rw [answered.2, List.lookup_cons_self]
              rfl
          | error error =>
              rcases answered with ⟨rfl, conflict, taken⟩ | ⟨failed, _⟩
              · exact Or.inl ⟨Option.ne_none_iff_exists'.1 taken, conflict⟩
              · exact Or.inr failed
  · obtain ⟨-, outcome, same, -⟩ := held
    cases same

/-- `put` ends as it should. -/
theorem put_upholds {content : Bytes} {mediaType : String}
    (owned : own (storedObject env content mediaType)) :
    Upholds env keyPrefix fails own (fun _ => True)
      (StoreOp.put env keyPrefix client content mediaType)
      (PutEnds env keyPrefix fails content mediaType) := by
  have always : Lasting fun _ => True := fun _ _ _ here => here
  unfold StoreOp.put
  refine .bind (ensureBucketSync_upholds always) (fun _ => ?_) fun bucket error held =>
    Or.inr (held.2 error rfl)
  refine .weaken (fun _ => True) (fun _ _ => trivial) ?_
  refine .bind (headSync_upholds always) (fun head => ?_) fun bucket error held => Or.inr held.2
  cases head with
  | some head => exact (validated_upholds).mono (fun _ held => held.2) fun _ _ held => held
  | none =>
      refine .weaken (fun _ => True) (fun _ _ => trivial) ?_
      refine .bind (create_upholds owned) (fun outcome => ?_) fun bucket error held => held.elim
      cases outcome with
      | ok value => exact .ret fun bucket created => ⟨rfl, _, created, Or.inr rfl⟩
      | error error =>
          dsimp only
          split
          · rename_i other
            refine .raise fun bucket held => Or.inr ?_
            rcases held with ⟨_, conflict⟩ | failed
            · cases conflict.symm.trans other
            · exact ⟨error.exc_kind, error, failed⟩
          · have lasting : Lasting fun bucket : Bucket =>
                (∃ object, bucket.lookup (storeKey keyPrefix (env.sha256 content)) = some object) ∧
                  error.isPreconditionFailed = true ∨ fails error := by
              rintro before after extended (⟨⟨object, found⟩, conflict⟩ | failed)
              · exact Or.inl ⟨⟨object, extended _ _ found⟩, conflict⟩
              · exact Or.inr failed
            refine .bind (headSync_upholds lasting) (fun head => ?_) fun bucket error held =>
              Or.inr held.2
            cases head with
            | some head =>
                exact (validated_upholds).mono (fun _ held => held.2) fun _ _ held => held
            | none =>
                refine .raise fun bucket held => Or.inr ?_
                obtain ⟨⟨⟨object, found⟩, _⟩ | failed, missing⟩ := held
                · cases found.symm.trans missing
                · exact ⟨rfl, error, failed⟩

/-- How `get` ends: with the content of the requested digest, with an error of the digests, or not
finding the object, if S3 does not fail. -/
def GetEnds (env : Env) (keyPrefix : String) (fails : StoreError → Prop) (ref : ResourceRef)
    (expected : Option String) (bucket : Bucket) : Except Exc Bytes → Prop
  | .ok content => ∃ digest object, Op.digestFromRef ref = .ok digest ∧
      bucket.lookup (storeKey keyPrefix digest) = some object ∧ content = object.body ∧
      env.sha256 content = digest ∧ (StoreOp.expectedDigest expected = .ok none ∨
        StoreOp.expectedDigest expected = .ok (some digest))
  | .error error => Failed fails error ∨
      ∀ digest object, Op.digestFromRef ref = .ok digest →
        bucket.lookup (storeKey keyPrefix digest) = some object →
        StoreOp.expectedDigest expected = .ok none ∨
          StoreOp.expectedDigest expected = .ok (some digest) → env.sha256 object.body ≠ digest

theorem get_upholds {ref : ResourceRef} {expected : Option String} :
    Upholds env keyPrefix fails own (fun _ => True) (StoreOp.get env keyPrefix client ref expected)
      (GetEnds env keyPrefix fails ref expected) := by
  have always : Lasting fun _ => True := fun _ _ _ here => here
  unfold StoreOp.get
  cases isDigest : Op.digestFromRef ref with
  | error error =>
      refine .raise fun bucket _ => Or.inr fun digest object same => ?_
      cases isDigest.symm.trans same
  | ok digest =>
      cases isExpected : StoreOp.expectedDigest expected with
      | error error =>
          refine .raise fun bucket _ => Or.inr fun digest object _ _ fits => ?_
          rcases fits with fits | fits
          · cases isExpected.symm.trans fits
          · cases isExpected.symm.trans fits
      | ok wanted =>
          change Upholds _ _ _ _ _ ((StoreOp.getSync keyPrefix client digest).bind _) _
          have reads : Upholds env keyPrefix fails own (fun _ => True)
              (StoreOp.getSync keyPrefix client digest) fun bucket result =>
                match result with
                | .ok (some content) => ∃ object,
                    bucket.lookup (storeKey keyPrefix digest) = some object ∧ content = object.body
                | .ok none => bucket.lookup (storeKey keyPrefix digest) = none
                | .error error => Failed fails error := by
            refine .bind (ensureBucketSync_upholds always) (fun _ => ?_) fun bucket error held =>
              held.2 error rfl
            refine .weaken (fun _ => True) (fun _ _ => trivial) ?_
            refine .await always trivial (fun bucket answer bucket' stored answered =>
              answered.1 ▸ stored)
              fun answer => ?_
            cases answer with
            | ok content =>
                refine .ret ?_
                rintro bucket' ⟨bucket, here, rfl, object, found, same⟩
                exact ⟨object, found, same⟩
            | error error =>
                dsimp only
                split
                · rename_i missing
                  refine .ret ?_
                  rintro bucket' ⟨bucket, here, rfl, cause⟩
                  change (if error.isNotFound = true then _ else _) at cause
                  rw [if_pos missing] at cause
                  exact cause
                · rename_i found
                  refine .raise ?_
                  rintro bucket' ⟨bucket, here, rfl, cause⟩
                  change (if error.isNotFound = true then _ else _) at cause
                  rw [if_neg found] at cause
                  exact ⟨error.exc_kind, error, cause⟩
          refine .bind reads (fun answer => ?_) fun bucket error held => Or.inl held
          cases answer with
          | none =>
              refine .raise fun bucket missing => Or.inr fun digest' object same found => ?_
              cases isDigest.symm.trans same
              cases missing.symm.trans found
          | some content =>
              dsimp only
              split
              · rename_i mismatch
                refine .raise ?_
                rintro bucket ⟨object, found, rfl⟩
                refine Or.inr fun digest' object' same found' fits isHash => ?_
                cases isDigest.symm.trans same
                cases found.symm.trans found'
                rcases mismatch with other | other
                · exact other isHash
                · rcases fits with fits | fits
                  · cases isExpected.symm.trans fits
                    cases other
                  · cases isExpected.symm.trans fits
                    simp [isHash] at other
              · rename_i fits
                refine .ret ?_
                rintro bucket ⟨object, found, rfl⟩
                have isHash := not_not.1 (not_or.1 fits).1
                refine ⟨digest, object, isDigest, found, rfl, isHash, ?_⟩
                cases wanted with
                | none => exact Or.inl isExpected
                | some other =>
                    have same : env.sha256 object.body = other := by
                      simpa using (not_or.1 fits).2
                    rw [isExpected, ← same, isHash]
                    exact Or.inr rfl

end Calls

/-! ### References -/

/-- A hexadecimal digit is no blank. -/
theorem isSpace_hexDigit {char : Char}
    (digit : (char.isDigit || ('a' ≤ char && char ≤ 'f') || ('A' ≤ char && char ≤ 'F')) = true) :
    isSpace char = false := by
  have bounds : 48 ≤ char.toNat ∧ char.toNat ≤ 102 := by
    simp only [Char.isDigit, Bool.or_eq_true, Bool.and_eq_true, decide_eq_true_eq, Char.le_def,
      UInt32.le_iff_toNat_le, ge_iff_le] at digit
    have isNat : char.toNat = char.val.toNat := rfl
    have digits : 'a'.val.toNat = 97 ∧ 'f'.val.toNat = 102 ∧ 'A'.val.toNat = 65 ∧
        'F'.val.toNat = 70 ∧ '0'.val.toNat = 48 ∧ '9'.val.toNat = 57 := by decide
    obtain ⟨isA, isF, isUpperA, isUpperF, isZero, isNine⟩ := digits
    rw [isA, isF, isUpperA, isUpperF, isZero, isNine] at digit
    omega
  unfold isSpace
  dsimp only
  rw [decide_eq_false_iff_not]
  omega

/-- The digest of a reference that `put` has returned. -/
theorem digestFromRef_putRef {env : Env} (hashes : env.Hashes) (content : Bytes)
    (mediaType : String) :
    Op.digestFromRef (putRef (env.sha256 content) mediaType) = .ok (env.sha256 content) := by
  have isHex := hashes.digests content
  have hex := isHex
  unfold isHexDigest at hex
  rw [decide_eq_true_eq] at hex
  obtain ⟨long, digits⟩ := hex
  have notEmpty : (env.sha256 content).toList ≠ [] := by
    intro empty
    rw [← String.length_toList, empty] at long
    cases long
  obtain ⟨middle, last, isDigest⟩ := (List.eq_nil_or_concat _).resolve_left notEmpty
  have isText : (contentPrefix ++ env.sha256 content).toList =
      'c' :: ("ontent://sha256/".toList ++ middle) ++ [last] := by
    rw [String.toList_append, isDigest]
    unfold contentPrefix
    simp
  have ends : isSpace last = false :=
    isSpace_hexDigit (List.all_eq_true.1 digits last (by rw [isDigest]; simp))
  have stripped : strip (contentPrefix ++ env.sha256 content) = contentPrefix ++
    env.sha256 content := by
    refine strip_eq (fun char head => ?_) fun char final => ?_
    · rw [isText] at head
      cases head
      decide
    · rw [isText, List.getLast?_concat] at final
      cases final
      exact ends
  unfold Op.digestFromRef putRef
  rw [if_neg (by simp)]
  unfold Op.normalizeDigest
  dsimp only
  rw [stripped, if_pos (isContentId_prefixed _), contentSuffix_prefix,
    if_pos isHex, hashes.lowers]

/-! ### Typed uploads -/

/-- Two JSON values are the same: numbers by value, objects by their members. -/
inductive Json.Same : Json → Json → Prop where
  | null : Json.Same .null .null
  | bool (flag : Bool) : Json.Same (.bool flag) (.bool flag)
  | str (text : String) : Json.Same (.str text) (.str text)
  | int (number : Int) : Json.Same (.int number) (.int number)
  | float (number : ℚ) : Json.Same (.float number) (.float number)
  | intFloat (number : Int) : Json.Same (.int number) (.float number)
  | floatInt (number : Int) : Json.Same (.float number) (.int number)
  | arr {lefts rights : List Json} (same : List.Forall₂ Json.Same lefts rights) :
      Json.Same (.arr lefts) (.arr rights)
  | obj {lefts rights : Dict}
      (keys : ∀ key, (lefts.lookup key).isSome = (rights.lookup key).isSome)
      (values : ∀ key left right, lefts.lookup key = some left → rights.lookup key = some right →
        Json.Same left right) : Json.Same (.obj lefts) (.obj rights)

/-- Canonical JSON is one text for the same value, and digests are computed of it. -/
structure UploadEnv.Canonicalizes (env : UploadEnv) : Prop where
  bytes : ∀ value value' body body', env.canonicalJsonBytes value = .ok body →
    env.canonicalJsonBytes value' = .ok body' → (body = body' ↔ Json.Same value value')
  descriptors : ∃ domain, ∀ value, env.descriptorDigest value =
    (env.canonicalJsonBytes value).map fun body => env.sha256 (domain ++ body)

/-- The bytes that an upload puts under a normalized media type. -/
def Upload.body (env : UploadEnv) (upload : Upload) (mediaType : String) : Option Bytes :=
  if mediaType ∈ jsonMediaTypes then
    match (upload.parsed env).bind env.canonicalJsonBytes with
    | .ok body => some body
    | .error _ => none
  else
    match upload with
    | .text given => some given.toUTF8.toList
    | .bytes given => some given
    | .value _ => none

/-- The reference of a JSON document. -/
def jsonRef (env : UploadEnv) (value : Json) (body : Bytes) (mediaType : String) :
    Except Exc ResourceRef :=
  if mediaType ≠ descriptorMediaType then .ok (putRef (env.sha256 body) mediaType)
  else (env.descriptorDigest value).map fun digest =>
    { putRef (env.sha256 body) mediaType with
      versionOrDigest := some digest, identityCriterion := some "descriptor_digest" }

/-- How `put_typed_content` ends: with a reference of the object of its bytes, the one of its value
where it is a JSON document. -/
def TypedEnds (env : UploadEnv) (keyPrefix : String) (fails : StoreError → Prop) (upload : Upload)
    (mediaType : String) (bucket : Bucket) : Except Exc ResourceRef → Prop
  | .ok ref => ∃ body, upload.body env mediaType = some body ∧
      PutEnds env.toEnv keyPrefix fails body mediaType bucket
        (.ok (putRef (env.sha256 body) mediaType)) ∧
      ref.resourceId = contentPrefix ++ env.sha256 body ∧
      (mediaType ≠ descriptorMediaType → ref = putRef (env.sha256 body) mediaType) ∧
      (mediaType ∈ jsonMediaTypes → ∃ value, upload.parsed env = .ok value ∧
        env.canonicalJsonBytes value = .ok body ∧ jsonRef env value body mediaType = .ok ref)
  | .error _ => True

section Typed

variable {env : UploadEnv} {keyPrefix : String} {fails : StoreError → Prop} {client : Nat}

theorem putJson_upholds {own : StoredObject → Prop} {value : Json} {mediaType : String}
    (owned : ∀ body, env.canonicalJsonBytes value = .ok body →
      own (storedObject env.toEnv body mediaType)) :
    Upholds env.toEnv keyPrefix fails own (fun _ => True)
      (StoreOp.putJson env keyPrefix client value mediaType) fun bucket result =>
        ∀ ref, result = .ok ref → ∃ body, env.canonicalJsonBytes value = .ok body ∧
          PutEnds env.toEnv keyPrefix fails body mediaType bucket
            (.ok (putRef (env.sha256 body) mediaType)) ∧
          jsonRef env value body mediaType = .ok ref := by
  unfold StoreOp.putJson
  change Upholds _ _ _ _ _ ((Prog.ofExcept (checkTyped env mediaType value)).bind fun _ =>
    (Prog.ofExcept (env.canonicalJsonBytes value)).bind fun body =>
      (StoreOp.put env.toEnv keyPrefix client body mediaType).bind fun ref => _) _
  refine .ofExcept_bind (fun checked _ => ?_) fun _ _ _ _ _ impossible => by cases impossible
  refine .ofExcept_bind (fun body isBody => ?_) fun _ _ _ _ _ impossible => by cases impossible
  refine .bind (put_upholds (owned body isBody)) (fun ref => ?_)
    fun _ _ _ _ impossible => by cases impossible
  split
  · rename_i plain
    refine .ret fun bucket ends other same => ⟨body, isBody, ?_⟩
    cases same
    obtain ⟨rfl, stored⟩ := ends
    refine ⟨⟨rfl, stored⟩, ?_⟩
    unfold jsonRef
    rw [if_pos plain]
  · rename_i descriptor
    refine .ofExcept_bind (fun digest isDigest => ?_) fun _ _ _ _ _ impossible => by
      cases impossible
    refine .ret fun bucket ends other same => ⟨body, isBody, ?_⟩
    cases same
    obtain ⟨rfl, stored⟩ := ends
    refine ⟨⟨rfl, stored⟩, ?_⟩
    unfold jsonRef
    rw [if_neg descriptor, isDigest]
    rfl

theorem jsonRef_resourceId {value : Json} {body : Bytes} {mediaType : String} {ref : ResourceRef}
    (isRef : jsonRef env value body mediaType = .ok ref) :
    ref.resourceId = contentPrefix ++ env.sha256 body := by
  unfold jsonRef at isRef
  split at isRef
  · cases isRef
    rfl
  · cases isDigest : env.descriptorDigest value with
    | error error =>
        rw [isDigest] at isRef
        cases isRef
    | ok digest =>
        rw [isDigest] at isRef
        cases isRef
        rfl

theorem putTypedContent_upholds {upload : Upload} {mediaType media : String}
    (isMedia : normalizeMediaType mediaType = media) :
    Upholds env.toEnv keyPrefix fails
      (fun object => ∃ content, upload.body env media = some content ∧
        object = storedObject env.toEnv content media)
      (fun _ => True) (StoreOp.putTypedContent env keyPrefix client upload mediaType)
      (TypedEnds env keyPrefix fails upload media) := by
  unfold StoreOp.putTypedContent
  rw [isMedia]
  split
  · exact .raise fun _ _ => trivial
  · split
    · rename_i json
      change Upholds _ _ _ _ _ ((Prog.ofExcept (upload.parsed env)).bind fun value =>
        StoreOp.putJson env keyPrefix client value media) _
      refine .ofExcept_bind (fun value isValue => ?_) fun _ _ _ _ => trivial
      have owned : ∀ body, env.canonicalJsonBytes value = .ok body →
          upload.body env media = some body := by
        intro body isBody
        unfold Upload.body
        rw [if_pos json, isValue]
        simp only [Except.bind, isBody]
      refine (putJson_upholds fun body isBody => ⟨body, owned body isBody, rfl⟩).mono
        (fun _ here => here) fun bucket result ends => ?_
      cases result with
      | error error => trivial
      | ok ref =>
          obtain ⟨body, isBody, stored, isRef⟩ := ends ref rfl
          refine ⟨body, owned body isBody, stored, jsonRef_resourceId isRef, fun plain => ?_,
            fun _ => ⟨value, isValue, isBody, isRef⟩⟩
          unfold jsonRef at isRef
          rw [if_pos plain] at isRef
          cases isRef
          rfl
    · rename_i notJson
      have other : ∀ content, upload.body env media = some content → ∀ bucket result,
          PutEnds env.toEnv keyPrefix fails content media bucket result →
            TypedEnds env keyPrefix fails upload media bucket result := by
        intro content isOwn bucket result ends
        cases result with
        | error error => trivial
        | ok ref =>
            obtain ⟨rfl, stored⟩ := ends
            exact ⟨content, isOwn, ⟨rfl, stored⟩, rfl, fun _ => rfl, fun json =>
              absurd json notJson⟩
      cases upload with
      | text given =>
          have isOwn : (Upload.text given).body env media = some given.toUTF8.toList := by
            unfold Upload.body
            rw [if_neg notJson]
          exact (put_upholds ⟨_, isOwn, rfl⟩).mono (fun _ here => here) (other _ isOwn)
      | bytes given =>
          have isOwn : (Upload.bytes given).body env media = some given := by
            unfold Upload.body
            rw [if_neg notJson]
          exact (put_upholds ⟨_, isOwn, rfl⟩).mono (fun _ here => here) (other _ isOwn)
      | value given => exact .raise fun _ _ => trivial

end Typed

/-! ### Runs -/

inductive StoreCall where
  | put (client : Nat) (content : Bytes) (mediaType : String)
  | putTyped (client : Nat) (upload : Upload) (mediaType : String)
  | get (client : Nat) (ref : ResourceRef) (expected : Option String)
  deriving Repr, DecidableEq, Inhabited

inductive StoreResult where
  | ref (ref : ResourceRef)
  | content (content : Bytes)
  deriving Repr, DecidableEq, Inhabited

namespace StoreCall

def prog (env : UploadEnv) (keyPrefix : String) : StoreCall → StoreOp StoreResult
  | .put client content mediaType =>
      (StoreOp.put env.toEnv keyPrefix client content mediaType).map .ref
  | .putTyped client upload mediaType =>
      (StoreOp.putTypedContent env keyPrefix client upload mediaType).map .ref
  | .get client ref expected =>
      (StoreOp.get env.toEnv keyPrefix client ref expected).map .content

/-- The bytes that a call puts. -/
def body? (env : UploadEnv) : StoreCall → Option Bytes
  | .put _ content _ => some content
  | .putTyped _ upload mediaType => upload.body env (normalizeMediaType mediaType)
  | .get _ _ _ => none

end StoreCall

namespace StoreCall

/-- The object that a call creates. -/
def Creates (env : UploadEnv) (call : StoreCall) (object : StoredObject) : Prop :=
  match call with
  | .put _ content mediaType => object = storedObject env.toEnv content mediaType
  | .putTyped _ upload mediaType => ∃ content,
      upload.body env (normalizeMediaType mediaType) = some content ∧
        object = storedObject env.toEnv content (normalizeMediaType mediaType)
  | .get _ _ _ => False

theorem Creates.body {env : UploadEnv} {call : StoreCall} {object : StoredObject}
    (creates : call.Creates env object) : call.body? env = some object.body := by
  cases call with
  | put client content mediaType =>
      have same : object = storedObject env.toEnv content mediaType := creates
      rw [same]
      rfl
  | putTyped client upload mediaType =>
      obtain ⟨content, isBody, same⟩ := creates
      rw [same]
      exact isBody
  | get client ref expected => exact creates.elim

end StoreCall

/-- The calls of any number of clients.  All calls may overlap. -/
def contentSetting (env : UploadEnv) (keyPrefix : String) (fails : StoreError → Prop) :
    Setting StoreClients Exc StoreWrite StoreAnswer StoreResult StoreCall Bucket where
  code := StoreCall.prog env keyPrefix
  overlap _ _ := True
  moves _ _ _ _ := False
  answers _ := s3Answers fails
  drifts _ _ := False
  restarts _ _ := False

abbrev StoreBeat := Beat StoreClients Exc StoreAnswer StoreResult StoreCall Bucket

/-- How a call has ended. -/
def StoreEnds (env : UploadEnv) (keyPrefix : String) (fails : StoreError → Prop) (bucket : Bucket)
    (call : StoreCall) (result : Except Exc StoreResult) : Prop :=
  match call with
  | .put _ content mediaType => ∃ outcome, result = outcome.map .ref ∧
      PutEnds env.toEnv keyPrefix fails content mediaType bucket outcome
  | .putTyped _ upload mediaType => ∃ outcome, result = outcome.map .ref ∧
      TypedEnds env keyPrefix fails upload (normalizeMediaType mediaType) bucket outcome
  | .get _ ref expected => ∃ outcome, result = outcome.map .content ∧
      GetEnds env.toEnv keyPrefix fails ref expected bucket outcome

/-- What a beat does: it leaves objects as they are, stores contents of a kind under their digests,
and ends as it should. -/
structure StoreBlock (env : Env) (keyPrefix : String) (own : StoredObject → Prop)
    (ends : Bucket → Except Exc StoreResult → Prop) (before now : Bucket)
    (stop : Stop Exc StoreQuery StoreResult) : Prop where
  grown : Grown own before now
  stored : WellStored env keyPrefix now
  ends : ∀ result, stop = .ofResult result → ends now result

theorem Stop.ofResult_inj {ε Q α : Type} {result result' : Except ε α}
    (same : (Stop.ofResult result : Stop ε Q α) = .ofResult result') : result = result' := by
  cases result with
  | ok value =>
      cases result' with
      | ok value' =>
          cases same
          rfl
      | error error => cases same
  | error error =>
      cases result' with
      | ok value => cases same
      | error error' =>
          cases same
          rfl

section Runs

variable {env : UploadEnv} {keyPrefix : String} {fails : StoreError → Prop}

theorem Upholds.map {env : Env} {α β : Type} {own : StoredObject → Prop} {program : StoreOp α}
    {post : Bucket → Except Exc α → Prop}
    (first : Upholds env keyPrefix fails own (fun _ => True) program post) (change : α → β) :
    Upholds env keyPrefix fails own (fun _ => True) (program.map change)
      fun bucket result => ∃ outcome, result = outcome.map change ∧ post bucket outcome :=
  first.bind (fun value => .ret fun _ held => ⟨.ok value, rfl, held⟩)
    fun _ error held => ⟨.error error, rfl, held⟩

theorem StoreCall.upholds (call : StoreCall) :
    Upholds env.toEnv keyPrefix fails (call.Creates env) (fun _ => True) (call.prog env keyPrefix)
      fun bucket result => StoreEnds env keyPrefix fails bucket call result := by
  cases call with
  | put client content mediaType =>
      have puts : Upholds env.toEnv keyPrefix fails
        (fun object => object = storedObject env.toEnv content mediaType) (fun _ => True)
          (StoreOp.put env.toEnv keyPrefix client content mediaType)
          (PutEnds env.toEnv keyPrefix fails content mediaType) := put_upholds rfl
      exact puts.map StoreResult.ref
  | putTyped client upload mediaType =>
      unfold StoreCall.Creates StoreCall.prog StoreEnds
      dsimp only
      generalize isMedia : normalizeMediaType mediaType = media
      have puts : Upholds env.toEnv keyPrefix fails
          (fun object => ∃ content, upload.body env media = some content ∧
            object = storedObject env.toEnv content media) (fun _ => True)
          (StoreOp.putTypedContent env keyPrefix client upload mediaType)
          (TypedEnds env keyPrefix fails upload media) := putTypedContent_upholds isMedia
      exact puts.map StoreResult.ref
  | get client ref expected =>
      have gets : Upholds env.toEnv keyPrefix fails (fun _ => False)
          (fun _ => True) (StoreOp.get env.toEnv keyPrefix client ref expected)
          (GetEnds env.toEnv keyPrefix fails ref expected) := get_upholds
      exact gets.map StoreResult.content

theorem Upholds.blocks {own : StoredObject → Prop} {program : StoreOp StoreResult}
    {ends : Bucket → Except Exc StoreResult → Prop}
    (upholds : Upholds env.toEnv keyPrefix fails own (fun _ => True) program ends)
    {point : StoreClients × Bucket} (stored : WellStored env.toEnv keyPrefix point.2) :
    program.Secure (s3Answers fails)
      (fun now later => WellStored env.toEnv keyPrefix later.2 ∧ Extends now.2 later.2)
      (fun opening now query =>
        StoreBlock env.toEnv keyPrefix own ends opening.before.2 now.2 (.awaits query))
      ⟨none, point⟩ point fun opening now result =>
        StoreBlock env.toEnv keyPrefix own ends opening.before.2 now.2 (.ofResult result) := by
  refine ((upholds.secure ⟨none, point⟩ point (.refl _ _) stored trivial).guarantees
    fun opening now query held => ?_).mono fun opening now result held => ?_
  · refine ⟨held.1, held.2, fun result same => ?_⟩
    cases result with
    | ok value => cases same
    | error error => cases same
  · refine ⟨held.1, held.2.1, fun other same => ?_⟩
    rw [← Stop.ofResult_inj same]
    exact held.2.2

def contentContract (env : UploadEnv) (keyPrefix : String) (fails : StoreError → Prop) :
    Contract (contentSetting env keyPrefix fails) where
  inv point := WellStored env.toEnv keyPrefix point.2
  rely _ before after := Extends before.2 after.2
  guar call opening now stop :=
    StoreBlock env.toEnv keyPrefix (call.Creates env)
      (fun bucket result => StoreEnds env keyPrefix fails bucket call result) opening.before.2 now.2
      stop
  reflexive _ point := .refl point.2
  transitive _ _ _ _ earlier later := earlier.trans later
  secure call _ _ stored := (StoreCall.upholds call).blocks stored
  keeps _ _ _ _ block _ := block.stored
  respects _ _ _ _ _ _ block _ := block.grown.extended
  moves _ _ _ _ _ moved _ := moved.elim
  drifts _ _ drifted _ := drifted.elim
  restarts _ _ restarted _ := restarted.elim

/-- The objects of the bucket come from the calls of the run, and stay. -/
structure StorePast (env : UploadEnv) (keyPrefix : String) (fails : StoreError → Prop)
    (beats : List StoreBeat)
    (system : System StoreClients Exc StoreWrite StoreAnswer StoreResult StoreCall Bucket) :
    Prop where
  blocks : ∀ beat ∈ beats,
    StoreBlock env.toEnv keyPrefix (beat.label.Creates env)
      (fun bucket result => StoreEnds env keyPrefix fails bucket beat.label result)
      beat.opening.before.2 beat.after.2 beat.stop
  kept : beats.Pairwise fun beat later => Extends beat.after.2 later.after.2
  reaches : ∀ beat ∈ beats, Extends beat.after.2 system.point.2
  origin : ∀ key object, system.point.2.lookup key = some object →
    ∃ beat ∈ beats, beat.label.Creates env object ∧ beat.opening.before.2.lookup key = none ∧
      beat.after.2.lookup key = some object

theorem StorePast.step {beats : List StoreBeat}
    {system system' : System StoreClients Exc StoreWrite StoreAnswer StoreResult StoreCall Bucket}
    {beat : StoreBeat} (past : StorePast env keyPrefix fails beats system)
    (step : (contentSetting env keyPrefix fails).Step system beat system')
    (block : StoreBlock env.toEnv keyPrefix (beat.label.Creates env)
      (fun bucket result => StoreEnds env keyPrefix fails bucket beat.label result)
      beat.opening.before.2 beat.after.2 beat.stop) :
    StorePast env keyPrefix fails (beats ++ [beat]) system' := by
  obtain ⟨blocks, kept, reaches, origin⟩ := past
  have extended : Extends system.point.2 beat.after.2 := step.before_eq ▸ block.grown.extended
  have later : ∀ other ∈ beats, Extends other.after.2 beat.after.2 := fun other member =>
    (reaches other member).trans extended
  refine ⟨?_, ?_, ?_, ?_⟩
  · intro other member
    rcases List.mem_append.1 member with member | member
    · exact blocks other member
    · rw [List.mem_singleton.1 member]
      exact block
  · refine List.pairwise_append.2 ⟨kept, List.pairwise_singleton _ _, ?_⟩
    intro other member new isNew
    rw [List.mem_singleton.1 isNew]
    exact later other member
  · intro other member
    rw [← step.after_eq]
    rcases List.mem_append.1 member with member | member
    · exact later other member
    · rw [List.mem_singleton.1 member]
      exact .refl _
  · intro key object found
    rw [← step.after_eq] at found
    cases before : beat.opening.before.2.lookup key with
    | some earlier =>
        cases (block.grown.extended key earlier before).symm.trans found
        rw [step.before_eq] at before
        obtain ⟨other, member, isOrigin⟩ := origin key object before
        exact ⟨other, List.mem_append_left _ member, isOrigin⟩
    | none =>
        rcases block.grown.added key object found with already | owned
        · cases before.symm.trans already
        · exact ⟨beat, List.mem_append_right _ (List.mem_singleton.2 rfl), owned, before, found⟩

theorem storePast_of_run {ready : List Nat} {beats : List StoreBeat}
    {system : System StoreClients Exc StoreWrite StoreAnswer StoreResult StoreCall Bucket}
    (run : (contentSetting env keyPrefix fails).Run ⟨({ ready := ready }, []), [], 0⟩ beats
      system) :
    StorePast env keyPrefix fails beats system ∧
      (contentContract env keyPrefix fails).Sound system := by
  have empty : WellStored env.toEnv keyPrefix [] := by
    intro key object found
    cases found
  have initial : (contentContract env keyPrefix fails).Sound ⟨({ ready := ready }, []), [], 0⟩ :=
    ⟨empty, fun task member => (List.not_mem_nil member).elim, List.Pairwise.nil⟩
  refine (contentContract env keyPrefix fails).induct (StorePast env keyPrefix fails) initial
    ?_ ?_ ?_ run
  · refine ⟨fun beat member => ?_, List.Pairwise.nil, fun beat member => ?_, ?_⟩
    · exact (List.not_mem_nil member).elim
    · exact (List.not_mem_nil member).elim
    · intro key object found
      cases found
  · intro beats system beat system' past _ step block _
    exact past.step step block
  · intro beats system system' past _ silent
    cases silent with
    | move member pending moved => exact moved.elim
    | drift drifted => exact drifted.elim
    | restart restarted => exact restarted.elim

end Runs

/-! ### Soundness -/

/-- The contents that a run uploads have different digests. -/
def Collisionless (env : UploadEnv) (beats : List StoreBeat) : Prop :=
  ∀ beat ∈ beats, ∀ other ∈ beats, ∀ content content', beat.label.body? env = some content →
    other.label.body? env = some content' → env.sha256 content = env.sha256 content' →
      content = content'

/-- A call asks for the reference, and expects no other digest. -/
def StoreCall.Gets (digest : String) (ref : ResourceRef) (call : StoreCall) : Prop :=
  ∃ client expected, call = .get client ref expected ∧
    (StoreOp.expectedDigest expected = .ok none ∨
      StoreOp.expectedDigest expected = .ok (some digest))

/-- The reference of a call is that of a descriptor, which is named by the digest of its value. -/
def StoreCall.Describes (call : StoreCall) : Prop :=
  ∃ client upload mediaType, call = .putTyped client upload mediaType ∧
    normalizeMediaType mediaType = descriptorMediaType

/-- What the content store promises of a run. -/
structure StoreSound (env : UploadEnv) (fails : StoreError → Prop) (beats : List StoreBeat) :
    Prop where
  /-- No object is ever changed. -/
  kept : (∀ beat ∈ beats, Extends beat.opening.before.2 beat.after.2) ∧
    beats.Pairwise fun beat later => Extends beat.after.2 later.after.2
  /-- The reference of an upload names the digest of its bytes. -/
  named : ∀ beat ∈ beats, ∀ ref, beat.stop = .ofResult (.ok (.ref ref)) →
    ∃ content, beat.label.body? env = some content ∧
      ref.resourceId = contentPrefix ++ env.sha256 content
  /-- The bytes that are got have the digest that is asked for. -/
  matched : ∀ beat ∈ beats, ∀ client ref expected content,
    beat.label = .get client ref expected → beat.stop = .ofResult (.ok (.content content)) →
      Op.digestFromRef ref = .ok (env.sha256 content) ∧
        (StoreOp.expectedDigest expected = .ok none ∨
          StoreOp.expectedDigest expected = .ok (some (env.sha256 content)))
  /-- What has been uploaded is got by its reference, if S3 does not fail. -/
  fetched : beats.Pairwise fun beat later => ∀ ref content result,
    beat.stop = .ofResult (.ok (.ref ref)) → ¬ beat.label.Describes →
      beat.label.body? env = some content → later.label.Gets (env.sha256 content) ref →
        later.stop = .ofResult result →
          result = .ok (.content content) ∨ ∃ error, result = .error error ∧ Failed fails error
  /-- Two documents have one reference if and only if they are the same. -/
  documents : ∀ beat ∈ beats, ∀ other ∈ beats,
    ∀ client client' upload upload' mediaType mediaType' ref ref',
      beat.label = .putTyped client upload mediaType →
      other.label = .putTyped client' upload' mediaType' →
      normalizeMediaType mediaType = normalizeMediaType mediaType' →
      normalizeMediaType mediaType ∈ jsonMediaTypes →
      beat.stop = .ofResult (.ok (.ref ref)) → other.stop = .ofResult (.ok (.ref ref')) →
        ∃ value value', upload.parsed env = .ok value ∧ upload'.parsed env = .ok value' ∧
          (ref = ref' ↔ Json.Same value value')

section Soundness

variable {env : UploadEnv} {keyPrefix : String} {fails : StoreError → Prop}

/-- An upload that has returned has an object under the digest of its bytes. -/
theorem StoreEnds.uploaded {bucket : Bucket} {call : StoreCall} {ref : ResourceRef}
    (ends : StoreEnds env keyPrefix fails bucket call (.ok (.ref ref))) :
    ∃ content, call.body? env = some content ∧
      ref.resourceId = contentPrefix ++ env.sha256 content ∧
      (∃ object, bucket.lookup (storeKey keyPrefix (env.sha256 content)) = some object) ∧
      (¬ call.Describes → ∃ mediaType, ref = putRef (env.sha256 content) mediaType) := by
  cases call with
  | put client content mediaType =>
      obtain ⟨outcome, same, ended⟩ := ends
      cases outcome with
      | error error => cases same
      | ok given =>
          cases same
          obtain ⟨rfl, object, found, -⟩ := ended
          exact ⟨content, rfl, rfl, ⟨object, found⟩, fun _ => ⟨mediaType, rfl⟩⟩
  | putTyped client upload mediaType =>
      obtain ⟨outcome, same, ended⟩ := ends
      cases outcome with
      | error error => cases same
      | ok given =>
          cases same
          obtain ⟨content, isBody, ⟨-, object, found, -⟩, named, plain, -⟩ := ended
          exact ⟨content, isBody, named, ⟨object, found⟩, fun other =>
            ⟨_, plain fun describes => other ⟨client, upload, mediaType, rfl, describes⟩⟩⟩
  | get client ref expected =>
      obtain ⟨outcome, same, -⟩ := ends
      cases outcome with
      | error error => cases same
      | ok content => cases same

/-- A document that has been uploaded has the reference of its value. -/
theorem StoreEnds.document {bucket : Bucket} {client : Nat} {upload : Upload} {mediaType : String}
    {ref : ResourceRef}
    (ends : StoreEnds env keyPrefix fails bucket (.putTyped client upload mediaType)
      (.ok (.ref ref)))
    (json : normalizeMediaType mediaType ∈ jsonMediaTypes) :
    ∃ value body, upload.parsed env = .ok value ∧ env.canonicalJsonBytes value = .ok body ∧
      upload.body env (normalizeMediaType mediaType) = some body ∧
      jsonRef env value body (normalizeMediaType mediaType) = .ok ref := by
  obtain ⟨outcome, same, ended⟩ := ends
  cases outcome with
  | error error => cases same
  | ok given =>
      cases same
      obtain ⟨body, isBody, -, -, -, isJson⟩ := ended
      obtain ⟨value, isValue, isCanonical, isRef⟩ := isJson json
      exact ⟨value, body, isValue, isCanonical, isBody, isRef⟩

/-- Documents of the same bytes have the same reference. -/
theorem jsonRef_congr (canonical : env.Canonicalizes) {value value' : Json} {body : Bytes}
    {mediaType : String} {ref ref' : ResourceRef} (isBody : env.canonicalJsonBytes value = .ok body)
    (isBody' : env.canonicalJsonBytes value' = .ok body)
    (isRef : jsonRef env value body mediaType = .ok ref)
    (isRef' : jsonRef env value' body mediaType = .ok ref') : ref = ref' := by
  obtain ⟨domain, digests⟩ := canonical.descriptors
  unfold jsonRef at isRef isRef'
  split at isRef
  · rename_i plain
    rw [if_pos plain] at isRef'
    cases isRef
    cases isRef'
    rfl
  · rename_i descriptor
    rw [if_neg descriptor, digests, isBody'] at isRef'
    rw [digests, isBody] at isRef
    cases isRef
    cases isRef'
    rfl

/-- Under any interleaving of calls, the content store never changes an object, names what it stores
by its digest, and gives back what it has stored; documents have one reference if and only if they
are the same. -/
theorem content_store_sound (hashes : env.Hashes) (canonical : env.Canonicalizes) {ready : List Nat}
    {beats : List StoreBeat}
    {system : System StoreClients Exc StoreWrite StoreAnswer StoreResult StoreCall Bucket}
    (run : (contentSetting env keyPrefix fails).Run ⟨({ ready := ready }, []), [], 0⟩ beats system)
    (collisionless : Collisionless env beats) : StoreSound env fails beats := by
  obtain ⟨⟨blocks, kept, reaches, origin⟩, -⟩ := storePast_of_run run
  refine ⟨⟨fun beat member => (blocks beat member).grown.extended, kept⟩, ?_, ?_, ?_, ?_⟩
  · intro beat member ref returned
    obtain ⟨content, isBody, named, -, -⟩ := ((blocks beat member).ends _ returned).uploaded
    exact ⟨content, isBody, named⟩
  · intro beat member client ref expected content isGet returned
    have ends := (blocks beat member).ends _ returned
    rw [isGet] at ends
    obtain ⟨outcome, same, ended⟩ := ends
    cases outcome with
    | error error => cases same
    | ok given =>
        cases same
        obtain ⟨digest, object, isDigest, -, -, rfl, fits⟩ := ended
        exact ⟨isDigest, fits⟩
  · refine (List.Pairwise.and_mem.1 kept).imp ?_
    rintro beat later ⟨member, memberLater, extended⟩ ref content result returned plain isBody
      ⟨client, expected, isGet, fits⟩ ended
    obtain ⟨content', isBody', -, ⟨object, found⟩, isRef⟩ :=
      ((blocks beat member).ends _ returned).uploaded
    cases isBody.symm.trans isBody'
    obtain ⟨mediaType, rfl⟩ := isRef plain
    have isDigest := digestFromRef_putRef hashes content mediaType
    obtain ⟨other, memberOther, creates, -, -⟩ := origin _ _ (reaches beat member _ _ found)
    have sameDigest : env.sha256 content = env.sha256 object.body :=
      storeKey_inj ((blocks beat member).stored _ _ found)
    have sameContent : content = object.body :=
      collisionless beat member other memberOther _ _ isBody creates.body sameDigest
    have stillFound := extended _ _ found
    have ends := (blocks later memberLater).ends _ ended
    rw [isGet] at ends
    obtain ⟨outcome, rfl, gets⟩ := ends
    cases outcome with
    | ok content' =>
        obtain ⟨digest, object', isDigest', found', rfl, -, -⟩ := gets
        cases isDigest.symm.trans isDigest'
        cases stillFound.symm.trans found'
        rw [sameContent]
        exact Or.inl rfl
    | error error =>
        rcases gets with failed | missing
        · exact Or.inr ⟨error, rfl, failed⟩
        · exact absurd sameDigest.symm (missing _ object isDigest stillFound fits)
  · intro beat member other memberOther client client' upload upload' mediaType mediaType' ref ref'
      isPut isPut' sameMedia json returned returned'
    have ends := (blocks beat member).ends _ returned
    have ends' := (blocks other memberOther).ends _ returned'
    rw [isPut] at ends
    rw [isPut'] at ends'
    obtain ⟨value, body, isValue, isCanonical, isBody, isRef⟩ := ends.document json
    obtain ⟨value', body', isValue', isCanonical', isBody', isRef'⟩ :=
      ends'.document (sameMedia ▸ json)
    refine ⟨value, value', isValue, isValue', ?_⟩
    rw [← canonical.bytes value value' body body' isCanonical isCanonical']
    constructor
    · rintro rfl
      have sameId := (jsonRef_resourceId isRef).symm.trans (jsonRef_resourceId isRef')
      have lists := congrArg String.toList sameId
      simp only [String.toList_append] at lists
      have sameDigest := String.toList_inj.1 (List.append_cancel_left lists)
      refine collisionless beat member other memberOther body body' ?_ ?_ sameDigest
      · rw [isPut]
        exact isBody
      · rw [isPut']
        exact isBody'
    · rintro rfl
      rw [← sameMedia] at isRef'
      exact jsonRef_congr canonical isCanonical isCanonical' isRef isRef'

end Soundness

namespace StoreDemo

def trueBytes : Bytes := [116, 114, 117, 101]

/-- The canonical JSON of values without parts. -/
def canonicalize : Json → Except Exc Bytes
  | .null => .ok [110, 117, 108, 108]
  | .bool true => .ok trueBytes
  | .bool false => .ok [102, 97, 108, 115, 101]
  | _ => .error (.valueError "json_canonicalization_error")

/-- SHA-256 of the contents here. -/
def hash (content : Bytes) : String :=
  if content = trueBytes then "b5bea41b6c623f7c09f1bf24dcae58ebab3c0cdd90ad966bc43a45b44867e12b"
  else "74234e98afe7498fb5daf1f36ac2d78acc339464f950703b8c019892f982b90b"

def domain : Bytes := "loom/operation-descriptor/v1".toUTF8.toList ++ [0]

def env : UploadEnv :=
  { Demo.env with
    canonicalJsonBytes := canonicalize
    sha256 := hash
    descriptorDigest := fun value => (canonicalize value).map fun body => hash (domain ++ body)
    textLoads := fun text => if text = "true" then .ok (.bool true) else .ok .null }

theorem hashes : env.Hashes := by
  have digests : ∀ content, isHexDigest (hash content) = true ∧ lower (hash content) =
    hash content := by
    intro content
    unfold hash
    split
    · decide +kernel
    · decide +kernel
  exact ⟨fun content => (digests content).1, fun content => (digests content).2⟩

theorem canonical : env.Canonicalizes := by
  refine ⟨fun value value' body body' isBody isBody' => ?_, domain, fun value => rfl⟩
  have cases_of : ∀ value body, canonicalize value = .ok body →
      value = .null ∧ body = [110, 117, 108, 108] ∨ value = .bool true ∧ body = trueBytes ∨
        value = .bool false ∧ body = [102, 97, 108, 115, 101] := by
    intro value body isBody
    unfold canonicalize at isBody
    split at isBody
    · cases isBody
      exact Or.inl ⟨rfl, rfl⟩
    · cases isBody
      exact Or.inr (Or.inl ⟨rfl, rfl⟩)
    · cases isBody
      exact Or.inr (Or.inr ⟨rfl, rfl⟩)
    · cases isBody
  rcases cases_of value body isBody with ⟨rfl, rfl⟩ | ⟨rfl, rfl⟩ | ⟨rfl, rfl⟩
  all_goals
    rcases cases_of value' body' isBody' with ⟨rfl, rfl⟩ | ⟨rfl, rfl⟩ | ⟨rfl, rfl⟩
  · exact ⟨fun _ => .null, fun _ => rfl⟩
  · exact ⟨fun same => absurd same (by decide), fun same => by cases same⟩
  · exact ⟨fun same => absurd same (by decide), fun same => by cases same⟩
  · exact ⟨fun same => absurd same (by decide), fun same => by cases same⟩
  · exact ⟨fun _ => .bool true, fun _ => rfl⟩
  · exact ⟨fun same => absurd same (by decide), fun same => by cases same⟩
  · exact ⟨fun same => absurd same (by decide), fun same => by cases same⟩
  · exact ⟨fun same => absurd same (by decide), fun same => by cases same⟩
  · exact ⟨fun _ => .bool false, fun _ => rfl⟩

/-- S3 that never fails. -/
def serve (_ : Nat) : (query : StoreQuery) → Bucket → StoreAnswer query × Bucket
  | .headBucket, bucket => (.ok (), bucket)
  | .createBucket, bucket => (.ok (), bucket)
  | .headObject key, bucket =>
      match bucket.lookup key with
      | some object => (.ok object.head, bucket)
      | none => (.error (.client "404"), bucket)
  | .putObject key object, bucket =>
      match bucket.lookup key with
      | some _ => (.error (.client "PreconditionFailed"), bucket)
      | none => (.ok (), (key, object) :: bucket)
  | .getObject key, bucket =>
      match bucket.lookup key with
      | some object => (.ok object.body, bucket)
      | none => (.error (.client "NoSuchKey"), bucket)

theorem serve_serves (ticket : Nat) (query : StoreQuery) (bucket : Bucket) :
    s3Answers (fun _ => False) query bucket (serve ticket query bucket).1
      (serve ticket query bucket).2 := by
  cases query with
  | headBucket => exact ⟨rfl, fun error impossible => by cases impossible⟩
  | createBucket => exact ⟨rfl, fun error impossible => by cases impossible⟩
  | headObject key =>
      dsimp only [serve]
      cases found : bucket.lookup key with
      | some object => exact ⟨rfl, object, found, rfl⟩
      | none => exact ⟨rfl, found⟩
  | putObject key object =>
      dsimp only [serve]
      cases found : bucket.lookup key with
      | some other => exact Or.inl ⟨rfl, by decide, found ▸ nofun⟩
      | none => exact ⟨found, rfl⟩
  | getObject key =>
      dsimp only [serve]
      cases found : bucket.lookup key with
      | some object => exact ⟨rfl, object, found, rfl⟩
      | none => exact ⟨rfl, found⟩

def start : System StoreClients Exc StoreWrite StoreAnswer StoreResult StoreCall Bucket :=
  { point := ({}, []) }

def played (choices : List (Choice StoreCall)) :=
  start.play (contentSetting env "content" fun _ => False) (fun _ _ => true) serve choices

theorem played_run (choices : List (Choice StoreCall)) :
    (contentSetting env "content" fun _ => False).Run start (played choices).1 (played choices).2 :=
  System.run_of_play (fun _ _ _ => trivial) serve_serves choices .nil

/-- Two clients upload a document at the same time, and a third one gets it. -/
def uploads : List StoreCall :=
  [.putTyped 0 (.text "true") "application/json",
    .putTyped 1 (.value (.bool true)) "application/json; charset=utf-8",
    .get 2 (putRef (hash trueBytes) "application/json") none]

def schedule : List (Choice StoreCall) :=
  uploads.map .start ++
    [.answer 0, .answer 1, .answer 0, .answer 1, .answer 0, .answer 1, .answer 1,
    .answer 2, .answer 2]

end StoreDemo

/-- Two uploads of a document that overlap, and a call that gets it. -/
theorem content_store_sound_uploads :
    (StoreDemo.played StoreDemo.schedule).2.point.2.length = 1 ∧
      StoreSound StoreDemo.env (fun _ => False) (StoreDemo.played StoreDemo.schedule).1 := by
  refine ⟨by decide +kernel, content_store_sound StoreDemo.hashes StoreDemo.canonical
    (StoreDemo.played_run StoreDemo.schedule) ?_⟩
  have bodies : (StoreDemo.played StoreDemo.schedule).1.all (fun beat =>
      (beat.label.body? StoreDemo.env).all (· = StoreDemo.trueBytes)) = true := by decide +kernel
  intro beat member other memberOther content content' isBody isBody' _
  have body := List.all_eq_true.1 bodies beat member
  have body' := List.all_eq_true.1 bodies other memberOther
  rw [isBody, Option.all_some, decide_eq_true_eq] at body
  rw [isBody', Option.all_some, decide_eq_true_eq] at body'
  rw [body, body']

end Loom
