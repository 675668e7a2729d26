import Loom.Coroutine.Obeys
import Loom.Regex
import Loom.Slave.Lifecycle
import Mathlib.Algebra.Order.Ring.Unbundled.Rat

/-!
# The container plugin

`DockerContainerHTTPRuntimeV1` of `runtime_plugins/container_http_v1/runtime.py`: the operations of
the plugin with the commands that they give to Docker and the requests that they send to containers.
Packages, commands and activations are the JSON objects of the plugin protocol.

The health checks of `provision` go on until a deadline; `rounds` is how many of them fit.
-/

namespace Loom

open Coroutine

/-- `str` of a value that is not a string, `str.lower` and `json.loads`. -/
structure PluginEnv where
  str : Json → String
  lower : String → String
  loads : String → Option Json

/-- `str(value)`. -/
def PluginEnv.text (env : PluginEnv) : Json → String
  | .str text => text
  | value => env.str value

/-- `DockerCommandResult`. -/
structure DockerCommandResult where
  returncode : Int
  stdout : String := ""
  stderr : String := ""
  deriving Repr, DecidableEq, Inhabited

/-- The response of a service: the size of its body, and the body where it is JSON. -/
structure ServiceResponse where
  status : Nat
  size : Nat
  value : Option Json
  deriving Repr, DecidableEq, Inhabited

/-- How a request can fail: by `httpx.TimeoutException` or `TimeoutError`, another
`httpx.HTTPError`, or another exception. -/
inductive RequestFailure where
  | timeout
  | http
  | raised (error : Exc)
  deriving Repr, DecidableEq, Inhabited

inductive PluginQuery where
  | docker (args : List String)
  | rounds
  | health (container : String) (port : Int) (path : String)
  | acquire (packageDigest : String)
  | post (container : String) (port : Int) (path : String) (payload : Json) (attemptId : String)
  deriving Repr, DecidableEq, Inhabited

/-- A health check is answered by the status of the response, where there is one. -/
def PluginAnswer : PluginQuery → Type
  | .docker _ => Except Exc DockerCommandResult
  | .rounds => Nat
  | .health _ _ _ => Except Exc (Option Nat)
  | .acquire _ => Bool
  | .post _ _ _ _ _ => Except RequestFailure ServiceResponse

instance : Update Empty Unit := ⟨fun _ state => state⟩

abbrev PluginOp (α : Type) := Prog Unit Exc Empty PluginAnswer α

/-- The configuration of the plugin; numbers are texts where they are only given to Docker. -/
structure ContainerSettings where
  slaveId : String
  network : String
  memory : String := "512m"
  cpus : String := "1.0"
  pidsLimit : String := "128"
  tmpfsSize : String := "64m"
  requestTimeout : ℚ := 30
  responseMaxBytes : Nat := 4 * 1024 * 1024
  deriving Repr, DecidableEq, Inhabited

/-! ### Identities -/

/-- Lower-case letters and digits. -/
def isNameChar (char : Char) : Bool := char.isDigit || ('a' ≤ char && char ≤ 'z')

/-- `re.sub(r"[^a-z0-9_.-]", "-", text.lower()).strip("-")[:size] or default`. -/
def safeName (env : PluginEnv) (text : String) (size : Nat) (default : String) : String :=
  let chars := (env.lower text).toList.map fun char =>
    if isNameChar char || ['_', '.', '-'].contains char then char else '-'
  let stripped := ((chars.dropWhile (· = '-')).reverse.dropWhile (· = '-')).reverse
  if stripped.take size = [] then default else String.ofList (stripped.take size)

/-- `[a-z0-9]+(?:[._-][a-z0-9]+)*`. -/
def imageName : Regex :=
  .seq (.plus (.char isNameChar))
    (.star (.seq (.char fun char => char = '.' || char = '_' || char = '-')
      (.plus (.char isNameChar))))

/-- `IMAGE_RE`. -/
def imageRe : Regex :=
  .seq .start (.seq
    (.concat
      [.seq (.char isNameChar)
          (.opt (.seq (.star (.char fun char => isNameChar char || char = '.' || char = '-'))
            (.char isNameChar))),
        .opt (.seq (.literal [':']) (.plus (.char Char.isDigit))), .literal ['/'],
        .star (.seq imageName (.literal ['/'])), imageName, .literal "@sha256:".toList,
        .times (.char fun char => char.isDigit || ('a' ≤ char && char ≤ 'f')) 64])
    .stop)

/-- The host of an image reference, with its port. -/
def isImageHost (chars : List Char) : Bool :=
  let isName (name : List Char) :=
    name.head?.any isNameChar && name.getLast?.any isNameChar &&
      name.all fun char => isNameChar char || ['.', '-'].contains char
  match chars.splitOn ':' with
  | [name] => isName name
  | [name, port] => isName name && port ≠ [] && port.all Char.isDigit
  | _ => false

/-- `[a-z0-9]+(?:[._-][a-z0-9]+)*`. -/
def isImageComponent (chars : List Char) : Bool :=
  (chars.splitOnP fun char => ['.', '_', '-'].contains char).all fun part =>
    part ≠ [] && part.all isNameChar

/-- `IMAGE_RE.fullmatch`. -/
def isImageRef (text : String) : Bool :=
  match text.toList.splitOn '@' with
  | [path, digest] =>
      (match path.splitOn '/' with
        | host :: components =>
            isImageHost host && components ≠ [] && components.all isImageComponent
        | [] => false) &&
      "sha256:".toList.isPrefixOf digest &&
      CapabilityPackageVersion.isSha256 (some (String.ofList (digest.drop 7)))
  | _ => false

/-- The identity of a container: its workspace and the digest of its package. -/
structure ContainerIdentity where
  workspaceId : String
  packageDigest : String
  deriving Repr, DecidableEq, Inhabited

/-- `_container_name`. -/
def ContainerIdentity.name (env : PluginEnv) (settings : ContainerSettings)
    (identity : ContainerIdentity) : String :=
  "loom-cap-" ++ safeName env identity.workspaceId 40 "workspace" ++ "-" ++
    safeName env settings.slaveId 24 "slave" ++ "-" ++ digestHead identity.packageDigest

/-- `_labels`. -/
def ContainerIdentity.labels (settings : ContainerSettings) (identity : ContainerIdentity) :
    List (String × String) :=
  [("io.loom.managed", "container-http-v1"), ("io.loom.workspace", identity.workspaceId),
    ("io.loom.slave", settings.slaveId), ("io.loom.package-digest", identity.packageDigest)]

/-- `_execution_identity`. -/
def executionIdentity (env : PluginEnv) (package : Dict) : Except Exc (String × String) := do
  let mismatch : Except Exc (String × String) :=
    .error (runtimeError "runtime_plugin_capability_mismatch")
  match Dict.get package "execution" with
  | .obj execution =>
      if Dict.get package "package_type" ≠ .str "service" ∨
          Dict.get execution "kind" ≠ .str "container:http" ∨
          env.text ((Dict.get execution "version").orElse (.str "")) ≠ "1" then mismatch
      else
        let digest := env.lower (env.text ((Dict.get package "package_digest").orElse (.str "")))
        match Dict.get package "package_id", Dict.get package "package_version" with
        | .str packageId, .str packageVersion =>
            if packageId = "" ∨ packageVersion = "" ∨
                CapabilityPackageVersion.isSha256 (some digest) = false then
              .error (runtimeError "runtime_plugin_identity_mismatch")
            else .ok ("capability-package://" ++ packageId ++ "/" ++ packageVersion, digest)
        | _, _ => .error (runtimeError "runtime_plugin_identity_mismatch")
  | _ => mismatch

/-- What a service package says of its container. -/
structure ServiceValues where
  imageRef : String
  containerPort : Int
  healthPath : String
  exports : List Json
  deriving Repr, DecidableEq, Inhabited

/-- The path of an export. -/
def exportPath : Json → Except Exc String
  | .obj entries =>
      match Dict.get entries "runtime_binding" with
      | .obj binding =>
          match Dict.get binding "path" with
          | .str path => .ok path
          | _ => .error (runtimeError "runtime_plugin_capability_mismatch")
      | _ => .error (runtimeError "runtime_plugin_capability_mismatch")
  | _ => .error (runtimeError "runtime_plugin_capability_mismatch")

/-- `_service_values`. -/
def serviceValues (env : PluginEnv) (package : Dict) : Except Exc ServiceValues := do
  let _ ← executionIdentity env package
  let mismatch : Except Exc ServiceValues :=
    .error (runtimeError "runtime_plugin_capability_mismatch")
  match Dict.get package "body", Dict.get package "capability_exports" with
  | .obj body, .arr exports =>
      match Dict.get body "image_ref", Dict.get body "container_port",
          Dict.get body "health_path" with
      | .str imageRef, .int containerPort, .str healthPath =>
          if exports = [] ∨ isImageRef imageRef = false ∨
              ¬(1 ≤ containerPort ∧ containerPort ≤ 65535) then mismatch
          else do
            let paths ← exports.mapM exportPath
            if ¬paths.Nodup then .error (runtimeError "service_endpoint_duplicate")
            else if healthPath ∈ paths then
              .error (runtimeError "service_health_endpoint_conflict")
            else .ok { imageRef, containerPort, healthPath, exports }
      | _, _, _ => mismatch
  | _, _ => mismatch

/-- The identity that a command or an activation names has to be the one of its package. -/
def namedIdentity (env : PluginEnv) (settings : ContainerSettings) (package named : Dict)
    (targetSlave : Json) : Except Exc ContainerIdentity := do
  let (packageRef, packageDigest) ← executionIdentity env package
  match Dict.get named "workspace_id" with
  | .str workspaceId =>
      if workspaceId = "" ∨ targetSlave ≠ .str settings.slaveId ∨
          Dict.get named "package_version_ref" ≠ .str packageRef ∨
          env.lower (env.text ((Dict.get named "package_digest").orElse (.str ""))) ≠
            packageDigest then
        .error (runtimeError "runtime_plugin_identity_mismatch")
      else .ok { workspaceId, packageDigest }
  | _ => .error (runtimeError "runtime_plugin_identity_mismatch")

/-- `_command_context`. -/
def commandContext (env : PluginEnv) (settings : ContainerSettings) (package command : Dict) :
    Except Exc ContainerIdentity :=
  namedIdentity env settings package command (Dict.get command "target_slave")

/-- The checks of an activation in `invoke`, `inspect` and `reconcile`. -/
def activationContext (env : PluginEnv) (settings : ContainerSettings)
    (package activation : Dict) : Except Exc ContainerIdentity :=
  namedIdentity env settings package activation
    ((Dict.get activation "target_slave").orElse (Dict.get activation "slave_id"))

/-- `activation.get("package_payload") or activation.get("package")`. -/
def activationPackage (activation : Dict) : Except Exc Dict :=
  match (Dict.get activation "package_payload").orElse (Dict.get activation "package") with
  | .obj package => .ok package
  | _ => .error (runtimeError "runtime_plugin_identity_mismatch")

/-- The name of the container of an activation, which its profile must not change. -/
def profileName (env : PluginEnv) (activation : Dict) (expectedName : String) :
    Except Exc String :=
  match (Dict.get activation "runtime_profile").orElse (.obj []) with
  | .obj profile =>
      let name := env.text ((Dict.get profile "container_name").orElse (.str expectedName))
      if name ≠ expectedName then .error (runtimeError "service_container_identity_conflict")
      else .ok name
  | _ => .error (.attributeError "object has no attribute 'get'")

/-- The identity that `deprovision` is asked for. -/
def deprovisionContext (env : PluginEnv) (settings : ContainerSettings) (command : Dict) :
    Except Exc ContainerIdentity :=
  let packageDigest := env.lower (env.text ((Dict.get command "package_digest").orElse (.str "")))
  match Dict.get command "workspace_id", Dict.get command "package_version_ref" with
  | .str workspaceId, .str packageRef =>
      if workspaceId = "" ∨
          "capability-package://".toList.isPrefixOf packageRef.toList = false ∨
          CapabilityPackageVersion.isSha256 (some packageDigest) = false ∨
          Dict.get command "target_slave" ≠ .str settings.slaveId then
        .error (runtimeError "runtime_plugin_identity_mismatch")
      else .ok { workspaceId, packageDigest }
  | _, _ => .error (runtimeError "runtime_plugin_identity_mismatch")

/-! ### Containers -/

/-- What the output of `docker inspect` shows. -/
def shownContainer (env : PluginEnv) (result : DockerCommandResult) : Except Exc (Option Dict) :=
  if result.returncode ≠ 0 then .ok none
  else match env.loads result.stdout with
    | some (.arr (.obj container :: _)) => .ok (some container)
    | _ => .error (runtimeError "service_container_inspect_failed")

/-- `_labels_match`. -/
def labelsMatch (env : PluginEnv) (container : Dict) (labels : List (String × String)) :
    Except Exc Bool := do
  let config ← match (container.lookup "Config").getD (.obj []) with
    | .obj config => .ok config
    | _ => .error (.attributeError "object has no attribute 'get'")
  match ((Dict.get config "Labels").orElse (Dict.get container "Labels")).orElse (.obj []) with
  | .obj actual => .ok (labels.all fun label =>
      env.text ((actual.lookup label.1).getD (.str "")) = label.2)
  | _ => .ok false

/-- `bool((container.get("State") or {}).get("Running"))`. -/
def isRunning (container : Dict) : Except Exc Bool :=
  match (Dict.get container "State").orElse (.obj []) with
  | .obj state => .ok (Dict.get state "Running").truthy
  | _ => .error (.attributeError "object has no attribute 'get'")

/-- The image of a container is the wanted one, as far as the container tells. -/
def namesImage (env : PluginEnv) (container : Dict) (imageRef : String) : Except Exc Bool := do
  let refs ← (((Dict.get container "RepoDigests").orElse
    (Dict.get container "ImageDigest")).orElse (.arr [])).iterate
  let config ← match (Dict.get container "Config").orElse (.obj []) with
    | .obj config => .ok config
    | _ => .error (.attributeError "object has no attribute 'get'")
  let configured := env.text ((Dict.get config "Image").orElse (.str ""))
  let actual := env.text ((Dict.get container "Image").orElse (.str ""))
  .ok (refs.any (fun item => env.text item = imageRef) || configured = imageRef ||
    actual = imageRef)

/-- The arguments of `docker create`. -/
def createArgs (settings : ContainerSettings) (name imageRef : String)
    (labels : List (String × String)) : List String :=
  ["create", "--name", name, "--pull=never", "--restart", "unless-stopped", "--network",
    settings.network, "--read-only", "--user", "65534:65534", "--cap-drop", "ALL",
    "--security-opt", "no-new-privileges", "--pids-limit", settings.pidsLimit, "--memory",
    settings.memory, "--cpus", settings.cpus, "--tmpfs",
    "/tmp:rw,noexec,nosuid,size=" ++ settings.tmpfsSize] ++
  labels.flatMap (fun label => ["--label", label.1 ++ "=" ++ label.2]) ++ [imageRef]

namespace PluginOp

variable (env : PluginEnv) (settings : ContainerSettings)

/-- `_docker`. -/
def docker (args : List String) : PluginOp DockerCommandResult :=
  .await (.docker args) Prog.ofExcept

/-- The first part of `_image_ready`: inspect an image, which is pulled where it is missing. -/
def inspectImage (imageRef : String) : PluginOp DockerCommandResult := do
  let digests := ["image", "inspect", imageRef, "--format", "{{json .RepoDigests}}"]
  let inspect ← docker digests
  if inspect.returncode = 0 then .ret inspect
  else do
    let pulled ← docker ["pull", imageRef]
    Prog.guard (pulled.returncode = 0) (runtimeError "service_image_unavailable")
    docker digests

/-- `_image_ready`. -/
def imageReady (imageRef : String) : PluginOp Unit := do
  let inspect ← inspectImage imageRef
  Prog.guard (inspect.returncode = 0) (runtimeError "service_image_digest_mismatch")
  match env.loads (if inspect.stdout = "" then "[]" else inspect.stdout) with
  | some (.arr items) =>
      Prog.guard (imageRef ∈ items.map env.text) (runtimeError "service_image_digest_mismatch")
  | _ => .raise (runtimeError "service_image_digest_mismatch")

/-- `_inspect_container`. -/
def inspectContainer (name : String) : PluginOp (Option Dict) := do
  let result ← docker ["inspect", name]
  Prog.ofExcept (shownContainer env result)

/-- `_remove_container`. -/
def removeContainer (name : String) : PluginOp Unit := do
  let result ← docker ["rm", "--force", name]
  Prog.guard (result.returncode = 0 ∨ "No such container".toList <:+: result.stderr.toList)
    (runtimeError "service_container_remove_failed")

/-- `_matching_container`. -/
def matchingContainer (container : Dict) (labels : List (String × String)) (imageRef : String) :
    PluginOp Bool := do
  let owned ← Prog.ofExcept (labelsMatch env container labels)
  if owned = false then .ret false
  else do
    let named ← Prog.ofExcept (namesImage env container imageRef)
    let actual := env.text ((Dict.get container "Image").orElse (.str ""))
    if named then .ret true
    else if actual = "" then .ret false
    else do
      let inspected ← docker ["image", "inspect", imageRef, "--format", "{{.Id}}"]
      .ret (inspected.returncode = 0 && strip inspected.stdout = actual)

/-- `_health`. -/
def health (container : String) (port : Int) (path : String) : PluginOp Bool :=
  .await (.health container port path) fun
    | .error error => .raise error
    | .ok status => .ret (status.any fun code => 200 ≤ code && code < 300)

/-- `condition and await self._health(..)`. -/
def healthWhen (condition : Bool) (container : String) (port : Int) (path : String) :
    PluginOp Bool :=
  if condition then health container port path else .ret false

/-- How many health checks fit before the deadline. -/
def countRounds : PluginOp Nat := .await .rounds .ret

/-- The health checks of `provision` until the deadline. -/
def awaitHealthy (container : String) (port : Int) (path : String) : Nat → PluginOp Bool
  | 0 => .ret false
  | rounds + 1 => do
      let healthy ← health container port path
      if healthy then .ret true else awaitHealthy container port path rounds

/-- The container that `provision` can keep: one with another image is removed. -/
def keepContainer (identity : ContainerIdentity) (imageRef name : String) :
    PluginOp (Option Dict) := do
  let existing ← inspectContainer env name
  match existing with
  | none => .ret none
  | some container => do
      let labels := identity.labels settings
      let keep ← matchingContainer env container labels imageRef
      if keep then .ret (some container)
      else do
        let owned ← Prog.ofExcept (labelsMatch env container labels)
        Prog.guard (owned = true) (runtimeError "service_container_identity_conflict")
        removeContainer name
        .ret none

/-- Start the container, which is created where there is none.  The result is whether it ran. -/
def startContainer (identity : ContainerIdentity) (imageRef name : String) :
    Option Dict → PluginOp Bool
  | none => do
      let created ← docker (createArgs settings name imageRef (identity.labels settings))
      Prog.guard (created.returncode = 0) (runtimeError "service_container_start_failed")
      let started ← docker ["start", name]
      if started.returncode ≠ 0 then do
        removeContainer name
        .raise (runtimeError "service_container_start_failed")
      else .ret false
  | some container => do
      let running ← Prog.ofExcept (isRunning container)
      if running then .ret true
      else do
        let started ← docker ["start", name]
        Prog.guard (started.returncode = 0) (runtimeError "service_container_start_failed")
        .ret false

/-- `provision`. -/
def provision (package command : Dict) : PluginOp Dict := do
  let values ← Prog.ofExcept (serviceValues env package)
  let identity ← Prog.ofExcept (commandContext env settings package command)
  imageReady env values.imageRef
  let name := identity.name env settings
  let existing ← keepContainer env settings identity values.imageRef name
  let idempotent ← startContainer settings identity values.imageRef name existing
  let rounds ← countRounds
  let healthy ← awaitHealthy name values.containerPort values.healthPath rounds
  if healthy then
    .ret [("activation_state", .str "ready"), ("runtime_plugin_id", .str "container-http-v1"),
      ("runtime_profile", .obj [("container_name", .str name),
        ("container_port", .int values.containerPort)]),
      ("evidence_refs", .arr [.str ("container:" ++ name),
        .str ("health:" ++ digestHead identity.packageDigest)]),
      ("details", .obj [("container_name", .str name)]), ("idempotent", .bool idempotent)]
  else
    .ret [("activation_state", .str "failed"), ("runtime_plugin_id", .str "container-http-v1"),
      ("runtime_profile", .obj [("container_name", .str name)]),
      ("details", .obj [("code", .str "service_health_check_failed")]),
      ("idempotent", .bool idempotent)]

/-- What `invoke` makes of the response. -/
def invocation (capabilityExport : Dict) :
    Except RequestFailure ServiceResponse → Except Exc Dict
  | .error .timeout => .error (runtimeError "capability_service_timeout")
  | .error .http => .error (runtimeError "capability_service_http_error")
  | .error (.raised error) => .error error
  | .ok response =>
      if ¬(200 ≤ response.status ∧ response.status < 300) then
        .error (runtimeError "capability_service_http_error")
      else if settings.responseMaxBytes < response.size then
        .error (runtimeError "capability_service_response_too_large")
      else match response.value with
        | none => .error (runtimeError "capability_service_invalid_json")
        | some value => .ok [("value", value),
            ("replay_safety", .str (env.text
              ((Dict.get capabilityExport "replay_safety").orElse (.str "")))),
            ("runtime_plugin_id", .str "container-http-v1")]

/-- `min(self.request_timeout, deadline)`. -/
def capacityTimeout (deadlineSeconds : Option ℚ) : ℚ :=
  match deadlineSeconds with
  | some deadline => min settings.requestTimeout deadline
  | none => settings.requestTimeout

/-- `str((capability_export.get("runtime_binding") or {}).get("path") or "")`. -/
def bindingPath (capabilityExport : Dict) : Except Exc String :=
  match (Dict.get capabilityExport "runtime_binding").orElse (.obj []) with
  | .obj binding => .ok (env.text ((Dict.get binding "path").orElse (.str "")))
  | _ => .error (.attributeError "object has no attribute 'get'")

/-- Wait for a place among the concurrent invocations of a package. -/
def acquire (packageDigest : String) : PluginOp Bool := .await (.acquire packageDigest) .ret

/-- `invoke`. -/
def invoke (package capabilityExport : Dict) (payload : Json) (activation : Dict)
    (attemptId : String) (deadlineSeconds : Option ℚ) : PluginOp Dict := do
  let values ← Prog.ofExcept (serviceValues env package)
  let identity ← Prog.ofExcept (activationContext env settings package activation)
  Prog.guard (values.exports.any (fun item => item.pyEq (.obj capabilityExport)) = true)
    (runtimeError "service_endpoint_binding_mismatch")
  let path ← Prog.ofExcept (bindingPath env capabilityExport)
  let name ← Prog.ofExcept (profileName env activation (identity.name env settings))
  let existing ← inspectContainer env name
  match existing with
  | none => .raise (runtimeError "service_container_identity_conflict")
  | some container => do
      let keep ← matchingContainer env container (identity.labels settings) values.imageRef
      Prog.guard (keep = true) (runtimeError "service_container_identity_conflict")
      let running ← Prog.ofExcept (isRunning container)
      Prog.guard (running = true) (runtimeError "service_activation_not_ready")
      Prog.guard (0 < capacityTimeout settings deadlineSeconds)
        (runtimeError "capability_service_busy")
      let acquired ← acquire identity.packageDigest
      Prog.guard (acquired = true) (runtimeError "capability_service_busy")
      .await (.post name values.containerPort path payload attemptId) fun response =>
        Prog.ofExcept (invocation env settings capabilityExport response)

/-- The report of `inspect`. -/
def inspectReport (present running identityMatch healthy : Bool) : Dict :=
  [("exists", .bool present), ("running", .bool running),
    ("identity_match", .bool identityMatch), ("healthy", .bool healthy)]

/-- `inspect`. -/
def inspect (activation : Dict) : PluginOp Dict := do
  let package ← Prog.ofExcept (activationPackage activation)
  let values ← Prog.ofExcept (serviceValues env package)
  let identity ← Prog.ofExcept (activationContext env settings package activation)
  let name ← Prog.ofExcept (profileName env activation (identity.name env settings))
  let existing ← inspectContainer env name
  match existing with
  | none => .ret (inspectReport false false false false)
  | some container => do
      let keep ← matchingContainer env container (identity.labels settings) values.imageRef
      let running ← Prog.ofExcept (isRunning container)
      let healthy ← healthWhen (keep && running) name values.containerPort values.healthPath
      .ret (inspectReport true running keep healthy)

/-- The report that a container is stopped. -/
def stoppedReport (idempotent : Bool) : Dict :=
  [("activation_state", .str "stopped"), ("runtime_plugin_id", .str "container-http-v1"),
    ("idempotent", .bool idempotent)]

/-- Remove the container of an identity, in `deprovision` and `reconcile`.  The result is whether
there was none. -/
def stopContainer (identity : ContainerIdentity) (name : String) : PluginOp Bool := do
  let existing ← inspectContainer env name
  match existing with
  | none => .ret true
  | some container => do
      let owned ← Prog.ofExcept (labelsMatch env container (identity.labels settings))
      Prog.guard (owned = true) (runtimeError "service_container_identity_conflict")
      removeContainer name
      .ret false

/-- `deprovision`. -/
def deprovision (command : Dict) : PluginOp Dict := do
  let identity ← Prog.ofExcept (deprovisionContext env settings command)
  let idempotent ← stopContainer env settings identity (identity.name env settings)
  .ret (stoppedReport idempotent)

/-- The part of `reconcile` on an activation that is to be stopped. -/
def reconcileStopped (activation : Dict) (identity : ContainerIdentity) : PluginOp Dict := do
  let name ← Prog.ofExcept (profileName env activation (identity.name env settings))
  let _ ← stopContainer env settings identity name
  .ret [("activation_key", Dict.get activation "activation_key"),
    ("activation_state", .str "stopped"), ("runtime_plugin_id", .str "container-http-v1")]

/-- The command by which `reconcile` provisions an activation. -/
def reconcileCommand (activation : Dict) (packageRef : String) (identity : ContainerIdentity) :
    Dict :=
  [("command_id", .str ("reconcile-" ++ env.text
      ((Dict.get activation "activation_key").orElse (.str identity.packageDigest)))),
    ("package_version_ref", .str packageRef), ("package_digest", .str identity.packageDigest),
    ("target_slave", .str settings.slaveId), ("workspace_id", .str identity.workspaceId),
    ("idempotency_key", .str ("reconcile-" ++ identity.packageDigest))]

/-- The body of the loop of `reconcile`. -/
def reconcileActivation (activation : Dict) : PluginOp Dict := do
  let package ← Prog.ofExcept (activationPackage activation)
  let (packageRef, _) ← Prog.ofExcept (executionIdentity env package)
  let identity ← Prog.ofExcept (activationContext env settings package activation)
  let desiredState := env.text ((Dict.get activation "desired_state").orElse (.str "running"))
  if desiredState = "stopped" then reconcileStopped env settings activation identity
  else do
    let inspected ← inspect env settings activation
    if (Dict.get inspected "identity_match").truthy && (Dict.get inspected "healthy").truthy then
      .ret [("activation_key", Dict.get activation "activation_key"), ("inspect", .obj inspected),
        ("activation_state", .str "ready"), ("runtime_plugin_id", .str "container-http-v1")]
    else do
      Prog.guard (¬((Dict.get inspected "exists").truthy = true ∧
          (Dict.get inspected "identity_match").truthy = false))
        (runtimeError "service_container_identity_conflict")
      let provisioned ← provision env settings package
        (reconcileCommand env settings activation packageRef identity)
      .ret (provisioned ++ [("activation_key", Dict.get activation "activation_key")])

/-- The report of an activation that `reconcile` failed on. -/
def failedReport (activation : Dict) (error : Exc) : Dict :=
  [("activation_key", Dict.get activation "activation_key"),
    ("activation_state", .str "failed"), ("runtime_plugin_id", .str "container-http-v1"),
    ("details", .obj [("code", .str
      (if error.text = "" then "runtime_plugin_error" else error.text))])]

/-- One round of the loop of `reconcile`, with its `try` statement. -/
def reconcileEntry (activation : Dict) : PluginOp Dict :=
  (reconcileActivation env settings activation).attempt.bind fun
    | .ok report => .ret report
    | .error error => .ret (failedReport activation error)

def reconcileAll : List Dict → PluginOp (List Dict)
  | [] => .ret []
  | activation :: activations => do
      let report ← reconcileEntry env settings activation
      let reports ← reconcileAll activations
      .ret (report :: reports)

/-- `reconcile`. -/
def reconcile (activations : List Dict) : PluginOp Dict := do
  let reports ← reconcileAll env settings activations
  .ret [("activations", .arr (reports.map .obj))]

end PluginOp

end Loom
