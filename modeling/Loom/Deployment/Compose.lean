import Loom.Contracts.Packages
import Loom.Deployment.Config
import Loom.JsonText
import Loom.Replacement

/-!
# Compose projects

`loom_v2/deployment/compose.py`: the Compose document and the environment file of a machine, and the
preview of both in which secrets are redacted.  Documents are JSON objects; `json.dumps` writes them
with sorted keys and indents.
-/

namespace Loom

namespace Deployment

open JsonText (Floats stringText intText)
open Replacement (replace replaceAll)
open SortedBy

/-! ### Indented JSON -/

/-- A line feed, and the indent of a level. -/
def line (level : Nat) : List Char := '\n' :: List.replicate (2 * level) ' '

section Texts

variable (floats : Floats)

mutual

/-- `json.dumps(value, indent=2)` of a value at a level. -/
def indented (level : Nat) : Json → List Char
  | .null => ['n', 'u', 'l', 'l']
  | .bool true => ['t', 'r', 'u', 'e']
  | .bool false => ['f', 'a', 'l', 's', 'e']
  | .int number => intText number
  | .float number => (floats.repr number).chars
  | .str text => stringText text
  | .arr [] => ['[', ']']
  | .arr (item :: items) =>
      '[' :: line (level + 1) ++ indented (level + 1) item ++ indentedItems level items
  | .obj [] => ['{', '}']
  | .obj ((key, item) :: entries) =>
      '{' :: line (level + 1) ++ stringText key ++ [':', ' '] ++ indented (level + 1) item ++
        indentedEntries level entries

/-- The items after the first, and the closing bracket. -/
def indentedItems (level : Nat) : List Json → List Char
  | [] => line level ++ [']']
  | item :: items =>
      ',' :: line (level + 1) ++ indented (level + 1) item ++ indentedItems level items

/-- The members after the first, and the closing brace. -/
def indentedEntries (level : Nat) : List (String × Json) → List Char
  | [] => line level ++ ['}']
  | (key, item) :: entries =>
      ',' :: line (level + 1) ++ stringText key ++ [':', ' '] ++ indented (level + 1) item ++
        indentedEntries level entries

end

/-- `json.dumps(document, indent=2, sort_keys=True)`. -/
def dumpsSorted (document : Json) : List Char := indented floats 0 document.canonical

end Texts

/-! ### Services -/

/-- `_project_name`. -/
def projectName (cluster machine : String) : String := composeComponent (cluster ++ "-" ++ machine)

/-- `_base_service`, where `args` is the `args` of the build. -/
def baseService (config : DeploymentConfig) (machine : MachineConfig) (dockerfile : String)
    (args : Dict := []) : Dict :=
  [("build", .obj ([("context", .str "./source"), ("dockerfile", .str dockerfile),
      ("network", .str config.buildNetwork)] ++ args)),
    ("image", .str (projectName config.name machine.name ++ "-" ++ machine.role.text)),
    ("restart", .str "unless-stopped")]

/-- `_postgres_service`. -/
def postgresService (volumeName database : String) : Dict :=
  [("image", .str "postgres:16-alpine"),
    ("restart", .str "unless-stopped"),
    ("environment", .obj [("POSTGRES_DB", .str database),
      ("POSTGRES_PASSWORD", .str "${POSTGRES_PASSWORD}"), ("POSTGRES_USER", .str "loom")]),
    ("healthcheck", .obj [
      ("test", .arr [.str "CMD-SHELL", .str ("pg_isready -U loom -d " ++ database)]),
      ("interval", .str "2s"), ("timeout", .str "3s"), ("retries", .int 30)]),
    ("volumes", .arr [.str (volumeName ++ ":/var/lib/postgresql/data")])]

/-- `database_url.replace(quote_password(password), "${POSTGRES_PASSWORD_URLENCODED}")`. -/
def databaseTemplate (config : DeploymentConfig) (databaseUrl : List Char) : String :=
  String.ofList (replace (quote config.postgresPassword.chars)
    "${POSTGRES_PASSWORD_URLENCODED}".toList databaseUrl)

/-- `machine.service_id or machine.role`. -/
def serviceName (machine : MachineConfig) : String :=
  (machine.serviceId.map ServiceId.text).getD machine.role.text

/-- `_role_environment`. -/
def roleEnvironment (config : DeploymentConfig) (machine : MachineConfig)
    (databaseUrl : List Char) : Dict :=
  [("LOOM_DATABASE_URL", .str (databaseTemplate config databaseUrl)),
    ("LOOM_PACKAGE_CONTRACT_DIR", .str "/opt/loom/package-contracts"),
    ("LOOM_S3_ACCESS_KEY", .str "${MINIO_ACCESS_KEY}"),
    ("LOOM_S3_BUCKET", .str "${LOOM_S3_BUCKET}"),
    ("LOOM_S3_ENDPOINT_URL", .str "${LOOM_S3_ENDPOINT_URL}"),
    ("LOOM_S3_REGION", .str "us-east-1"),
    ("LOOM_S3_SECRET_KEY", .str "${MINIO_SECRET_KEY}"),
    ("LOOM_SERVICE_NAME", .str (serviceName machine)),
    ("LOOM_WORKSPACE_ID", .str config.workspaceId)]

/-! ### Environment files -/

/-- `_dotenv_quote`. -/
def dotenvQuote (value : List Char) : List Char :=
  '\'' :: replace ['\''] ['\\', '\''] value ++ ['\'']

/-- A line of an environment file. -/
def envLine (entry : String × List Char) : List Char :=
  entry.1.toList ++ '=' :: dotenvQuote entry.2 ++ ['\n']

/-- `_env_text`. -/
def envText (values : List (String × List Char)) : List Char :=
  (sortBy Prod.fst values).flatMap envLine

/-- `_common_env`. -/
def commonEnv (config : DeploymentConfig) (urls : EndpointMap) (databaseUrl : List Char) :
    List (String × List Char) :=
  [("LOOM_DATABASE_URL", databaseUrl),
    ("POSTGRES_PASSWORD", config.postgresPassword.chars),
    ("POSTGRES_PASSWORD_URLENCODED", quote config.postgresPassword.chars),
    ("MINIO_ACCESS_KEY", config.minioAccessKey.toList),
    ("MINIO_SECRET_KEY", config.minioSecretKey.chars),
    ("LOOM_S3_BUCKET", "loom-content".toList),
    ("LOOM_S3_ENDPOINT_URL", urls.minio.toList)]

/-! ### Roles -/

/-- What `_render_observer` and its like return. -/
abbrev Rendered : Type := Dict × List (String × List Char)

/-- The command of a service that gets the internal secret from a file. -/
def withSecret (command : String) : Json :=
  .arr [.str "/bin/sh", .str "-c",
    .str ("export LOOM_INTERNAL_API_SECRET=\"$$(cat /run/secrets/internal_api_secret)\" && exec " ++
      command)]

/-- `depends_on` of the services that use the database. -/
def afterPostgres : Json := .obj [("postgres", .obj [("condition", .str "service_healthy")])]

/-- The file of a secret in a document. -/
def secretFile (name : String) : String × Json :=
  (name, .obj [("file", .str ("./secrets/" ++ name))])

/-- `port:inner`. -/
def mapped (port inner : Nat) : Json := .str (toString port ++ ":" ++ toString inner)

/-- `_render_observer`. -/
def renderObserver (config : DeploymentConfig) (machine : MachineConfig) :
    Except String Rendered := do
  let databaseUrl ← config.databaseUrl machine
  let urls ← config.urls
  let volume := machine.name ++ "-postgres-data"
  let app := baseService config machine "Dockerfile" ++
    [("command", withSecret "uvicorn loom_v2.observer.app:app --host 0.0.0.0 --port 8080"),
      ("environment", .obj (roleEnvironment config machine databaseUrl)),
      ("ports", .arr [mapped machine.servicePort 8080]),
      ("secrets", .arr [.str "internal_api_secret"]),
      ("depends_on", afterPostgres),
      ("volumes", .arr [.str "./source/package_contracts:/opt/loom/package-contracts:ro"])]
  return (
    [("services", .obj [("observer", .obj app),
        ("postgres", .obj (postgresService volume "loom_observer"))]),
      ("secrets", .obj [secretFile "internal_api_secret"]),
      ("volumes", .obj [(volume, .obj [])])],
    commonEnv config urls databaseUrl)

/-- `_render_slave`. -/
def renderSlave (config : DeploymentConfig) (machine : MachineConfig) :
    Except String Rendered := do
  let databaseUrl ← config.databaseUrl machine
  let database ← DeploymentConfig.databaseName machine
  let urls ← config.urls
  let volume := machine.name ++ "-postgres-data"
  let sockets := machine.name ++ "-runtime-plugin-sockets"
  let app := baseService config machine "Dockerfile" ++
    [("command", withSecret
        "uvicorn loom_v2.slave.app:create_app --factory --host 0.0.0.0 --port 8080"),
      ("environment", .obj (roleEnvironment config machine databaseUrl ++
        [("LOOM_OBSERVER_URL", .str urls.observer),
          ("LOOM_SLAVE_ENDPOINT_URL", .str machine.endpointUrl),
          ("LOOM_RUNTIME_PLUGIN_DIR", .str "/opt/loom/runtime-plugins"),
          ("LOOM_RUNTIME_PLUGIN_SOCKET_DIR", .str "/run/loom/runtime-plugins"),
          ("LOOM_RUNTIME_PLUGIN_NETWORK", .str "loom-internal"),
          ("LOOM_RUNTIME_PLUGIN_MEMORY", .str "512m"),
          ("LOOM_RUNTIME_PLUGIN_CPUS", .str "1.0"),
          ("LOOM_RUNTIME_PLUGIN_PIDS_LIMIT", .str "128"),
          ("LOOM_RUNTIME_PLUGIN_TMPFS_SIZE", .str "64m")])),
      ("ports", .arr [mapped machine.servicePort 8080]),
      ("secrets", .arr [.str "internal_api_secret"]),
      ("depends_on", afterPostgres),
      ("volumes", .arr [.str "./source/runtime_plugins:/opt/loom/runtime-plugins:ro",
        .str "./source/package_contracts:/opt/loom/package-contracts:ro",
        .str (sockets ++ ":/run/loom/runtime-plugins"),
        .str "/var/run/docker.sock:/var/run/docker.sock"]),
      ("networks", .arr [.str "default", .str "loom-internal"])]
  return (
    [("services", .obj [("slave", .obj app),
        ("postgres", .obj (postgresService volume database))]),
      ("secrets", .obj [secretFile "internal_api_secret"]),
      ("volumes", .obj [(volume, .obj []), (sockets, .obj [])]),
      ("networks", .obj [("loom-internal",
        .obj [("name", .str "loom-internal"), ("internal", .bool true)])])],
    commonEnv config urls databaseUrl ++ [("LOOM_OBSERVER_URL", urls.observer.toList)])

/-- The URL of a Slave in the environment of the Driver, where there is one. -/
def slaveUrl (urls : EndpointMap) (service key : String) : Dict :=
  match urls.slaves.lookup service with
  | some url => [(key, .str url)]
  | none => []

/-- `_render_driver`. -/
def renderDriver (config : DeploymentConfig) (machine : MachineConfig) :
    Except String Rendered := do
  let urls ← config.urls
  let driver := config.driver
  let environment : Dict :=
    [("LOOM_AGENT_ID", .str "driver-default"),
      ("LOOM_CODEX_API_KEY_ENV", .str driver.codexApiKeyEnv),
      ("LOOM_CODEX_BASE_URL", .str driver.codexBaseUrl),
      ("LOOM_CODEX_MODEL", .str driver.codexModel),
      ("LOOM_CODEX_MODEL_REASONING_EFFORT", .str "xhigh"),
      ("LOOM_CODEX_PROVIDER", .str driver.codexProvider),
      ("LOOM_CODEX_SANDBOX_MODE", .str "danger-full-access"),
      ("LOOM_CODEX_WIRE_API", .str driver.codexWireApi),
      ("LOOM_DRIVER_URL", .str machine.endpointUrl),
      ("LOOM_OBSERVER_URL", .str urls.observer),
      ("LOOM_PACKAGE_CONTRACT_DIR", .str "/opt/loom/package-contracts"),
      ("LOOM_S3_ACCESS_KEY", .str "${MINIO_ACCESS_KEY}"),
      ("LOOM_S3_BUCKET", .str "${LOOM_S3_BUCKET}"),
      ("LOOM_S3_ENDPOINT_URL", .str "${LOOM_S3_ENDPOINT_URL}"),
      ("LOOM_S3_REGION", .str "us-east-1"),
      ("LOOM_S3_SECRET_KEY", .str "${MINIO_SECRET_KEY}"),
      ("LOOM_SERVICE_NAME", .str "driver"),
      ("LOOM_WORKSPACE_ID", .str config.workspaceId),
      ("LOOM_WORKSPACE_ROOT", .str "/workspace")] ++
    slaveUrl urls "slave-a" "LOOM_SLAVE_A_URL" ++ slaveUrl urls "slave-b" "LOOM_SLAVE_B_URL" ++
    (if driver.modelCatalogFile.isSome then
      [("LOOM_CODEX_MODEL_CATALOG_JSON", .str "/var/lib/loom/codex/model_catalog.json")] else [])
  let app := baseService config machine "Dockerfile.driver"
      [("args", .obj [("CODEX_VERSION", .str driver.codexVersion)])] ++
    [("environment", .obj environment),
      ("ports", .arr [mapped machine.servicePort 8090]),
      ("secrets", .arr (.str "internal_api_secret" ::
        if config.codexApiKey.isSome then [.str "codex_api_key"] else [])),
      ("volumes", .arr (
        [.str (driver.workspacePath ++ ":/workspace"),
          .str "driver-codex-state:/var/lib/loom/codex"] ++
        (if driver.modelCatalogFile.isSome then
          [.str "./model_catalog.json:/var/lib/loom/codex/model_catalog.json:ro"] else []) ++
        [.str "./source/package_contracts:/opt/loom/package-contracts:ro",
          .str "/var/run/docker.sock:/var/run/docker.sock"]))]
  return (
    [("services", .obj [("driver", .obj app)]),
      ("secrets", .obj (secretFile "internal_api_secret" ::
        if config.codexApiKey.isSome then [secretFile "codex_api_key"] else [])),
      ("volumes", .obj [("driver-codex-state", .obj [])])],
    [("MINIO_ACCESS_KEY", config.minioAccessKey.toList),
      ("MINIO_SECRET_KEY", config.minioSecretKey.chars),
      ("LOOM_S3_BUCKET", "loom-content".toList),
      ("LOOM_S3_ENDPOINT_URL", urls.minio.toList)])

/-- `_render_minio`. -/
def renderMinio (config : DeploymentConfig) (machine : MachineConfig) :
    Except String Rendered := do
  match machine.consolePort with
  | none => throw "AssertionError"
  | some consolePort =>
      let volume := machine.name ++ "-minio-data"
      let minio : Dict :=
        [("image", .str "quay.io/minio/minio:latest"),
          ("restart", .str "unless-stopped"),
          ("command", .arr [.str "server", .str "/data", .str "--console-address", .str ":9001"]),
          ("environment", .obj [("MINIO_ROOT_PASSWORD", .str "${MINIO_SECRET_KEY}"),
            ("MINIO_ROOT_USER", .str "${MINIO_ACCESS_KEY}")]),
          ("ports", .arr [mapped machine.servicePort 9000, mapped consolePort 9001]),
          ("volumes", .arr [.str (volume ++ ":/data")]),
          ("healthcheck", .obj [
            ("test", .arr [.str "CMD-SHELL",
              .str "curl -f http://localhost:9000/minio/health/live || exit 1"]),
            ("interval", .str "2s"), ("timeout", .str "3s"), ("retries", .int 30)])]
      let init : Dict :=
        [("image", .str "quay.io/minio/mc:latest"),
          ("depends_on", .obj [("minio", .obj [("condition", .str "service_healthy")])]),
          ("environment", .obj [("MINIO_ACCESS_KEY", .str "${MINIO_ACCESS_KEY}"),
            ("MINIO_SECRET_KEY", .str "${MINIO_SECRET_KEY}"),
            ("LOOM_S3_BUCKET", .str "${LOOM_S3_BUCKET}")]),
          ("entrypoint", .arr [.str "/bin/sh", .str "-c"]),
          ("command", .arr [.str ("mc alias set loom http://minio:9000 \"$${MINIO_ACCESS_KEY}\" " ++
            "\"$${MINIO_SECRET_KEY}\" && mc mb --ignore-existing \"loom/$${LOOM_S3_BUCKET}\"")]),
          ("restart", .str "no")]
      return (
        [("services", .obj [("minio", .obj minio), ("minio-init", .obj init)]),
          ("volumes", .obj [(volume, .obj [])])],
        [("MINIO_ACCESS_KEY", config.minioAccessKey.toList),
          ("MINIO_SECRET_KEY", config.minioSecretKey.chars),
          ("LOOM_S3_BUCKET", "loom-content".toList)])

/-! ### Projects -/

structure RenderedProject where
  machine : String
  role : Role
  projectName : String
  composeText : List Char
  envText : List Char
  secretFiles : List (String × Secret)
  modelCatalogFile : Option String
  redactionValues : List (List Char) := []

/-- `"<redacted>"`. -/
def redacted : List Char := "<redacted>".toList

/-- `RenderedProject.redacted_preview`. -/
def RenderedProject.redactedPreview (project : RenderedProject) : List Char :=
  replaceAll (project.secretFiles.map (fun file => file.2.chars) ++ project.redactionValues)
    redacted
    (project.composeText ++ '\n' :: project.envText)

/-- The document and the environment of a machine. -/
def render (config : DeploymentConfig) (machine : MachineConfig) : Except String Rendered :=
  match machine.role with
  | .observer => renderObserver config machine
  | .slave => renderSlave config machine
  | .driver => renderDriver config machine
  | .minio => renderMinio config machine

/-- The secrets of a configuration under the names of their files. -/
def secretFiles (config : DeploymentConfig) : List (String × Secret) :=
  [("internal_api_secret", config.internalApiSecret),
    ("postgres_password", config.postgresPassword),
    ("minio_secret_key", config.minioSecretKey)] ++
  config.codexApiKey.toList.map fun secret => ("codex_api_key", secret)

/-- `render_project`. -/
def renderProject (floats : Floats) (config : DeploymentConfig) (machineName : String) :
    Except String RenderedProject := do
  let machine ← config.machine machineName
  let (document, env) ← render config machine
  return {
    machine := machine.name
    role := machine.role
    projectName := projectName config.name machine.name
    composeText := dumpsSorted floats (.obj document) ++ ['\n']
    envText := envText env
    secretFiles := secretFiles config
    modelCatalogFile := if machine.role = .driver then config.driver.modelCatalogFile else none
    redactionValues := [quote config.postgresPassword.chars] }

end Deployment

end Loom
