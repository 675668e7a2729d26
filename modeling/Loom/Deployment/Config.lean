import Loom.Contracts.Types
import Loom.SortedBy
import Mathlib.Data.String.Basic

/-!
# Deployment configurations

`loom_v2/deployment/config.py` after the TOML file has been read: machines with what their
validators check, the topology, the look-up of machines, and the URLs that other machines use.
Errors are the texts of `DeploymentConfigError`.
-/

namespace Loom

namespace Deployment

open SortedBy

/-! ### Machines -/

inductive Role where
  | minio
  | observer
  | driver
  | slave
  deriving Repr, DecidableEq, Inhabited

def Role.text : Role → String
  | .minio => "minio"
  | .observer => "observer"
  | .driver => "driver"
  | .slave => "slave"

inductive ServiceId where
  | slaveA
  | slaveB
  deriving Repr, DecidableEq, Inhabited

def ServiceId.text : ServiceId → String
  | .slaveA => "slave-a"
  | .slaveB => "slave-b"

/-- A character of a name after the first. -/
def isNameChar (char : Char) : Bool :=
  char.isAlphanum || char = '_' || char = '.' || char = '-'

/-- `_NAME_RE.fullmatch`. -/
def isName (text : String) : Bool :=
  match text.toList with
  | [] => false
  | first :: rest => first.isAlphanum && rest.all isNameChar

/-- What `ssh_token` accepts. -/
def isSshToken (text : String) : Bool :=
  text ≠ "" && !text.toList.any fun char => isSpace char || char.toNat < 32 || char.toNat = 127

def isPort (port : Nat) : Bool := 1 ≤ port && port ≤ 65535

structure MachineConfig where
  name : String
  sshHost : String
  sshPort : Nat := 22
  sshUser : String
  role : Role
  servicePort : Nat
  consolePort : Option Nat := none
  serviceId : Option ServiceId := none
  sshKey : Option String := none
  /-- `valid_name`. -/
  validName : isName name = true
  /-- `ssh_token`. -/
  sshTokens : (isSshToken sshHost && isSshToken sshUser) = true
  /-- `Port`. -/
  ports : ([sshPort, servicePort] ++ consolePort.toList).all isPort = true
  /-- `role_fields`. -/
  roleFields : (role = .slave ↔ serviceId.isSome) ∧ (role ≠ .minio → consolePort = none)
  deriving DecidableEq

namespace MachineConfig

def advertisedHost (machine : MachineConfig) : String := machine.sshHost

end MachineConfig

/-- `_url_host`. -/
def urlHost (host : String) : String :=
  if host.toList.contains ':' && !(['['].isPrefixOf host.toList) then "[" ++ host ++ "]" else host

/-- `http://host:port`. -/
def httpUrl (host : String) (port : Nat) : String :=
  "http://" ++ urlHost host ++ ":" ++ toString port

def MachineConfig.endpointUrl (machine : MachineConfig) : String :=
  httpUrl machine.sshHost machine.servicePort

/-- The ports that a machine publishes. -/
def MachineConfig.published (machine : MachineConfig) : List Nat :=
  machine.servicePort :: machine.consolePort.toList

/-! ### Topology -/

/-- A character of a part of a project name. -/
def composeChar (char : Char) : Char :=
  let char := char.toLower
  if char = '_' || char = '.' then '-' else char

/-- `_compose_component`. -/
def composeComponent (value : String) : String := String.ofList (value.toList.map composeChar)

/-- The machines with a role. -/
def withRole (role : Role) (machines : List MachineConfig) : List MachineConfig :=
  machines.filter fun machine => machine.role = role

/-- The inner loop of `_validate_topology`: the ports of a machine, where `occupied` has the places
that are taken, each with the name of its machine. -/
def occupyPorts (machine : MachineConfig) :
    List Nat → List ((String × Nat) × String) → Except String (List ((String × Nat) × String))
  | [], occupied => .ok occupied
  | port :: ports, occupied =>
      match occupied.lookup (machine.sshHost, port) with
      | some previous =>
          .error ("published port " ++ toString port ++ " on " ++ machine.sshHost ++
            " is used by " ++ previous ++ " and " ++ machine.name)
      | none => occupyPorts machine ports (((machine.sshHost, port), machine.name) :: occupied)

/-- The loop of `_validate_topology` over the machines. -/
def occupy : List MachineConfig → List ((String × Nat) × String) → Except String Unit
  | [], _ => .ok ()
  | machine :: machines, occupied =>
      if ¬ machine.published.Nodup then
        .error (machine.name ++ " published ports must be distinct")
      else do
        let occupied ← occupyPorts machine machine.published occupied
        occupy machines occupied

/-- `_validate_topology`. -/
def validateTopology (machines : List MachineConfig) : Except String Unit := do
  let names := machines.map MachineConfig.name
  if ¬ names.Nodup then throw "machine names must be unique"
  if ¬ (names.map composeComponent).Nodup then throw "project names must be unique"
  if (withRole .minio machines).length ≠ 1 then throw "exactly one minio machine is required"
  if (withRole .driver machines).length ≠ 1 then throw "exactly one driver machine is required"
  if (withRole .observer machines).length ≠ 1 then
    throw "exactly one observer machine is required"
  let slaves := withRole .slave machines
  if ¬ (1 ≤ slaves.length ∧ slaves.length ≤ 2) then
    throw "one or two slave machines are required"
  if ¬ (slaves.map MachineConfig.serviceId).Nodup then
    throw "slave service_id values must be unique"
  occupy machines []

/-! ### Secrets -/

/-- What `_read_secret` accepts, without the blanks around it. -/
def isSecret (text : String) : Bool :=
  text ≠ "" && !text.toList.contains '\n' && !text.toList.contains '\r'

/-- One line that is not empty. -/
abbrev Secret : Type := { text : String // isSecret text = true }

/-- The characters of a secret. -/
def Secret.chars (secret : Secret) : List Char := secret.1.toList

/-- `_read_secret` of the content of a file. -/
def readSecret (content field : String) : Except String Secret :=
  let value := strip content
  if accepted : isSecret value then .ok ⟨value, accepted⟩
  else .error (field ++ " must contain one non-empty line")

/-- The characters that `urllib.parse.quote` keeps. -/
def isUnreserved (char : Char) : Bool :=
  char.isAlphanum || char = '_' || char = '.' || char = '-' || char = '~'

/-- A hexadecimal digit. -/
def upperHex (digit : Nat) : Char :=
  if digit < 10 then Char.ofNat (48 + digit) else Char.ofNat (55 + digit)

/-- A byte in a URL. -/
def quoteByte (byte : UInt8) : List Char :=
  let char := Char.ofNat byte.toNat
  if isUnreserved char then [char]
    else ['%', upperHex (byte.toNat / 16), upperHex (byte.toNat % 16)]

/-- `quote(text, safe="")`. -/
def quote (text : List Char) : List Char := (text.flatMap String.utf8EncodeChar).flatMap quoteByte

/-! ### Configurations -/

structure DriverConfig where
  codexBaseUrl : String := "http://host.docker.internal:8787"
  workspacePath : String := "/srv/loom/workspace"
  modelCatalogFile : Option String := none
  codexVersion : String := "0.151.0"
  codexModel : String := "deepseek-v4-flash"
  codexProvider : String := "proxy"
  codexWireApi : String := "responses"
  codexApiKeyEnv : String := "OPENAI_API_KEY"
  codexApiKeyFile : Option String := none
  deriving Repr, DecidableEq

structure EndpointMap where
  observer : String
  driver : String
  minio : String
  minioConsole : String
  slaves : List (String × String)
  deriving Repr, DecidableEq

structure DeploymentConfig where
  configPath : String
  name : String
  remoteDir : String
  workspaceId : String
  internalApiSecret : Secret
  postgresPassword : Secret
  minioAccessKey : String
  minioSecretKey : Secret
  codexApiKey : Option Secret
  machines : List MachineConfig
  driver : DriverConfig
  secretPaths : List String
  buildNetwork : String := "default"
  accepted : validateTopology machines = .ok ()

namespace DeploymentConfig

/-- `DeploymentConfig.machine`. -/
def machine (config : DeploymentConfig) (nameOrRole : String) : Except String MachineConfig :=
  match config.machines.filter fun item =>
      decide (item.name = nameOrRole ∨ item.role.text = nameOrRole) with
  | [found] => .ok found
  | _ => .error ("machine is not uniquely defined: " ++ nameOrRole)

/-- The text of a service id, or nothing. -/
def serviceText (machine : MachineConfig) : String := (machine.serviceId.map ServiceId.text).getD ""

/-- `DeploymentConfig.slaves`. -/
def slaves (config : DeploymentConfig) : List MachineConfig :=
  sortBy serviceText (withRole .slave config.machines)

/-- `DeploymentConfig.urls`. -/
def urls (config : DeploymentConfig) : Except String EndpointMap := do
  let observer ← config.machine "observer"
  let driver ← config.machine "driver"
  let minio ← config.machine "minio"
  return {
    observer := observer.endpointUrl
    driver := driver.endpointUrl
    minio := minio.endpointUrl
    minioConsole :=
      match minio.consolePort with
      | some port => httpUrl minio.advertisedHost port
      | none => minio.endpointUrl
    slaves := config.slaves.filterMap fun item =>
      item.serviceId.map fun service => (service.text, item.endpointUrl) }

/-- The name of the database of a machine. -/
def databaseName (machine : MachineConfig) : Except String String :=
  match machine.role, machine.serviceId with
  | .observer, _ => .ok "loom_observer"
  | .slave, some .slaveA => .ok "loom_slave_a"
  | .slave, some .slaveB => .ok "loom_slave_b"
  | .slave, none => .error "slave service_id is required for database URL"
  | role, _ => .error ("database is not defined for role: " ++ role.text)

/-- `DeploymentConfig.database_url`. -/
def databaseUrl (config : DeploymentConfig) (machine : MachineConfig) :
    Except String (List Char) := do
  let name ← databaseName machine
  return "postgresql+asyncpg://loom:".toList ++ quote config.postgresPassword.chars ++
    ("@postgres:5432/" ++ name).toList

end DeploymentConfig

end Deployment

end Loom
