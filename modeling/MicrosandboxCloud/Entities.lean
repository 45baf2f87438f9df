import MicrosandboxCloud.Text.Chars
import MicrosandboxCloud.Text.Json

/-!
# Microsandbox — configuration, errors, stored rows and request bodies

The data the services read and write, under the source's field names (`public` is `isPublic`).

A request field that every use reads through `??` or `?.` treats `null` and an absent property
alike and is an `Option`. The optional fields of a secret are passed through to the stored JSON,
where the two differ, so they are a `Field`. Numbers are integers, times are milliseconds, and
the generated `uuid` of a runtime is a fresh number.
-/

namespace Microsandbox

open Text

/-! ## Errors

An exception is told by its class and its message. `error` is the plain `Error`, also for those that
libraries throw. -/

/-- The exception classes the services throw. -/
inductive ErrorKind where
  | badRequest
  | unauthorized
  | notFound
  | conflict
  | error
  deriving DecidableEq

/-- A thrown exception. -/
structure ServiceError where
  kind : ErrorKind
  message : String
  deriving DecidableEq

/-! ## Strings the services clean up

Many fields are trimmed before they are used, and blank ones count as absent. The helpers here are
used for all of them. -/

/-- `value?.trim() || undefined`: the trimmed text, unless it is absent or blank. -/
def trimmed (value : Option String) : Option String :=
  match value with
  | none => none
  | some s => if trim s.toList = [] then none else some (String.ofList (trim s.toList))

/-- Trimming a text that was trimmed before changes nothing. -/
theorem trimmed_trimmed (value : Option String) : trimmed (trimmed value) = trimmed value := by
  cases value with
  | none => rfl
  | some s =>
    by_cases hs : trim s.toList = []
    · simp [trimmed, hs]
    · simp [trimmed, hs, trim_trim]

/-! ## Configuration

The settings that the modelled functions read, as they come out of `AppConfigService`. -/

/-- The settings the services read. `defaultImage` comes from
`MICROSANDBOX_CLOUD_DEFAULT_IMAGE?.trim() || 'nginx:stable-alpine'`, so trimming keeps it.
`proxyHostname` is `new URL(proxyBaseUrl).hostname`, or `none` when that throws. `sha256` is the
hex digest that names a session. -/
structure AppConfig where
  portRangeStart : Int
  portRangeEnd : Int
  defaultExposedPort : Int
  defaultCpu : Int
  defaultMemoryMiB : Int
  defaultDiskGiB : Int
  defaultImage : String
  defaultImage_trimmed : trimmed (some defaultImage) = some defaultImage
  sandboxNamePrefix : String
  connectionTtlSeconds : Int
  proxyHostname : Option String
  sha256 : String → String

/-- The id of the only host. -/
def localHostId : String := "local"

/-! ## Rows

The entities of the database, with the columns that the modelled functions read or write. A JSON
column that was never written is `none`. -/

/-- `'tcp' | 'udp'` -/
inductive Protocol where
  | tcp
  | udp
  deriving DecidableEq

/-- The statuses of a runtime, under their names. -/
inductive RuntimeStatus where
  | provisioning
  | running
  | stopped
  | draining
  | deleting
  | deleted
  | error
  deriving DecidableEq

/-- An optional property whose JSON text shows whether it is absent (`none`) or `null`
(`some none`). -/
abbrev Field (α : Type) := Option (Option α)

/-- A secret as it is stored in a row, value included. -/
structure RuntimeSecretRecord where
  env : String
  value : String
  placeholder : Field String := none
  allowedHosts : List String := []
  allowedHostPatterns : List String := []
  allowAnyHostDangerous : Field Bool := none
  requireTlsIdentity : Field Bool := none
  injectHeaders : Field Bool := none
  injectBasicAuth : Field Bool := none
  injectQuery : Field Bool := none
  injectBody : Field Bool := none

/-- A port binding. `nameLast` records the key order of the object: the SSH entry is written
with its name after the protocol, every other binding with its name first. -/
structure RuntimePortBindingRecord where
  name : Option String
  containerPort : Int
  hostPort : Int
  protocol : Protocol
  nameLast : Bool := false

/-- A mount as it is stored in a row: it refers to its volume by id. -/
structure RuntimeVolumeMountRecord where
  volumeId : String
  volumeName : String
  mountPath : String
  readOnly : Bool

/-- The generated id of a runtime. -/
abbrev RuntimeId := Nat

/-- A row of `runtimes`. The columns the database fills in (`createdAt`, `updatedAt`) are left
out. An environment lists its keys in enumeration order. -/
structure RuntimeEntity where
  id : RuntimeId
  sandboxId : String
  name : Option String
  sandboxName : String
  runtimeHostId : String
  portBindings : List RuntimePortBindingRecord
  primaryPort : Int
  hostPort : Int
  primaryPortProtocol : Protocol
  isPublic : Bool
  authToken : String
  status : RuntimeStatus
  image : String
  command : Option (List String)
  environment : Option (List (String × Json))
  secrets : Option (List RuntimeSecretRecord)
  workingDir : Option String
  mounts : Option (List RuntimeVolumeMountRecord)
  cpu : Int
  memoryMiB : Int
  diskGiB : Int
  autoStopMinutes : Option Int
  ephemeral : Bool
  lastActiveAt : Option Int
  statusReason : Option String

/-- A draft under the id the database gave it. -/
def RuntimeEntity.withId (draft : RuntimeEntity) (id : RuntimeId) : RuntimeEntity :=
  { draft with id := id }

/-- A draft gets its id when it is stored, and keeps everything else. -/
@[simp] theorem RuntimeEntity.withId_id (draft : RuntimeEntity) (id : RuntimeId) :
    (draft.withId id).id = id := rfl

@[simp] theorem RuntimeEntity.withId_sandboxId (draft : RuntimeEntity) (id : RuntimeId) :
    (draft.withId id).sandboxId = draft.sandboxId := rfl

@[simp] theorem RuntimeEntity.withId_name (draft : RuntimeEntity) (id : RuntimeId) :
    (draft.withId id).name = draft.name := rfl

@[simp] theorem RuntimeEntity.withId_sandboxName (draft : RuntimeEntity) (id : RuntimeId) :
    (draft.withId id).sandboxName = draft.sandboxName := rfl

@[simp] theorem RuntimeEntity.withId_portBindings (draft : RuntimeEntity) (id : RuntimeId) :
    (draft.withId id).portBindings = draft.portBindings := rfl

/-- A row of `port_leases`. -/
structure PortLeaseEntity where
  runtimeHostId : String
  port : Int
  runtimeId : RuntimeId
  deriving DecidableEq

/-- A row of `volumes`. -/
structure VolumeEntity where
  id : String
  name : String
  backendName : String
  quotaMiB : Option Int

/-- A row of `signed_preview_tokens`. -/
structure SignedPreviewTokenEntity where
  token : String
  sandboxId : String
  port : Int
  expiresAt : Int

/-! ## JSON texts of the stored columns

The columns are compared by `JSON.stringify`. The fields stand in the order in which the code writes
them, and an `undefined` field is not written at all. -/

/-- The property `key`, left out when its value is `undefined`. -/
def jsonProperty (key : String) (value : Option Json) : List (String × Json) :=
  match value with
  | none => []
  | some v => [(key, v)]

/-- The value of a `Field`: absent, `null`, or given. -/
def jsonField {α : Type} (f : α → Json) : Field α → Option Json
  | none => none
  | some none => some .null
  | some (some a) => some (f a)

/-- An array of strings. -/
def jsonStrings (xs : List String) : Json := .arr (xs.map .str)

/-- A protocol is a string. -/
def Protocol.toJson : Protocol → Json
  | .tcp => .str "tcp"
  | .udp => .str "udp"

/-- The name is left out when there is none, and stands last in the SSH entry. -/
def RuntimePortBindingRecord.toJson (b : RuntimePortBindingRecord) : Json :=
  let name := jsonProperty "name" (b.name.map .str)
  let rest := [("containerPort", .num b.containerPort), ("hostPort", .num b.hostPort),
    ("protocol", b.protocol.toJson)]
  .obj (if b.nameLast then rest ++ name else name ++ rest)

/-- With the flags that are there. -/
def RuntimeSecretRecord.toJson (s : RuntimeSecretRecord) : Json :=
  .obj ([("env", .str s.env), ("value", .str s.value)]
    ++ jsonProperty "placeholder" (jsonField .str s.placeholder)
    ++ [("allowedHosts", jsonStrings s.allowedHosts),
        ("allowedHostPatterns", jsonStrings s.allowedHostPatterns)]
    ++ jsonProperty "allowAnyHostDangerous" (jsonField .bool s.allowAnyHostDangerous)
    ++ jsonProperty "requireTlsIdentity" (jsonField .bool s.requireTlsIdentity)
    ++ jsonProperty "injectHeaders" (jsonField .bool s.injectHeaders)
    ++ jsonProperty "injectBasicAuth" (jsonField .bool s.injectBasicAuth)
    ++ jsonProperty "injectQuery" (jsonField .bool s.injectQuery)
    ++ jsonProperty "injectBody" (jsonField .bool s.injectBody))

/-- All four fields are always there. -/
def RuntimeVolumeMountRecord.toJson (m : RuntimeVolumeMountRecord) : Json :=
  .obj [("volumeId", .str m.volumeId), ("volumeName", .str m.volumeName),
    ("mountPath", .str m.mountPath), ("readOnly", .bool m.readOnly)]

/-! ## Request bodies

The bodies after `ValidationPipe`, whose whitelist drops all other fields. What a service relies on
in a field it checks itself or is said where it is used. -/

/-- A file to write, or one that was read. -/
structure RuntimeFileDto where
  path : String
  content : String

/-- A secret and how it may be used. -/
structure RuntimeSecretDto where
  env : String
  value : String
  placeholder : Field String := none
  allowedHosts : Option (List String) := none
  allowedHostPatterns : Option (List String) := none
  allowAnyHostDangerous : Field Bool := none
  requireTlsIdentity : Field Bool := none
  injectHeaders : Field Bool := none
  injectBasicAuth : Field Bool := none
  injectQuery : Field Bool := none
  injectBody : Field Bool := none

/-- A port to expose. -/
structure RuntimePortDto where
  name : Option String := none
  containerPort : Int
  protocol : Option Protocol := none

/-- The size of the VM. -/
structure RuntimeResourcesDto where
  cpu : Option Int := none
  memoryMiB : Option Int := none
  diskGiB : Option Int := none

/-- A volume, by id or name, and where it is mounted. -/
structure RuntimeVolumeMountDto where
  volumeId : String
  mountPath : String
  subpath : Option String := none
  readOnly : Option Bool := none

/-- A login at a registry. -/
structure RuntimeRegistryAuthDto where
  server : String
  username : String
  password : String

/-- Whether SSH is wanted; the whitelist drops all other fields. -/
structure SshConfigDto where
  enabled : Option Bool := none

/-- What a sandbox may be asked to be. -/
structure SandboxSpecDto where
  name : Option String := none
  image : Option String := none
  command : Option (List String) := none
  env : Option (List (String × Json)) := none
  files : Option (List RuntimeFileDto) := none
  secrets : Option (List RuntimeSecretDto) := none
  workingDir : Option String := none
  primaryPort : Option RuntimePortDto := none
  ports : Option (List RuntimePortDto) := none
  resources : Option RuntimeResourcesDto := none
  volumes : Option (List RuntimeVolumeMountDto) := none
  registryAuth : Option RuntimeRegistryAuthDto := none
  isPublic : Option Bool := none
  autoStopMinutes : Option Int := none
  ephemeral : Option Bool := none
  ssh : Option SshConfigDto := none

/-- A patch: the fields that are absent keep what is stored. -/
structure UpdateSandboxDto extends SandboxSpecDto where
  forceRecreate : Option Bool := none
  refreshActivity : Option Bool := none

/-- A specification with an id of its own, and whether the call counts as activity. -/
structure EnsureRuntimeDto extends SandboxSpecDto where
  sandboxId : Option String := none
  forceRecreate : Option Bool := none
  refreshActivity : Option Bool := none

/-! ## What the backend is asked to run

The input of `createDetachedRuntime` is all that a VM is known by: the model keeps it under the VM's
name. -/

/-- A mount as the backend takes it: it refers to the backend volume by name. -/
structure MountInput where
  volumeName : String
  mountPath : String
  readOnly : Bool

/-- The input of `createDetachedRuntime`. `ssh` is `ssh?.enabled`. -/
structure CreateRuntimeInput where
  sandboxName : String
  image : String
  registryAuth : Option RuntimeRegistryAuthDto
  command : Option (List String)
  workingDir : Option String
  ports : List RuntimePortBindingRecord
  mounts : List MountInput
  cpu : Int
  memoryMiB : Int
  diskGiB : Int
  env : List (String × Json)
  secrets : List RuntimeSecretRecord
  files : List RuntimeFileDto
  autoStopMinutes : Option Int
  ssh : Bool

end Microsandbox
