import MicrosandboxCloud.Registry

/-!
# Microsandbox — from a request to the spec of a runtime

The part of `RuntimeControlService` that decides what is to run.

* **`ProvisionInput`** — a request with its sandbox id; what `create`, `ensure` and `update`
  hand to `provision`.
* **`buildSpec`** — the spec a request asks for. Its only awaits look up the mounted volumes; the
  rest is `specOf`.
* **`requiresRecreate`** — does the stored row differ from a spec?
* **`buildUpdateInput`** — an update as a full request, with the row's values for what it omits.
* **`assignHostPorts`** — host ports by position: the row's own ports first, then leased ones.
-/

namespace Microsandbox

open Process Text

namespace RuntimeControl

/-- What `provision` takes: an `EnsureRuntimeDto` whose `sandboxId` is given. -/
structure ProvisionInput extends SandboxSpecDto where
  sandboxId : String
  forceRecreate : Option Bool
  refreshActivity : Option Bool

/-- What is to run: the request with its defaults filled in, its texts trimmed and its mounts
resolved. The row stores most of it; registry credentials, files and the backend's mounts are used
once and not stored. -/
structure RuntimeSpec where
  image : String
  registryAuth : Option RuntimeRegistryAuthDto
  command : Option (List String)
  env : List (String × Json)
  files : List RuntimeFileDto
  secrets : List RuntimeSecretRecord
  workingDir : Option String
  ports : List RuntimePortBindingRecord
  mounts : List RuntimeVolumeMountRecord
  mountInputs : List MountInput
  cpu : Int
  memoryMiB : Int
  diskGiB : Int
  isPublic : Bool
  autoStopMinutes : Option Int
  ephemeral : Bool
  ssh : Bool

/-! ## Building the spec

A field that is absent gets the default of the settings, and one that is blank counts as absent
where the source trims it. -/

/-- The source copies each file. -/
def buildRuntimeFiles (files : List RuntimeFileDto) : List RuntimeFileDto :=
  files.map fun file => { path := file.path, content := file.content }

/-- Lists that are absent become empty. What else is absent stays so, and does not show in the JSON
column. -/
def buildRuntimeSecrets (secrets : List RuntimeSecretDto) : List RuntimeSecretRecord :=
  secrets.map fun secret =>
    { env := secret.env
      value := secret.value
      placeholder := secret.placeholder
      allowedHosts := secret.allowedHosts.getD []
      allowedHostPatterns := secret.allowedHostPatterns.getD []
      allowAnyHostDangerous := secret.allowAnyHostDangerous
      requireTlsIdentity := secret.requireTlsIdentity
      injectHeaders := secret.injectHeaders
      injectBasicAuth := secret.injectBasicAuth
      injectQuery := secret.injectQuery
      injectBody := secret.injectBody }

/-- The entry that stands in for an absent or empty list of ports. -/
def defaultPort (cfg : AppConfig) (primaryPort : Option RuntimePortDto) : RuntimePortDto where
  name := primaryPort.bind (·.name)
  containerPort := (primaryPort.map (·.containerPort)).getD cfg.defaultExposedPort
  protocol := some ((primaryPort.bind (·.protocol)).getD .tcp)

/-- The ports of a request. A primary port is looked at only when there are no others. -/
def resolvePorts (cfg : AppConfig) (ports : Option (List RuntimePortDto))
    (primaryPort : Option RuntimePortDto) : List RuntimePortBindingRecord :=
  let entries := if (ports.getD []).isEmpty then [defaultPort cfg primaryPort] else ports.getD []
  entries.map fun entry =>
    { name := trimmed entry.name
      containerPort := entry.containerPort
      hostPort := 0
      protocol := entry.protocol.getD .tcp }

/-- `input.ssh?.enabled !== false`. -/
def sshEnabled (input : SandboxSpecDto) : Bool := (input.ssh.bind (·.enabled)) != some false

/-- The binding `buildSpec` adds for SSH. -/
def sshPort : RuntimePortBindingRecord where
  name := some "ssh"
  containerPort := 22
  hostPort := 0
  protocol := .tcp
  nameLast := true

/-- The ports of the spec, not yet on any host port. -/
def specPorts (cfg : AppConfig) (input : SandboxSpecDto) : List RuntimePortBindingRecord :=
  let ports := resolvePorts cfg input.ports input.primaryPort
  let ports :=
    if sshEnabled input && !ports.any (fun p => p.containerPort == 22) then ports ++ [sshPort]
    else ports
  ports.map fun port => { port with hostPort := 0 }

/-- Credentials count only when server, user name and password are all there. The password is not
trimmed. -/
def normalizeRegistryAuth (input : Option RuntimeRegistryAuthDto) :
    Option RuntimeRegistryAuthDto :=
  match input with
  | none => none
  | some auth =>
    match trimmed (some auth.server), trimmed (some auth.username) with
    | some server, some username =>
      if auth.password = "" then none else some ⟨server, username, auth.password⟩
    | _, _ => none

/-- The spec a request asks for, given what its volumes resolved to. -/
def specOf (cfg : AppConfig) (input : SandboxSpecDto) (mounts : List RuntimeVolumeMountRecord)
    (mountInputs : List MountInput) : RuntimeSpec where
  image := (trimmed input.image).getD cfg.defaultImage
  registryAuth := normalizeRegistryAuth input.registryAuth
  command := if (input.command.getD []).isEmpty then none else input.command
  env := input.env.getD []
  files := buildRuntimeFiles (input.files.getD [])
  secrets := buildRuntimeSecrets (input.secrets.getD [])
  workingDir := trimmed input.workingDir
  ports := specPorts cfg input
  mounts := mounts
  mountInputs := mountInputs
  cpu := (input.resources.bind (·.cpu)).getD cfg.defaultCpu
  memoryMiB := (input.resources.bind (·.memoryMiB)).getD cfg.defaultMemoryMiB
  diskGiB := (input.resources.bind (·.diskGiB)).getD cfg.defaultDiskGiB
  isPublic := input.isPublic == some true
  -- zero and less switch the automatic stop off
  autoStopMinutes := input.autoStopMinutes.filter (0 < ·)
  ephemeral := input.ephemeral == some true
  ssh := sshEnabled input

/-- The answer to a mount of a volume that is not stored. -/
def volumeNotFound (volumeIdOrName : String) : ServiceError :=
  ⟨.notFound, "Volume not found: " ++ volumeIdOrName⟩

/-- The volume of a mount. -/
def requireVolume (volumeIdOrName : String) : Async VolumeEntity := do
  match ← Registry.findVolumeByIdOrName volumeIdOrName with
  | none => throw (volumeNotFound volumeIdOrName)
  | some volume => return volume

/-- The answer to a mount of a part of a volume. -/
def subpathNotSupported : ServiceError :=
  ⟨.badRequest, "Volume subpath mounts are not supported with native Microsandbox named volumes. " ++
    "Mount the whole volume and manage subdirectories inside the guest path."⟩

/-- The record stored for a mount, and the input given to the backend. -/
def mountRecord (volume : VolumeEntity) (mount : RuntimeVolumeMountDto) :
    RuntimeVolumeMountRecord where
  volumeId := volume.id
  volumeName := volume.name
  mountPath := mount.mountPath
  readOnly := mount.readOnly == some true

/-- The backend knows a volume by its backend name. -/
def mountInput (volume : VolumeEntity) (mount : RuntimeVolumeMountDto) : MountInput where
  volumeName := volume.backendName
  mountPath := mount.mountPath
  readOnly := mount.readOnly == some true

/-- The mounts one after another, as the loop of the source. The first that fails ends it. -/
def resolveVolumes :
    List RuntimeVolumeMountDto → Async (List RuntimeVolumeMountRecord × List MountInput)
  | [] => return ([], [])
  | mount :: rest => do
    let volume ← requireVolume mount.volumeId
    if trimmed mount.subpath ≠ none then throw subpathNotSupported
    else
      let (mountRecords, mountInputs) ← resolveVolumes rest
      return (mountRecord volume mount :: mountRecords, mountInput volume mount :: mountInputs)

/-- The spec that a request asks for. -/
def buildSpec (cfg : AppConfig) (input : SandboxSpecDto) : Async RuntimeSpec := do
  let (mountRecords, mountInputs) ← resolveVolumes (input.volumes.getD [])
  return specOf cfg input mountRecords mountInputs

/-- The first port, which becomes the primary one. -/
def firstPortBinding (ports : List RuntimePortBindingRecord) :
    Except ServiceError RuntimePortBindingRecord :=
  match ports with
  | [] => .error ⟨.conflict, "At least one port binding is required"⟩
  | firstPort :: _ => .ok firstPort

/-! ## Comparing a row with a spec

Structured columns are compared as JSON texts, plain ones as values. The order of the keys of an
object is a part of its text, and so of the comparison. -/

/-- `JSON.stringify(a) !== JSON.stringify(b)`. -/
def textsDiffer (a b : Json) : Bool := a.stringify != b.stringify

/-- The spec's ports on the row's host ports, by position. -/
def onRowPorts (runtime : RuntimeEntity) (ports : List RuntimePortBindingRecord) :
    List RuntimePortBindingRecord :=
  ports.mapIdx fun index port =>
    { port with
      hostPort := ((runtime.portBindings[index]?).map (·.hostPort)).getD runtime.hostPort }

/-- Does the VM have to be made anew? Registry credentials, files and whether SSH is wanted are not
stored, so they are not compared. -/
def requiresRecreate (runtime : RuntimeEntity) (next : RuntimeSpec) (nextName : Option String) :
    Bool :=
  runtime.name != nextName
    || runtime.image != next.image
    || textsDiffer (jsonStrings (runtime.command.getD [])) (jsonStrings (next.command.getD []))
    || textsDiffer (.obj (runtime.environment.getD [])) (.obj next.env)
    || textsDiffer (.arr ((runtime.secrets.getD []).map (·.toJson)))
        (.arr (next.secrets.map (·.toJson)))
    || runtime.workingDir != next.workingDir
    -- the spec has no host ports, so it is compared on those of the row
    || !Registry.portBindingsEqual runtime.portBindings (onRowPorts runtime next.ports)
    || !Registry.mountRecordsEqual runtime.mounts next.mounts
    || runtime.isPublic != next.isPublic
    || runtime.cpu != next.cpu
    || runtime.memoryMiB != next.memoryMiB
    || runtime.diskGiB != next.diskGiB
    || runtime.autoStopMinutes != next.autoStopMinutes
    || runtime.ephemeral != next.ephemeral

/-! ## Updates as full requests

`update` calls `provision` like the others, with a request that it makes of the row and the patch.
-/

/-- A stored secret as a request would give it. -/
def secretDto (secret : RuntimeSecretRecord) : RuntimeSecretDto where
  env := secret.env
  value := secret.value
  placeholder := secret.placeholder
  allowedHosts := some secret.allowedHosts
  allowedHostPatterns := some secret.allowedHostPatterns
  allowAnyHostDangerous := secret.allowAnyHostDangerous
  requireTlsIdentity := secret.requireTlsIdentity
  injectHeaders := secret.injectHeaders
  injectBasicAuth := secret.injectBasicAuth
  injectQuery := secret.injectQuery
  injectBody := secret.injectBody

/-- A stored binding as a request would give it. -/
def portDto (binding : RuntimePortBindingRecord) : RuntimePortDto where
  name := binding.name
  containerPort := binding.containerPort
  protocol := some binding.protocol

/-- A stored mount as a request would give it. -/
def mountDto (mount : RuntimeVolumeMountRecord) : RuntimeVolumeMountDto where
  volumeId := mount.volumeId
  mountPath := mount.mountPath
  readOnly := some mount.readOnly

/-- An update as a full request. The source sets neither `primaryPort` nor `ssh`. -/
def buildUpdateInput (runtime : RuntimeEntity) (input : UpdateSandboxDto) : ProvisionInput where
  sandboxId := runtime.sandboxId
  name := input.name <|> runtime.name
  image := input.image <|> some runtime.image
  -- an empty list is given, so it wins over what is stored
  command := input.command <|> runtime.command
  env := input.env <|> runtime.environment <|> some []
  files := input.files <|> some []
  secrets := input.secrets <|> some ((runtime.secrets.getD []).map secretDto)
  workingDir := input.workingDir <|> runtime.workingDir
  ports := input.ports <|> some (runtime.portBindings.map portDto)
  resources := some
    { cpu := (input.resources.bind (·.cpu)) <|> some runtime.cpu
      memoryMiB := (input.resources.bind (·.memoryMiB)) <|> some runtime.memoryMiB
      diskGiB := (input.resources.bind (·.diskGiB)) <|> some runtime.diskGiB }
  volumes := input.volumes <|> some ((runtime.mounts.getD []).map mountDto)
  registryAuth := input.registryAuth
  isPublic := input.isPublic <|> some runtime.isPublic
  autoStopMinutes := input.autoStopMinutes <|> runtime.autoStopMinutes
  ephemeral := input.ephemeral <|> some runtime.ephemeral
  forceRecreate := input.forceRecreate
  refreshActivity := input.refreshActivity

/-! ## Host ports by position

A runtime keeps its host ports in the order of its bindings. Which port of the request gets which of
them depends on nothing but its place in the list. -/

/-- Put the ports on the leased host ports, in order. -/
def setHostPorts : List RuntimePortBindingRecord → List Int → List RuntimePortBindingRecord
  | port :: ports, hostPort :: leased =>
    { port with hostPort := hostPort } :: setHostPorts ports leased
  | ports, _ => ports

/-- Put the ports on the host ports of the existing bindings, by position, and the ports beyond
them on the leased host ports. -/
def assignHostPorts :
    List RuntimePortBindingRecord → List RuntimePortBindingRecord → List Int →
      List RuntimePortBindingRecord
  | binding :: existing, port :: ports, leased =>
    { port with hostPort := binding.hostPort } :: assignHostPorts existing ports leased
  | [], ports, leased => setHostPorts ports leased
  | _ :: _, [], _ => []

end RuntimeControl

end Microsandbox
