import MicrosandboxCloud.Spec

/-!
# Microsandbox — `RuntimeControlService`

Provisioning and the calls on a sandbox.

* **`provision`** — one definition for each stage of the source: the name check, the healthy
  existing runtime, the replacement, the new row, and `launch` (ports, VM, health, final save).
* **`create` / `ensure` / `update`** — the three ways in.
* **`get`, `start`, `stop`, `delete`, `exec`, …** — load the row, call the backend, save the row.
* **`validateProxyAccessBySandbox` / `…BySignedToken`** — what the proxy asks before it forwards.
-/

namespace Microsandbox

open Process Text

namespace RuntimeControl

open Registry (RuntimeSummary runtimeStatusSummary)

/-! ## Lookups

The lookups of `RuntimeControlService`, which throw when there is nothing to find, and the status of
a row, which is what the backend last said of its VM. -/

/-- The message names the value as it was given. -/
def requireRuntime (sandboxIdOrName : String) : Async RuntimeEntity := do
  match ← Registry.findRuntimeBySandboxIdOrName sandboxIdOrName with
  | none => throw ⟨.notFound, "Sandbox not found: " ++ sandboxIdOrName⟩
  | some runtime => return runtime

/-- What is not one of the three known statuses counts as an error. -/
def normalizeStatus (status : Option String) : RuntimeStatus :=
  if status = some "running" then .running
  else if status = some "stopped" then .stopped
  else if status = some "draining" then .draining
  else .error

/-- The row is saved only if the status has changed. -/
def syncStatus (runtime : RuntimeEntity) : Async RuntimeEntity := do
  let status : Option String ← await (.getStatus runtime.sandboxName)
  if normalizeStatus status ≠ runtime.status then
    Registry.updateRuntime { runtime with status := normalizeStatus status }
  else return runtime

/-- The status is read before it is compared. -/
def requireRunningRuntime (sandboxIdOrName : String) : Async RuntimeEntity := do
  let runtime ← syncStatus (← requireRuntime sandboxIdOrName)
  if runtime.status ≠ .running then
    throw ⟨.conflict, "Sandbox is not running: " ++ runtime.sandboxId⟩
  else return runtime

/-- The first binding of the container port; the protocol does not count. -/
def findBinding (runtime : RuntimeEntity) (port : Int) :
    Except ServiceError RuntimePortBindingRecord :=
  match runtime.portBindings.find? (fun entry => entry.containerPort == port) with
  | none => .error ⟨.notFound,
      "Port " ++ toString port ++ " is not exposed for sandbox " ++ runtime.sandboxId⟩
  | some binding => .ok binding

/-- A preview URL is handed out for a running sandbox that exposes the port. -/
def ensurePreviewable (sandboxIdOrName : String) (port : Int) : Async RuntimeEntity := do
  let runtime ← requireRunningRuntime sandboxIdOrName
  let _ ← sync (findBinding runtime port)
  return runtime

/-! ## Provisioning

The stages of `provision` in the order of the code. Each await is a request, and everything between
two awaits is one step, so that what runs beside it can come in at every await. -/

/-- The exception for a name that another sandbox has. -/
def nameExists (name : String) : ServiceError :=
  ⟨.conflict, "Sandbox name already exists: " ++ name⟩

/-- The name a request asks for must not belong to another sandbox. -/
def checkName (name : Option String) (sandboxId : String) : Async Unit :=
  match name with
  | none => return ()
  | some name => do
    match ← Registry.findRuntimeBySandboxIdOrName name with
    | none => return ()
    | some existing =>
      if existing.sandboxId ≠ sandboxId then
        throw (nameExists name)
      else return ()

/-- `refreshActivity === false ? runtime.lastActiveAt : new Date()`. -/
def nextActivity (input : ProvisionInput) (runtime : RuntimeEntity) : Async (Option Int) :=
  if input.refreshActivity = some false then return runtime.lastActiveAt
  else do
    let now : Int ← await .now
    return some now

/-- The host port that stands for the health of an existing runtime. -/
def primaryHostPort (runtime : RuntimeEntity) : Int :=
  match runtime.portBindings.find? (fun b => b.containerPort == runtime.primaryPort) with
  | some binding => binding.hostPort
  | none => runtime.hostPort

/-- A VM counts as healthy if it is running and something accepts on its primary port. -/
def existingHealthy (runtime : RuntimeEntity) : Async Bool := do
  let status : Option String ← await (.getStatus runtime.sandboxName)
  if status = some "running" then await (.isHealthy (primaryHostPort runtime))
  else return false

/-- What the healthy existing branch saves. -/
def syncedRow (name : Option String) (spec : RuntimeSpec) (runtime : RuntimeEntity)
    (lastActiveAt : Option Int) : RuntimeEntity :=
  { runtime with
    name := name
    status := .running
    statusReason := if spec.files.length > 0 then some "config_synced_existing"
      else runtime.statusReason
    lastActiveAt := lastActiveAt }

/-- The files of a healthy sandbox are written anew, if the spec has any. -/
def syncFiles (spec : RuntimeSpec) (runtime : RuntimeEntity) : Async Unit :=
  if spec.files.length > 0 then do
    let written ← await (.writeFiles runtime.sandboxName spec.files)
    sync written
  else return ()

/-- The existing runtime is healthy and as asked for: bring its files up to date. -/
def syncExisting (input : ProvisionInput) (name : Option String) (spec : RuntimeSpec)
    (runtime : RuntimeEntity) : Async RuntimeSummary := do
  syncFiles spec runtime
  let lastActiveAt ← nextActivity input runtime
  let updated ← Registry.updateRuntime (syncedRow name spec runtime lastActiveAt)
  return runtimeStatusSummary updated

/-- The host ports of the spec: leased anew for a row without bindings, otherwise those of the
row's bindings and leased ones for what goes beyond them. -/
def assignPorts (cfg : AppConfig) (runtime : RuntimeEntity)
    (ports : List RuntimePortBindingRecord) : Async (List RuntimePortBindingRecord) := do
  if runtime.portBindings.length = 0 then
    let leased ← Registry.leasePorts cfg runtime.id ports.length
    return setHostPorts ports leased
  else if ports.length > runtime.portBindings.length then
    let leased ← Registry.leasePorts cfg runtime.id (ports.length - runtime.portBindings.length)
    return assignHostPorts runtime.portBindings ports leased
  else return assignHostPorts runtime.portBindings ports []

/-- The input of `createDetachedRuntime` for a spec on its host ports. -/
def createInput (runtime : RuntimeEntity) (spec : RuntimeSpec)
    (ports : List RuntimePortBindingRecord) : CreateRuntimeInput where
  sandboxName := runtime.sandboxName
  image := spec.image
  registryAuth := spec.registryAuth
  command := spec.command
  workingDir := spec.workingDir
  ports := ports
  mounts := spec.mountInputs
  cpu := spec.cpu
  memoryMiB := spec.memoryMiB
  diskGiB := spec.diskGiB
  env := spec.env
  secrets := spec.secrets
  files := spec.files
  autoStopMinutes := spec.autoStopMinutes
  ssh := spec.ssh

/-- Create the VM; a transient setup error is left to the health check. -/
def createVm (input : CreateRuntimeInput) : Async Unit := do
  match ← await (.createDetachedRuntime input) with
  | .ok _ => return ()
  | .error e => if isTransientDetachedSetupError e then return () else throw e

/-- The binding whose port is health-checked as SSH, and the one SSH sessions go to. -/
def findSshBinding (ports : List RuntimePortBindingRecord) : Option RuntimePortBindingRecord :=
  ports.find? fun p => p.name == some "ssh" || p.containerPort == 22

/-- Without SSH, or without a binding for it, there is nothing to wait for. -/
def sshHealth (spec : RuntimeSpec) (ports : List RuntimePortBindingRecord) : Async Bool :=
  if spec.ssh then
    match findSshBinding ports with
    | some binding => await (.waitForHealthy binding.hostPort)
    | none => return true
  else return true

/-- What the end of a launch saves. -/
def provisionedRow (name : Option String) (spec : RuntimeSpec) (runtime : RuntimeEntity)
    (ports : List RuntimePortBindingRecord) (primary : RuntimePortBindingRecord)
    (appHealthy sshHealthy : Bool) (lastActiveAt : Option Int) : RuntimeEntity :=
  { runtime with
    name := name
    portBindings := ports
    primaryPort := primary.containerPort
    hostPort := primary.hostPort
    primaryPortProtocol := primary.protocol
    isPublic := spec.isPublic
    status := if appHealthy && sshHealthy then .running else .error
    statusReason := some (if appHealthy && sshHealthy then "provisioned"
      else if !appHealthy then "runtime_unhealthy" else "ssh_unhealthy")
    image := spec.image
    command := spec.command
    environment := some spec.env
    secrets := some spec.secrets
    workingDir := spec.workingDir
    mounts := some spec.mounts
    cpu := spec.cpu
    memoryMiB := spec.memoryMiB
    diskGiB := spec.diskGiB
    autoStopMinutes := spec.autoStopMinutes
    ephemeral := spec.ephemeral
    lastActiveAt := lastActiveAt }

/-- From a row to a running VM: ports, `createDetachedRuntime`, health, final save. -/
def launch (cfg : AppConfig) (input : ProvisionInput) (name : Option String) (spec : RuntimeSpec)
    (runtime : RuntimeEntity) : Async RuntimeSummary := do
  let ports ← assignPorts cfg runtime spec.ports
  createVm (createInput runtime spec ports)
  let primary ← sync (firstPortBinding ports)
  let appHealthy : Bool ← await (.waitForHealthy primary.hostPort)
  let sshHealthy ← sshHealth spec ports
  let lastActiveAt ← nextActivity input runtime
  let updated ← Registry.updateRuntime
    (provisionedRow name spec runtime ports primary appHealthy sshHealthy lastActiveAt)
  return runtimeStatusSummary updated

/-- What the replacement saves before the VM is replaced: the new spec, but not its ports. -/
def replacingRow (input : ProvisionInput) (name : Option String) (spec : RuntimeSpec)
    (runtime : RuntimeEntity) : RuntimeEntity :=
  { runtime with
    name := name
    status := .provisioning
    statusReason := some (if input.forceRecreate = some true then "replacing_forced"
      else "replacing_spec_changed")
    image := spec.image
    command := spec.command
    environment := some spec.env
    secrets := some spec.secrets
    workingDir := spec.workingDir
    mounts := some spec.mounts
    cpu := spec.cpu
    memoryMiB := spec.memoryMiB
    diskGiB := spec.diskGiB
    autoStopMinutes := spec.autoStopMinutes
    ephemeral := spec.ephemeral }

/-- A new row, before any port is leased. Its id is chosen by the insertion. -/
def newRow (sandboxId vmName authToken : String) (name : Option String) (spec : RuntimeSpec)
    (primary : RuntimePortBindingRecord) (now : Int) : RuntimeEntity where
  id := 0
  sandboxId := sandboxId
  name := name
  sandboxName := vmName
  runtimeHostId := localHostId
  portBindings := []
  primaryPort := primary.containerPort
  hostPort := 0
  primaryPortProtocol := primary.protocol
  isPublic := spec.isPublic
  authToken := authToken
  status := .provisioning
  image := spec.image
  command := spec.command
  environment := some spec.env
  secrets := some spec.secrets
  workingDir := spec.workingDir
  mounts := some spec.mounts
  cpu := spec.cpu
  memoryMiB := spec.memoryMiB
  diskGiB := spec.diskGiB
  autoStopMinutes := spec.autoStopMinutes
  ephemeral := spec.ephemeral
  lastActiveAt := some now
  statusReason := some "allocating_ports"

/-- Lease the ports of a new row, or take the row back. The launch that follows finds the row
without bindings, and `assignPorts` leases again. -/
def leaseForNewRow (cfg : AppConfig) (runtime : RuntimeEntity) (count : Nat) :
    Async (List Int) :=
  tryCatch (Registry.leasePorts cfg runtime.id count) fun e => do
    Registry.deleteRuntime runtime
    throw e

/-- The row comes first, in status `provisioning` and without bindings. Then its ports are leased,
for the first of two times. -/
def provisionNew (cfg : AppConfig) (input : ProvisionInput) (name : Option String)
    (spec : RuntimeSpec) (primary : RuntimePortBindingRecord) : Async RuntimeSummary := do
  let authToken : String ← await .randomBytes
  let vmName ← sync (sandboxName cfg input.sandboxId)
  let now : Int ← await .now
  let runtime ← Registry.saveRuntime
    (newRow input.sandboxId vmName authToken name spec primary now)
  let leased ← leaseForNewRow cfg runtime spec.ports.length
  launch cfg input name { spec with ports := setHostPorts spec.ports leased } runtime

/-- The row is saved with the new spec before its VM is replaced. -/
def provisionReplace (cfg : AppConfig) (input : ProvisionInput) (name : Option String)
    (spec : RuntimeSpec) (runtime : RuntimeEntity) : Async RuntimeSummary := do
  let replaced ← Registry.updateRuntime (replacingRow input name spec runtime)
  launch cfg input name spec replaced

/-- The row is kept: a healthy sandbox gets its files and is saved, any other is launched again. -/
def provisionExisting (cfg : AppConfig) (input : ProvisionInput) (name : Option String)
    (spec : RuntimeSpec) (runtime : RuntimeEntity) : Async RuntimeSummary := do
  if ← existingHealthy runtime then syncExisting input name spec runtime
  else launch cfg input name spec runtime

/-- The checks come before the first write. The spec decides whether a stored row is replaced or
kept. -/
def provision (cfg : AppConfig) (input : ProvisionInput) : Async RuntimeSummary := do
  let name ← sync (normalizeName input.name)
  checkName name input.sandboxId
  let runtime ← Registry.findRuntimeBySandboxId input.sandboxId
  let spec ← buildSpec cfg input.toSandboxSpecDto
  let primary ← sync (firstPortBinding spec.ports)
  match runtime with
  | none => provisionNew cfg input name spec primary
  | some runtime =>
    if input.forceRecreate = some true ∨ requiresRecreate runtime spec name = true then
      provisionReplace cfg input name spec runtime
    else provisionExisting cfg input name spec runtime

/-! ## Calls that provision

The three calls differ in how they choose the id, and in what they fill in for the absent fields of
the request. -/

/-- `createSandboxId`, drawing random bytes only when the seed is blank. -/
def chooseSandboxId (seed : Option String) : Async String :=
  if needsRandomId seed then do
    let hex : String ← await .randomBytes
    sync (createSandboxId seed hex)
  else sync (createSandboxId seed "")

/-- What `create` hands to `provision`. -/
def createRequest (input : SandboxSpecDto) (sandboxId : String) : ProvisionInput :=
  { toSandboxSpecDto := input
    sandboxId := sandboxId
    forceRecreate := some false
    refreshActivity := some true }

/-- What `ensure` hands to `provision`. -/
def ensureRequest (input : EnsureRuntimeDto) (sandboxId : String) : ProvisionInput :=
  { toSandboxSpecDto := input.toSandboxSpecDto
    sandboxId := sandboxId
    forceRecreate := input.forceRecreate
    refreshActivity := input.refreshActivity }

/-- A sandbox is created under a name nobody uses, as id or as name. -/
def checkFreeName (name : Option String) : Async Unit :=
  match name with
  | none => return ()
  | some name => do
    match ← Registry.findRuntimeBySandboxIdOrName name with
    | none => return ()
    | some _ => throw (nameExists name)

/-- The name has to be free, and the id is made of it. -/
def create (cfg : AppConfig) (input : SandboxSpecDto) : Async RuntimeSummary := do
  let name ← sync (normalizeName input.name)
  checkFreeName name
  let sandboxId ← chooseSandboxId name
  provision cfg (createRequest input sandboxId)

/-- An id, else a name, else random bytes; a stored sandbox of that id is brought in line with the
request. -/
def ensure (cfg : AppConfig) (input : EnsureRuntimeDto) : Async RuntimeSummary := do
  let sandboxId ← chooseSandboxId (input.sandboxId <|> input.name)
  provision cfg (ensureRequest input sandboxId)

/-- The stored spec under the patch. -/
def update (cfg : AppConfig) (sandboxId : String) (input : UpdateSandboxDto) :
    Async RuntimeSummary := do
  match ← Registry.findRuntimeBySandboxId sandboxId with
  | none => throw ⟨.notFound, "Sandbox not found: " ++ sandboxId⟩
  | some runtime => provision cfg (buildUpdateInput runtime input)

/-! ## Calls on a sandbox

Each of them looks the row up, asks the backend, and saves the row it has loaded, with a change or
two. -/

/-- The status is read from the backend, and saved if it has changed. -/
def get (sandboxIdOrName : String) : Async RuntimeSummary := do
  let runtime ← requireRuntime sandboxIdOrName
  return runtimeStatusSummary (← syncStatus runtime)

/-- The command of the row is launched again; SSH is not passed on. -/
def start (sandboxIdOrName : String) : Async RuntimeSummary := do
  let runtime ← requireRuntime sandboxIdOrName
  let started ← await (.start runtime.sandboxName runtime.command runtime.workingDir)
  sync started
  let runtime ← Registry.setRuntimeStatus runtime .running "manual:start"
  return runtimeStatusSummary runtime

/-- The VM is stopped and the row marked so. -/
def stop (sandboxIdOrName : String) : Async RuntimeSummary := do
  let runtime ← requireRuntime sandboxIdOrName
  let stopped ← await (.stop runtime.sandboxName)
  sync stopped
  let runtime ← Registry.setRuntimeStatus runtime .stopped "manual:stop"
  return runtimeStatusSummary runtime

/-- Returns the id of the deleted sandbox. -/
def delete (sandboxIdOrName : String) : Async String := do
  let runtime ← requireRuntime sandboxIdOrName
  let runtime ← Registry.setRuntimeStatus runtime .deleting "delete_requested"
  let removed ← await (.remove runtime.sandboxName)
  sync removed
  Registry.releasePorts runtime.id
  Registry.deleteRuntime runtime
  return runtime.sandboxId

/-- `updateRuntime(runtime, { lastActiveAt: new Date() })`. -/
def touch (runtime : RuntimeEntity) : Async RuntimeEntity := do
  let now : Int ← await .now
  Registry.updateRuntime { runtime with lastActiveAt := some now }

/-- The row that is saved in the end was loaded before the command ran. -/
def exec (sandboxIdOrName command : String) (args : List String) :
    Async (String × String × ExecResult) := do
  let runtime ← requireRunningRuntime sandboxIdOrName
  let result ← await (.exec runtime.sandboxName command args)
  let result ← sync result
  let _ ← touch runtime
  return (runtime.sandboxId, runtime.sandboxName, result)

/-- The same around an empty command. -/
def refreshActivity (sandboxIdOrName : String) : Async RuntimeSummary := do
  let runtime ← requireRunningRuntime sandboxIdOrName
  let refreshed ← await (.refreshActivity runtime.sandboxName)
  sync refreshed
  return runtimeStatusSummary (← touch runtime)

/-- The same around the writing of files. -/
def writeFiles (sandboxIdOrName : String) (files : List RuntimeFileDto) :
    Async RuntimeSummary := do
  let runtime ← requireRunningRuntime sandboxIdOrName
  let written ← await (.writeFiles runtime.sandboxName (buildRuntimeFiles files))
  sync written
  return runtimeStatusSummary (← touch runtime)

/-- The same around the reading of files. -/
def downloadFiles (sandboxIdOrName : String) (paths : List String) :
    Async (String × List RuntimeFileDto) := do
  let runtime ← requireRunningRuntime sandboxIdOrName
  let files ← await (.readFiles runtime.sandboxName paths)
  let files ← sync files
  let _ ← touch runtime
  return (runtime.sandboxId, files)

/-! ## Preview access

Preview URLs come in two kinds: with the token of the sandbox in a header, and with a token of their
own in the path. The proxy asks the functions at the end for the host port to forward to. -/

/-- The exception for a token that is not stored, has expired, or belongs to another sandbox. -/
def signedTokenNotFound : ServiceError := ⟨.notFound, "Signed preview token not found"⟩

/-- The signed token for a port of a running sandbox. -/
def getSignedPreviewUrl (cfg : AppConfig) (sandboxIdOrName : String) (port : Int) :
    Async SignedPreviewTokenEntity := do
  let runtime ← ensurePreviewable sandboxIdOrName port
  Registry.createSignedPreviewToken runtime.sandboxId port cfg.connectionTtlSeconds

/-- A record is compared with the sandbox that was asked for before it is deleted. -/
def expireSignedPreviewUrl (sandboxIdOrName : String) (port : Int) (token : String) :
    Async String := do
  let runtime ← requireRuntime sandboxIdOrName
  match ← Registry.getSignedPreviewToken token port with
  | none => throw signedTokenNotFound
  | some record =>
    if record.sandboxId ≠ runtime.sandboxId then throw signedTokenNotFound
    else do
      Registry.expireSignedPreviewToken token port
      return runtime.sandboxId

/-- Returns the sandbox id the token stands for. -/
def resolveSignedPreviewToken (token : String) (port : Int) : Async String := do
  match ← Registry.getSignedPreviewToken token port with
  | none => throw signedTokenNotFound
  | some record =>
    if ← Registry.hasSignedPreviewTokenExpired record then do
      Registry.expireSignedPreviewToken token port
      throw signedTokenNotFound
    else return record.sandboxId

/-- `tokensEqual`: the same bytes. -/
def tokensEqual (actual candidate : String) : Bool := actual == candidate

/-- The runtime a proxied request goes to, and the host port it is sent to. -/
def resolveProxyTarget (runtime : RuntimeEntity) (port : Int) :
    Except ServiceError (RuntimeEntity × Int) :=
  (findBinding runtime port).map fun binding => (runtime, binding.hostPort)

/-- The exception of the proxy for a private sandbox. -/
def invalidPreviewToken : ServiceError := ⟨.unauthorized, "Missing or invalid preview token"⟩

/-- A public sandbox needs no token, and an empty token is none. -/
def validateProxyAccessBySandbox (sandboxId : String) (port : Int) (token : Option String) :
    Async (RuntimeEntity × Int) := do
  let runtime ← requireRuntime sandboxId
  if !runtime.isPublic && !(token.any fun t => t != "" && tokensEqual runtime.authToken t) then
    throw invalidPreviewToken
  else sync (resolveProxyTarget runtime port)

/-- The sandbox id of the record is looked up as an id or a name, and the row that is found is not
compared with the record. -/
def validateProxyAccessBySignedToken (token : String) (port : Int) :
    Async (RuntimeEntity × Int) := do
  let sandboxId ← resolveSignedPreviewToken token port
  let runtime ← requireRuntime sandboxId
  sync (resolveProxyTarget runtime port)

end RuntimeControl

end Microsandbox
