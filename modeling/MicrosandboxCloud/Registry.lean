import MicrosandboxCloud.World

/-!
# Microsandbox — `RuntimeRegistryService`

Lookups, writes and port leases. The functions keep the source's names.

* **`leasePorts`** — takes the first free ports of the configured range, one insertion each; when
  too few are free it gives back *every* lease of the runtime and throws.
* **`deleteRuntime`** — the row, its leases and its signed preview tokens.
* **`runtimeStatusSummary`** — the answer of most calls.
-/

namespace Microsandbox

open Process Text

namespace Registry

/-! ## Runtimes

Lookups, writes and the summary of `RuntimeRegistryService`. A write is one await on the repository;
a summary is a pure function of the row. -/

/-- The value is normalised for the comparison with ids and names alike; a value without a normal
form throws. -/
def findRuntimeBySandboxIdOrName (value : String) : Async (Option RuntimeEntity) := do
  let normalized ← sync (normalizeSandboxId value)
  await (.findRuntime (.bySandboxIdOrName normalized))

/-- The same for ids only. -/
def findRuntimeBySandboxId (sandboxId : String) : Async (Option RuntimeEntity) := do
  let normalized ← sync (normalizeSandboxId sandboxId)
  await (.findRuntime (.bySandboxId normalized))

/-- `saveRuntime` of a draft: the row is inserted with a fresh id. -/
def saveRuntime (draft : RuntimeEntity) : Async RuntimeEntity := do
  let saved ← await (.insertRuntime draft)
  sync saved

/-- `updateRuntime`, given the patched entity: the whole entity is saved. -/
def updateRuntime (patched : RuntimeEntity) : Async RuntimeEntity := do
  let saved ← await (.saveRuntime patched)
  sync saved
  return patched

/-- The row goes first, then its leases and its tokens, each with a statement of its own: a crash in
between leaves the rest. -/
def deleteRuntime (runtime : RuntimeEntity) : Async Unit := do
  await (.deleteRuntime runtime.id)
  await (.deletePortLeases runtime.id)
  await (.deleteSignedTokens (.bySandbox runtime.sandboxId))

/-- The caller's row is saved with the status and its reason changed, and all its other columns as
the caller has them. To be running is an activity. -/
def setRuntimeStatus (runtime : RuntimeEntity) (status : RuntimeStatus) (statusReason : String) :
    Async RuntimeEntity :=
  if status = .running then do
    let now : Int ← await .now
    updateRuntime { runtime with
      status := status, statusReason := some statusReason, lastActiveAt := some now }
  else updateRuntime { runtime with status := status, statusReason := some statusReason }

/-- The answer of most calls. -/
structure RuntimeSummary where
  runtimeId : RuntimeId
  sandboxId : String
  name : Option String
  sandboxName : String
  runtimeHostId : String
  hostPort : Int
  primaryPort : Int
  primaryPortProtocol : Protocol
  portBindings : List RuntimePortBindingRecord
  isPublic : Bool
  status : RuntimeStatus
  image : String
  command : List String
  env : List (String × Json)
  workingDir : Option String
  mounts : List RuntimeVolumeMountRecord
  volumeMountPath : Option String
  cpu : Int
  memoryMiB : Int
  diskGiB : Int
  autoStopMinutes : Option Int
  ephemeral : Bool
  hasSecrets : Bool
  lastActiveAt : Option Int
  statusReason : Option String

/-- The answer about a runtime says whether it has secrets and nothing of their values. The preview
token is not in it. -/
def runtimeStatusSummary (runtime : RuntimeEntity) : RuntimeSummary where
  runtimeId := runtime.id
  sandboxId := runtime.sandboxId
  name := runtime.name
  sandboxName := runtime.sandboxName
  runtimeHostId := runtime.runtimeHostId
  hostPort := runtime.hostPort
  primaryPort := runtime.primaryPort
  primaryPortProtocol := runtime.primaryPortProtocol
  portBindings := runtime.portBindings
  isPublic := runtime.isPublic
  status := runtime.status
  image := runtime.image
  command := runtime.command.getD []
  env := runtime.environment.getD []
  workingDir := runtime.workingDir
  mounts := runtime.mounts.getD []
  volumeMountPath := (runtime.mounts.getD []).head?.map (·.mountPath)
  cpu := runtime.cpu
  memoryMiB := runtime.memoryMiB
  diskGiB := runtime.diskGiB
  autoStopMinutes := runtime.autoStopMinutes
  ephemeral := runtime.ephemeral
  hasSecrets := !(runtime.secrets.getD []).isEmpty
  lastActiveAt := runtime.lastActiveAt
  statusReason := runtime.statusReason

/-! ## Port leases

A lease is a row of `port_leases`, unique by host and port. `leasePorts` tries the ports of the
range in ascending order, and skips those that are leased or that another call takes in between. -/

/-- The loop of `leasePorts` from `port` on, with the ports taken so far. The fuel counts the
ports left in the range. -/
def leaseLoop (runtimeId : RuntimeId) (count : Nat) : Nat → Int → List Int → Async (List Int)
  | 0, _, ports => return ports
  | left + 1, port, ports =>
    if ports.length < count then do
      match ← await (.findPortLease localHostId port) with
      | some _ => leaseLoop runtimeId count left (port + 1) ports
      | none =>
        match ← await (.insertPortLease ⟨localHostId, port, runtimeId⟩) with
        | .ok _ => leaseLoop runtimeId count left (port + 1) (ports ++ [port])
        | .error _ => leaseLoop runtimeId count left (port + 1) ports
    else return ports

/-- How many ports the configured range has. -/
def rangeSize (cfg : AppConfig) : Nat := (cfg.portRangeEnd + 1 - cfg.portRangeStart).toNat

/-- The exception of a leasing that found too few ports. -/
def noFreePorts : ServiceError := ⟨.error, "No free runtime ports available"⟩

/-- The rollback deletes every lease of the runtime, also those it had before the call. -/
def leasePorts (cfg : AppConfig) (runtimeId : RuntimeId) (count : Nat) : Async (List Int) := do
  let ports ← leaseLoop runtimeId count (rangeSize cfg) cfg.portRangeStart []
  if ports.length ≠ count then do
    await (.deletePortLeases runtimeId)
    throw noFreePorts
  else return ports

/-- One statement for all leases of the runtime. -/
def releasePorts (runtimeId : RuntimeId) : Async Unit := await (.deletePortLeases runtimeId)

/-! ## Volumes

The lookup that provisioning needs; the calls that create and delete volumes are in `Volumes.lean`.
-/

/-- The value as it is given is compared with ids, and its normal form with names. -/
def findVolumeByIdOrName (value : String) : Async (Option VolumeEntity) := do
  match ← sync (normalizeName (some value)) with
  | none => return none
  | some normalized => await (.findVolume value normalized)

/-! ## Signed preview tokens

A record is found by its token and port. The record of an older link for the same sandbox and port
is deleted before the new one is inserted, in two statements. -/

/-- The token is drawn and the clock is read between the deletion and the insertion. -/
def createSignedPreviewToken (sandboxId : String) (port ttlSeconds : Int) :
    Async SignedPreviewTokenEntity := do
  await (.deleteSignedTokens (.bySandboxPort sandboxId port))
  let token : String ← await .randomBytes
  let now : Int ← await .now
  let record : SignedPreviewTokenEntity := ⟨token, sandboxId, port, now + ttlSeconds * 1000⟩
  let saved ← await (.insertSignedToken record)
  sync saved
  return record

/-- The query is by token and port; the record's sandbox id is not part of it. -/
def getSignedPreviewToken (token : String) (port : Int) :
    Async (Option SignedPreviewTokenEntity) :=
  await (.findSignedToken token port)

/-- The record goes, whoever it belongs to: the caller has compared its sandbox. -/
def expireSignedPreviewToken (token : String) (port : Int) : Async Unit :=
  await (.deleteSignedTokens (.byTokenPort token port))

/-- A record expires in the millisecond that it names. -/
def hasSignedPreviewTokenExpired (record : SignedPreviewTokenEntity) : Async Bool := do
  let now : Int ← await .now
  return decide (record.expiresAt ≤ now)

/-! ## Comparing stored values

What `requiresRecreate` compares as texts: the stored column against the one that would be stored.
-/

/-- A column that was never written counts as an empty list. -/
def mountRecordsEqual (current : Option (List RuntimeVolumeMountRecord))
    (next : List RuntimeVolumeMountRecord) : Bool :=
  (Json.arr ((current.getD []).map (·.toJson))).stringify
    == (Json.arr (next.map (·.toJson))).stringify

/-- The texts hold the host ports. The caller has put those of the stored row into `next`, so that
they make no difference. -/
def portBindingsEqual (current next : List RuntimePortBindingRecord) : Bool :=
  (Json.arr (current.map (·.toJson))).stringify == (Json.arr (next.map (·.toJson))).stringify

end Registry

end Microsandbox
