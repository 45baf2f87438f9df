import MicrosandboxCloud.Control

/-!
# Microsandbox — SSH sessions

`SshSessionService` and `SshController`. Sessions live in an in-memory map under the hash of
their token; a synchronous stretch of code over that map is one request of the model.

* **`createSegment`** — `createSession` of the service: prune, draw a token, enter the map, and
  only then build the answer, which can still throw.
* **`validateSession` / `revokeSession`** — the map and the table of revoked sessions.
-/

namespace Microsandbox

open Process Text

namespace SshSession

/-! ## The session map

`Map<string, SshSession>` under the hash of the token. The functions that work on it run between two
awaits, so that each is one step on the whole map: they are the synchronous segments that requests
carry. -/

/-- Every session whose time is over is dropped. -/
def pruneExpired (now : Int) (sessions : SessionMap) : SessionMap := fun key =>
  (sessions key).filter fun entry => entry.expiresAt ≥ now

/-- The latest instant a `Date` can hold. -/
def maxDate : Int := 8640000000000000

/-- `new Date(ms).toISOString()` throws outside the range of dates. The text is kept as the
instant it stands for. -/
def toISOString (ms : Int) : Except ServiceError Int :=
  if ms ≤ maxDate ∧ -maxDate ≤ ms then .ok ms else .error ⟨.error, "Invalid time value"⟩

/-- The exception of `new URL`. -/
def invalidUrl : ServiceError := ⟨.error, "Invalid URL"⟩

/-- Minutes are turned into milliseconds; without a number the default lifetime is taken. -/
def expiryMs (cfg : AppConfig) (expiryMinutes : Option Int) : Int :=
  match expiryMinutes with
  | some minutes => minutes * 60 * 1000
  | none => cfg.connectionTtlSeconds * 1000

/-- The answer of `createSession`: `new URL(…)` and `toISOString` can throw. -/
def sessionResult (cfg : AppConfig) (token sandboxId : String) (hostPort expiresAt : Int) :
    Except ServiceError SessionReply :=
  match cfg.proxyHostname with
  | none => .error invalidUrl
  | some host =>
    (toISOString expiresAt).map fun expiresAt => .created
      { token := token
        sandboxId := sandboxId
        hostPort := hostPort
        expiresAt := expiresAt
        sshCommand := "ssh -p 2222 " ++ token ++ "@" ++ host }

/-- `createSession`, one synchronous segment. -/
def createSegment (cfg : AppConfig) (sandboxId : String) (hostPort : Int)
    (expiryMinutes : Option Int) (draw : SessionDraw) (sessions : SessionMap) :
    Except ServiceError SessionReply × SessionMap :=
  let expiresAt := draw.later + expiryMs cfg expiryMinutes
  let sessions := Function.update (pruneExpired draw.now sessions) (cfg.sha256 draw.random)
    (some { sandboxId := sandboxId, hostPort := hostPort, expiresAt := expiresAt })
  (sessionResult cfg draw.random sandboxId hostPort expiresAt, sessions)

/-- The end of `validateSession`, after the revocation check: one synchronous segment. -/
def validateSegment (key : String) (draw : SessionDraw) (sessions : SessionMap) :
    Except ServiceError SessionReply × SessionMap :=
  match sessions key with
  | none => (.ok (.validated none), sessions)
  | some entry =>
    if draw.now > entry.expiresAt then
      (.ok (.validated none), Function.update sessions key none)
    else
      ((toISOString entry.expiresAt).map fun expiresAt => .validated (some
        { sandboxId := entry.sandboxId, hostPort := entry.hostPort, expiresAt := expiresAt }),
        sessions)

/-- The start of `revokeSession`, before the database write. -/
def revokeSegment (key : String) (_ : SessionDraw) (sessions : SessionMap) :
    Except ServiceError SessionReply × SessionMap :=
  (.ok .done, Function.update sessions key none)

/-! ## The service

The calls of `SshSessionService` and `SshController`. The map is entered by `createSession` only;
the database remembers the revoked tokens. -/

/-- One synchronous segment: the token is drawn, the session entered, and only then is the answer
put together, which may throw. -/
def createSession (cfg : AppConfig) (sandboxId : String) (hostPort : Int)
    (expiryMinutes : Option Int) : Async SessionReply := do
  let reply ← await (.sessions (createSegment cfg sandboxId hostPort expiryMinutes))
  sync reply

/-- The database is asked first whether the token was revoked, and then the map. -/
def validateSession (cfg : AppConfig) (token : String) : Async (Option SshValidateResult) := do
  let key := cfg.sha256 token
  let revoked : Bool ← await (.findRevokedSession key)
  if revoked then return none
  else do
    let reply ← await (.sessions (validateSegment key))
    match ← sync reply with
    | .validated result => return result
    | _ => return none

/-- The session is taken out of the map first. Then the database remembers its token; one that it
remembers already is reported as not revoked. -/
def revokeSession (cfg : AppConfig) (token : String) : Async Bool := do
  let key := cfg.sha256 token
  let _ ← await (.sessions (revokeSegment key))
  match ← await (.saveRevokedSession key) with
  | .ok _ => return true
  | .error _ => return false

end SshSession

namespace SshController

/-- The body of a request for a session. -/
structure CreateSessionBody where
  sandboxId : String
  expiryMinutes : Option Int := none

/-- The controller reads the runtime by its id and takes the host port of its SSH binding: what a
session leads to is fixed when it is made. -/
def createSession (cfg : AppConfig) (body : CreateSessionBody) : Async SessionReply := do
  match ← Registry.findRuntimeBySandboxId body.sandboxId with
  | none => throw ⟨.badRequest, "Sandbox not found: " ++ body.sandboxId⟩
  | some runtime =>
    match RuntimeControl.findSshBinding runtime.portBindings with
    | none => throw ⟨.badRequest, "SSH is not enabled for sandbox " ++ body.sandboxId⟩
    | some sshBinding =>
      SshSession.createSession cfg body.sandboxId sshBinding.hostPort body.expiryMinutes

/-- A second revocation of a token is refused. -/
def revokeSession (cfg : AppConfig) (token : String) : Async String := do
  if ← SshSession.revokeSession cfg token then return token
  else throw ⟨.badRequest, "Session token not found or already revoked"⟩

end SshController

end Microsandbox
