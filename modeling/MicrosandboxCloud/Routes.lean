import MicrosandboxCloud.Calls
import MicrosandboxCloud.PreviewUrls
import MicrosandboxCloud.Sessions
import MicrosandboxCloud.Process.Transcript

/-!
# Microsandbox — the HTTP API

`SandboxController`, `SshController` and the proxy route of `main.ts`, with the guard in front of
them.

* **`canActivate`** — `InternalAuthGuard`: the authorization header is the internal API token, or
  none is configured.
* **`Route`** — the handlers of the controllers, under their names. A route's parameters and body
  come parsed: the pipes run after the guard and before the handler.
* **`Route.guarded`** — which routes carry `@UseGuards(InternalAuthGuard)`.
* **`HttpRequest.prog`** — the guard, then the handler; its value is the body of the answer.
-/

namespace Microsandbox

open Process Data Text RuntimeControl Registry ProxyService

/-! ## The guard

`InternalAuthGuard` compares the whole header with one text. It is in front of most handlers, and
where no token is configured it lets everybody pass. -/

/-- The settings of the API: those of the services, the token in front of them, and the base of the
preview URLs. `internalApiToken` and `proxyBaseUrl` are trimmed and not empty. -/
structure ApiConfig extends AppConfig where
  internalApiToken : Option String
  proxyBaseUrl : String
  /-- `new URL(rawUrl, 'http://localhost')` -/
  parseUrl : UrlParser

/-- The answer to a request without the token. -/
def invalidApiToken : ServiceError := ⟨.unauthorized, "Invalid internal API token"⟩

/-- The first value of the header must be the token, with the scheme `Bearer` in front of it. -/
def canActivate (cfg : ApiConfig) (authorization : Option HeaderValue) :
    Except ServiceError Unit :=
  match cfg.internalApiToken with
  | none => .ok ()
  | some expected =>
    if firstValue authorization = some ("Bearer " ++ expected) then .ok ()
    else .error invalidApiToken

/-- The guard lets a header pass or answers 401. -/
theorem canActivate_cases (cfg : ApiConfig) (authorization : Option HeaderValue) :
    canActivate cfg authorization = .ok () ∨
      canActivate cfg authorization = .error invalidApiToken := by
  unfold canActivate
  split
  · exact Or.inl rfl
  · split_ifs
    · exact Or.inl rfl
    · exact Or.inr rfl

/-! ## The service calls behind the preview routes

What these routes answer beyond what the services return: an absolute URL, a date as text, and the
checks that the gateway in front of the previews asks for. -/

namespace RuntimeControl

/-- `proxyBaseUrl.replace(/\/+$/g, '')` -/
def withoutTrailingSlashes (url : String) : List Char :=
  (url.toList.reverse.dropWhile (· == '/')).reverse

/-- What `getPreviewUrl` and `getSignedPreviewUrl` return. -/
structure PreviewUrl where
  sandboxId : String
  port : Int
  url : List Char
  token : String
  expiresAt : Option Int

/-- The standing link of a sandbox, with its own token beside it. The runtime must be running and
have the port bound. -/
def getPreviewUrl (cfg : ApiConfig) (sandboxIdOrName : String) (port : Int) : Async PreviewUrl := do
  let runtime ← ensurePreviewable sandboxIdOrName port
  return {
    sandboxId := runtime.sandboxId
    port := port
    url := withoutTrailingSlashes cfg.proxyBaseUrl ++ previewPath runtime.sandboxId port
    token := runtime.authToken
    expiresAt := none }

/-- The answer built from the record of a signed token. -/
def signedPreviewUrl (cfg : ApiConfig) (record : SignedPreviewTokenEntity) :
    Except ServiceError PreviewUrl :=
  (SshSession.toISOString record.expiresAt).map fun expiresAt => {
    sandboxId := record.sandboxId
    port := record.port
    url := withoutTrailingSlashes cfg.proxyBaseUrl ++ signedPreviewPath record.token record.port
    token := record.token
    expiresAt := some expiresAt }

/-- Whether a sandbox may be previewed without a token. Anybody may ask. -/
def getPreviewPublicState (sandboxId : String) : Async (String × Bool) := do
  let runtime ← requireRuntime sandboxId
  return (runtime.sandboxId, runtime.isPublic)

/-- The token is compared with that of the sandbox. -/
def validatePreviewToken (sandboxId token : String) : Async String := do
  let runtime ← requireRuntime sandboxId
  if !tokensEqual runtime.authToken token then throw ⟨.unauthorized, "Invalid preview token"⟩
  else return runtime.sandboxId

end RuntimeControl

namespace SshController

/-- The answer for a token that is unknown, expired or revoked. -/
def invalidSession : ServiceError := ⟨.badRequest, "Invalid or expired SSH session token"⟩

/-- The endpoint of the SSH gateway: what `validateSession` finds, or an error. -/
def validateToken (cfg : AppConfig) (token : String) : Async SshValidateResult := do
  match ← SshSession.validateSession cfg token with
  | none => throw invalidSession
  | some result => return result

/-- `const { hostPort, ...rest } = session`. -/
structure SessionBody where
  token : String
  sandboxId : String
  expiresAt : Int
  sshCommand : String

/-- The host port is left out of what the client sees. -/
def sessionBody : SessionReply → Option SessionBody
  | .created session =>
    some ⟨session.token, session.sandboxId, session.expiresAt, session.sshCommand⟩
  | _ => none

end SshController

/-! ## Routes

The routes for single sandboxes, previews, SSH sessions and the proxy. The list of sandboxes, the
volumes, the images and the health check have routes too; they ask for other things than these and
are not among them. -/

/-- A handler of the controllers for single sandboxes, previews and SSH sessions, or the proxy, with
the parameters and the body of the request. -/
inductive Route where
  | create (body : SandboxSpecDto)
  | ensure (body : EnsureRuntimeDto)
  | update (sandboxId : String) (body : UpdateSandboxDto)
  | get (sandboxIdOrName : String)
  | start (sandboxIdOrName : String)
  | stop (sandboxIdOrName : String)
  | delete (sandboxIdOrName : String)
  | previewUrl (sandboxIdOrName : String) (port : Int)
  | signedPreviewUrl (sandboxIdOrName : String) (port : Int)
  | expireSignedPreviewUrl (sandboxIdOrName : String) (port : Int) (token : String)
  | exec (sandboxId command : String) (args : Option (List String))
  | refreshActivity (sandboxId : String)
  | writeFiles (sandboxId : String) (files : List RuntimeFileDto)
  | downloadFiles (sandboxId : String) (paths : List String)
  | createSession (body : SshController.CreateSessionBody)
  | revokeSession (token : String)
  | validateToken (token : String)
  | previewPublic (sandboxId : String)
  | previewValidate (sandboxId token : String)
  | previewResolve (signedPreviewToken : String) (port : Int)
  | proxyHttp (url : Option String) (headers : Headers)
  | proxyUpgrade (url : Option String) (headers : Headers)

/-- The routes under `@UseGuards(InternalAuthGuard)`: all but the preview lookups and the proxy. -/
def Route.guarded : Route → Bool
  | .previewPublic _ | .previewValidate _ _ | .previewResolve _ _ | .proxyHttp _ _
  | .proxyUpgrade _ _ => false
  | _ => true

/-- The body of an answer, or what becomes of a proxied request. -/
inductive HttpReply where
  | summary (runtime : RuntimeSummary)
  | deleted (sandboxId : String)
  | preview (url : PreviewUrl)
  | previewExpired (sandboxId : String) (port : Int) (token : String)
  | executed (sandboxId sandboxName : String) (result : ExecResult)
  | downloaded (sandboxId : String) (files : List RuntimeFileDto)
  | session (body : Option SshController.SessionBody)
  | sessionRevoked (token : String)
  | sessionValid (result : SshValidateResult)
  | previewPublic (sandboxId : String) (isPublic : Bool)
  | previewValid (sandboxId : String)
  | previewSandbox (sandboxId : String) (port : Int)
  | proxied (reply : ProxyReply)

/-- What a route calls, and the body it makes of the result. -/
def Route.handler (cfg : ApiConfig) : Route → Async HttpReply
  | .create body => return .summary (← RuntimeControl.create cfg.toAppConfig body)
  | .ensure body => return .summary (← RuntimeControl.ensure cfg.toAppConfig body)
  | .update sandboxId body =>
    return .summary (← RuntimeControl.update cfg.toAppConfig sandboxId body)
  | .get id => return .summary (← RuntimeControl.get id)
  | .start id => return .summary (← RuntimeControl.start id)
  | .stop id => return .summary (← RuntimeControl.stop id)
  | .delete id => return .deleted (← RuntimeControl.delete id)
  | .previewUrl id port => return .preview (← getPreviewUrl cfg id port)
  | .signedPreviewUrl id port => do
    let record ← getSignedPreviewUrl cfg.toAppConfig id port
    return .preview (← sync (RuntimeControl.signedPreviewUrl cfg record))
  | .expireSignedPreviewUrl id port token =>
    return .previewExpired (← RuntimeControl.expireSignedPreviewUrl id port token) port token
  | .exec id command args => do
    let (sandboxId, sandboxName, result) ← RuntimeControl.exec id command (args.getD [])
    return .executed sandboxId sandboxName result
  | .refreshActivity id => return .summary (← RuntimeControl.refreshActivity id)
  | .writeFiles id files => return .summary (← RuntimeControl.writeFiles id files)
  | .downloadFiles id paths => do
    let (sandboxId, files) ← RuntimeControl.downloadFiles id paths
    return .downloaded sandboxId files
  | .createSession body => do
    let reply ← SshController.createSession cfg.toAppConfig body
    return .session (SshController.sessionBody reply)
  | .revokeSession token =>
    return .sessionRevoked (← SshController.revokeSession cfg.toAppConfig token)
  | .validateToken token =>
    return .sessionValid (← SshController.validateToken cfg.toAppConfig token)
  | .previewPublic id => do
    let (sandboxId, isPublic) ← getPreviewPublicState id
    return .previewPublic sandboxId isPublic
  | .previewValidate id token => return .previewValid (← validatePreviewToken id token)
  | .previewResolve token port =>
    return .previewSandbox (← resolveSignedPreviewToken token port) port
  | .proxyHttp url headers => return .proxied (← handleHttp cfg.parseUrl url headers)
  | .proxyUpgrade url headers => return .proxied (← handleUpgrade cfg.parseUrl url headers)

/-! ## Requests

A request runs its guard first, which asks for nothing, and then its handler. -/

/-- A request to the API: its authorization header, and which of these routes it asks for. -/
structure HttpRequest where
  authorization : Option HeaderValue
  route : Route

namespace HttpRequest

/-- The guard of a route, if it has one. -/
def guard (cfg : ApiConfig) (req : HttpRequest) : Except ServiceError Unit :=
  if req.route.guarded then canActivate cfg req.authorization else .ok ()

/-- The guard, then the handler. A refused request ends here. -/
def prog (cfg : ApiConfig) (req : HttpRequest) : Async HttpReply := do
  sync (req.guard cfg)
  req.route.handler cfg

/-- The request carries the internal API token, or none is configured. -/
def Trusted (cfg : ApiConfig) (req : HttpRequest) : Prop :=
  canActivate cfg req.authorization = .ok ()

variable {cfg : ApiConfig} {req : HttpRequest}

/-- A guarded request without the token is refused before it asks for anything. -/
theorem prog_of_refused (hguarded : req.route.guarded = true) (hrequest : ¬ req.Trusted cfg) :
    req.prog cfg = .throw invalidApiToken := by
  have hrefused : req.guard cfg = .error invalidApiToken := by
    unfold guard
    rw [if_pos hguarded]
    exact (canActivate_cases cfg req.authorization).resolve_left hrequest
  unfold prog
  rw [hrefused]
  rfl

/-- A request with the token is its handler. -/
theorem prog_of_trusted (htrusted : req.Trusted cfg) : req.prog cfg = req.route.handler cfg := by
  have hguard : req.guard cfg = .ok () := by
    unfold guard
    rw [htrusted]
    exact ite_self _
  unfold prog
  rw [hguard]
  rfl

/-- A request without a guard is its handler. -/
theorem prog_of_open (hopen : req.route.guarded = false) :
    req.prog cfg = req.route.handler cfg := by
  unfold prog guard
  rw [hopen]
  rfl

end HttpRequest

/-- The requests of `ι`, all at their start in `s`. -/
def receiving {ι : Type} (cfg : ApiConfig) (reqs : ι → HttpRequest) (s : World) :
    Pool requests ServiceError HttpReply World ι :=
  ⟨fun i => (reqs i).prog cfg, s⟩

/-- The pools that requests to the API reach when they interleave at their awaits. -/
def Serving {ι : Type} [DecidableEq ι] (cfg : ApiConfig) (reqs : ι → HttpRequest) (s : World)
    (tr : History ι) (c : Pool requests ServiceError HttpReply World ι) : Prop :=
  Pool.Run backend anyStep (receiving cfg reqs s) tr c

end Microsandbox
