import MicrosandboxCloud.Gateway
import MicrosandboxCloud.Strangers

/-!
# Microsandbox — whom the SSH gateway lets in

Connections of the gateway and requests to the API interleave at their awaits, and the session map
changes in between.

* **`SessionRule`** — what a request to the API may do to the session map: take entries away, or, with
  the API token, enter one for the SSH port of a row that it has read.
* **`ConnectionRule`** — a connection dials only after the API has found its session.
* **`Party.follows`** — every party keeps to its rule.
* **`dialled_port_was_granted`** — the gateway dials only the SSH port of a runtime for which a
  session was asked, while that session was stored, not revoked and not expired.
* **`connection_dials_iff`** — and it does dial, unless the year of the expiry has five digits.
-/

namespace Microsandbox

open Process Data Text RuntimeControl Registry SshSession

/-! ## What requests do to the session map

The map of sessions lives in the memory of the API, and a handler reaches it only through a segment
that runs between two awaits. Three routes send segments: creating a session enters one, revoking
takes one away, and validating takes one away that has expired. Every other handler leaves the map
alone, and so does whoever lacks the API token. -/

/-- The segment enters nothing. -/
def TakesAway
    (segment : SessionDraw → SessionMap → Except ServiceError SessionReply × SessionMap) : Prop :=
  ∀ draw sessions key entry, (segment draw sessions).2 key = some entry → sessions key = some entry

/-- Looking a session up removes it if it has expired, and enters nothing. -/
theorem takesAway_validate (key : String) : TakesAway (validateSegment key) := by
  intro draw sessions key' entry h
  unfold validateSegment at h
  split at h
  · exact h
  · split_ifs at h
    · simp only [Function.update_apply] at h
      split_ifs at h
      exact h
    · exact h

/-- Revoking a session removes it, and enters nothing. -/
theorem takesAway_revoke (key : String) : TakesAway (revokeSegment key) := by
  intro draw sessions key' entry h
  simp only [revokeSegment, Function.update_apply] at h
  split_ifs at h
  exact h

/-- A request with the API token has read a row for which it enters a session. -/
def EntersSession (api : ApiConfig) (req : HttpRequest) (t : Transcript requests)
    (segment : SessionDraw → SessionMap → Except ServiceError SessionReply × SessionMap) : Prop :=
  ∃ body id row binding, req.Trusted api ∧ req.route = .createSession body ∧
    normalizeSandboxId body.sandboxId = .ok id ∧ ⟨.findRuntime (.bySandboxId id), some row⟩ ∈ t ∧
    findSshBinding row.portBindings = some binding ∧
    segment = createSegment api.toAppConfig body.sandboxId binding.hostPort body.expiryMinutes

/-- The rule for requests to the API: every segment that the request runs over the session map
either only takes entries away, or is that of `createSession` for a row the same request has read,
with the API token presented. -/
def SessionRule (api : ApiConfig) (req : HttpRequest) (t : Transcript requests) (op : Request) :
    Prop :=
  ∀ segment, op = .sessions segment → TakesAway segment ∨ EntersSession api req t segment

/-- A request that leaves the map alone keeps to the rule. -/
theorem sessionRule_of_keeps {api : ApiConfig} {req : HttpRequest} {t : Transcript requests}
    {op : Request} (h : op.KeepsSessions) : SessionRule api req t op := by
  rintro segment rfl
  exact h.elim

/-- What a stranger's request may ask of the world never touches the session map. -/
theorem StrangerRule.keepsSessions {presents : String → Int → Prop} {t : Transcript requests}
    {op : Request} (h : StrangerRule presents t op) : op.KeepsSessions := by
  cases op with
  | sessions | saveRevokedSession => exact h.elim
  | _ => trivial

section Handlers

variable {α : Type}

/-- One request that leaves the map alone, in front of a program that does. -/
theorem keepsSessions_request {op : Request} {k : op.Reply → Async α} (h : op.KeepsSessions)
    (hk : ∀ r, (k r).Uses Request.KeepsSessions) : (await op >>= k).Uses Request.KeepsSessions :=
  (Prog.Uses.request h).bind hk

/-- Resolving a runtime and syncing its status with the backend leaves the map alone. -/
theorem running_keepsSessions {value : String} {k : RuntimeEntity → Async α}
    (hk : ∀ row, (k row).Uses Request.KeepsSessions) :
    (requireRunningRuntime value >>= k).Uses Request.KeepsSessions := by
  have hP := keepsSessions_stageClosed
  unfold requireRunningRuntime syncStatus
  simp only [Prog.bind_assoc]
  refine hP.query (requireRuntime_uses value) fun row => ?_
  refine keepsSessions_request trivial fun status => Prog.Uses.bind ?_ fun row => ?_
  · split_ifs
    · exact hP.mild (updateRuntime_mild _)
    · exact hP.pure _
  · split_ifs
    · exact hP.throw _
    · exact hk row

theorem touch_keepsSessions (row : RuntimeEntity) : (touch row).Uses Request.KeepsSessions :=
  keepsSessions_request trivial fun _ => keepsSessions_stageClosed.mild (updateRuntime_mild _)

/-- The handlers behind the guard that are not those of the session routes. -/
theorem Route.handler_keepsSessions {cfg : ApiConfig} {route : Route}
    (hguarded : route.guarded = true) (hcreate : ∀ body, route ≠ .createSession body)
    (hrevoke : ∀ token, route ≠ .revokeSession token)
    (hvalidate : ∀ token, route ≠ .validateToken token) :
    (route.handler cfg).Uses Request.KeepsSessions := by
  have hP := keepsSessions_stageClosed
  have hcall : ∀ call : SandboxCall, (call.prog cfg.toAppConfig).Uses Request.KeepsSessions :=
    fun call => prog_of_stages hP call
  have htouch : ∀ row {k : RuntimeEntity → Async HttpReply},
      (∀ row, (k row).Uses Request.KeepsSessions) →
        (touch row >>= k).Uses Request.KeepsSessions :=
    fun row _ hk => (touch_keepsSessions row).bind hk
  -- the calls of the service were treated stage by stage; what is left are the routes with handlers
  -- of their own
  cases route with
  | create body => exact (hcall (.create body)).of_bind.bind fun _ => hP.pure _
  | ensure body => exact (hcall (.ensure body)).of_bind.bind fun _ => hP.pure _
  | update id body => exact (hcall (.update id body)).of_bind.bind fun _ => hP.pure _
  | start id => exact (hcall (.start id)).of_bind.bind fun _ => hP.pure _
  | stop id => exact (hcall (.stop id)).of_bind.bind fun _ => hP.pure _
  | delete id => exact (hcall (.delete id)).of_bind.bind fun _ => hP.pure _
  | get id =>
    simp only [Route.handler, RuntimeControl.get, syncStatus, Prog.bind_assoc]
    refine hP.query (requireRuntime_uses id) fun row => keepsSessions_request trivial fun _ => ?_
    refine Prog.Uses.bind ?_ fun _ => hP.pure _
    split_ifs
    · exact hP.mild (updateRuntime_mild _)
    · exact hP.pure _
  | previewUrl id port =>
    simp only [Route.handler, getPreviewUrl, ensurePreviewable, Prog.bind_assoc]
    exact running_keepsSessions fun row => hP.sync fun _ => hP.pure _
  | signedPreviewUrl id port =>
    simp only [Route.handler, getSignedPreviewUrl, ensurePreviewable,
      Registry.createSignedPreviewToken, Prog.bind_assoc]
    refine running_keepsSessions fun row => hP.sync fun _ => ?_
    refine keepsSessions_request trivial fun _ => keepsSessions_request trivial fun _ => ?_
    refine keepsSessions_request trivial fun _ => keepsSessions_request trivial fun _ => ?_
    exact hP.sync fun _ => hP.sync fun _ => hP.pure _
  | expireSignedPreviewUrl id port token =>
    simp only [Route.handler, RuntimeControl.expireSignedPreviewUrl, getSignedPreviewToken,
      expireSignedPreviewToken, Prog.bind_assoc]
    refine hP.query (requireRuntime_uses id) fun row => keepsSessions_request trivial fun found => ?_
    cases found with
    | none => exact hP.throw _
    | some record =>
      dsimp only
      split_ifs
      · exact hP.throw _
      · exact keepsSessions_request trivial fun _ => hP.pure _
  | exec id command args =>
    simp only [Route.handler, RuntimeControl.exec, Prog.bind_assoc]
    exact running_keepsSessions fun row => keepsSessions_request trivial fun _ =>
      hP.sync fun _ => htouch row fun _ => hP.pure _
  | refreshActivity id =>
    simp only [Route.handler, RuntimeControl.refreshActivity, Prog.bind_assoc]
    exact running_keepsSessions fun row => keepsSessions_request trivial fun _ =>
      hP.sync fun _ => htouch row fun _ => hP.pure _
  | writeFiles id files =>
    simp only [Route.handler, RuntimeControl.writeFiles, Prog.bind_assoc]
    exact running_keepsSessions fun row => keepsSessions_request trivial fun _ =>
      hP.sync fun _ => htouch row fun _ => hP.pure _
  | downloadFiles id paths =>
    simp only [Route.handler, RuntimeControl.downloadFiles, Prog.bind_assoc]
    exact running_keepsSessions fun row => keepsSessions_request trivial fun _ =>
      hP.sync fun _ => htouch row fun _ => hP.pure _
  -- the session routes are excluded, and the open routes are not behind the guard
  | createSession body => exact absurd rfl (hcreate body)
  | revokeSession token => exact absurd rfl (hrevoke token)
  | validateToken token => exact absurd rfl (hvalidate token)
  | _ => cases hguarded

/-! ## Looking a session up

`validateToken` first asks the table of revoked sessions, then the map. It returns a session just
when the two answers are those of `found`; whenever it fails, its transcript does not contain
them. -/

/-- What the API is answered when it finds a session. -/
def found (key : String) (result : SshValidateResult) : Transcript requests :=
  [⟨.findRevokedSession key, false⟩,
    ⟨.sessions (validateSegment key), .ok (.validated (some result))⟩]

/-- The rule for a lookup: it asks whether the key was revoked, and runs the segment that looks the
key up. -/
def ValidateRule (key : String) (_ : Transcript requests) (op : Request) : Prop :=
  op = .findRevokedSession key ∨ op = .sessions (validateSegment key)

/-- The handler returns the session it has found, or has found none. -/
def ValidatePost (key : String) (t : Transcript requests) (x : Except ServiceError HttpReply) :
    Prop :=
  (∃ result, x = .ok (.sessionValid result) ∧ t = found key result) ∨
    ((∀ result, x ≠ .ok (.sessionValid result)) ∧ ∀ result, ¬ found key result ⊆ t)

/-- The handler of `validate` keeps to the rule and returns just what it has found. The cases are
the answers, in the order in which the handler gets them. -/
theorem follows_validateToken (api : ApiConfig) (token : String) :
    ((Route.validateToken token).handler api).Follows (ValidateRule (api.sha256 token))
      (ValidatePost (api.sha256 token)) [] := by
  -- once the map was asked and did not return a session, every exit of the handler is a refusal
  have hdenied : ∀ (reply : Except ServiceError SessionReply) (x : Except ServiceError HttpReply),
      (∀ result, reply ≠ .ok (.validated (some result))) →
        (∀ result, x ≠ .ok (.sessionValid result)) →
          ValidatePost (api.sha256 token) [⟨.findRevokedSession (api.sha256 token), false⟩,
            ⟨.sessions (validateSegment (api.sha256 token)), reply⟩] x := by
    refine fun reply x hreply hx => Or.inr ⟨hx, fun result hsub => ?_⟩
    have hmem := hsub (List.mem_cons_of_mem _ List.mem_cons_self)
    simp only [List.mem_cons, List.not_mem_nil, or_false] at hmem
    rcases hmem with h | h
    · cases h
    · exact hreply result (eq_of_heq (Sigma.mk.inj h).2).symm
  simp only [Route.handler, SshController.validateToken, SshSession.validateSession,
    Prog.bind_assoc]
  refine Prog.Follows.request (Or.inl rfl) fun revoked => ?_
  cases revoked with
  | true =>
    refine Prog.Follows.throw (Or.inr ⟨fun _ h => (by cases h), fun result hsub => ?_⟩)
    have hmem := hsub List.mem_cons_self
    simp only [List.nil_append, List.mem_singleton] at hmem
    cases hmem
  | false =>
    simp only [Bool.false_eq_true, if_false, Prog.bind_assoc]
    refine Prog.Follows.request (Or.inr rfl) fun reply => ?_
    cases reply with
    | error e =>
      exact Prog.Follows.throw (hdenied _ _ (fun _ h => by cases h) fun _ h => by cases h)
    | ok reply =>
      cases reply with
      | created session =>
        exact Prog.Follows.throw (hdenied _ _ (fun _ h => by cases h) fun _ h => by cases h)
      | done =>
        exact Prog.Follows.throw (hdenied _ _ (fun _ h => by cases h) fun _ h => by cases h)
      | validated result =>
        cases result with
        | none =>
          exact Prog.Follows.throw (hdenied _ _ (fun _ h => by cases h) fun _ h => by cases h)
        | some result => exact Prog.Follows.pure (Or.inl ⟨result, rfl, rfl⟩)

/-- A request to the API keeps to its rule. -/
theorem HttpRequest.follows_sessions (api : ApiConfig) (req : HttpRequest) :
    (req.prog api).Follows (SessionRule api req) (fun _ _ => True) [] := by
  by_cases htrusted : req.Trusted api
  · rw [HttpRequest.prog_of_trusted htrusted]
    cases hguarded : req.route.guarded with
    | false =>
      exact (Route.follows_open hguarded).widen fun _ _ h => sessionRule_of_keeps h.keepsSessions
    | true =>
      have hother : (∀ body, req.route ≠ .createSession body) →
          (∀ token, req.route ≠ .revokeSession token) →
            (∀ token, req.route ≠ .validateToken token) →
              (req.route.handler api).Follows (SessionRule api req) (fun _ _ => True) [] :=
        fun hcreate hrevoke hvalidate => Prog.Follows.of_uses
          (Route.handler_keepsSessions hguarded hcreate hrevoke hvalidate)
          (fun _ _ _ h => sessionRule_of_keeps h) fun _ _ _ => trivial
      cases hroute : req.route with
      -- the one route that enters an entry: the row was read before, by the same request
      | createSession body =>
        simp only [Route.handler, SshController.createSession, findRuntimeBySandboxId,
          Prog.bind_assoc]
        refine Prog.Follows.sync (fun id hid => ?_) fun _ _ => trivial
        refine Prog.Follows.request (sessionRule_of_keeps trivial) fun found => ?_
        cases found with
        | none => exact Prog.Follows.throw trivial
        | some row =>
          dsimp only
          cases hbinding : findSshBinding row.portBindings with
          | none => exact Prog.Follows.throw trivial
          | some binding =>
            simp only [SshSession.createSession, Prog.bind_assoc]
            refine Prog.Follows.request ?_ fun reply => ?_
            · rintro segment hsegment
              refine Or.inr ⟨body, id, row, binding, htrusted, hroute, hid, by simp, hbinding, ?_⟩
              exact (Request.sessions.inj hsegment).symm
            · exact Prog.Follows.sync (fun _ _ => Prog.Follows.pure trivial) fun _ _ => trivial
      | revokeSession token =>
        simp only [Route.handler, SshController.revokeSession, SshSession.revokeSession,
          Prog.bind_assoc]
        refine Prog.Follows.request ?_ fun _ => ?_
        · rintro segment hsegment
          rw [← Request.sessions.inj hsegment]
          exact Or.inl (takesAway_revoke _)
        · refine Prog.Follows.request (fun _ h => by cases h) fun saved => ?_
          cases saved with
          | ok _ => exact Prog.Follows.pure trivial
          | error e => exact Prog.Follows.throw trivial
      | validateToken token =>
        refine ((follows_validateToken api token).widen ?_).mono fun _ _ _ => trivial
        rintro t op (rfl | rfl) segment hsegment
        · cases hsegment
        · rw [← Request.sessions.inj hsegment]
          exact Or.inl (takesAway_validate _)
      | _ =>
        rw [hroute] at hother
        exact hother (fun _ h => by cases h) (fun _ h => by cases h) fun _ h => by cases h
  · exact (HttpRequest.follows_stranger htrusted).widen fun _ _ h =>
      sessionRule_of_keeps h.keepsSessions

end Handlers

namespace SshGateway

/-! ## Connections

A connection of the gateway is a program of its own, whose requests are the handshake, the clock,
dialling, and the HTTP exchange with the API, in the course of which the handler of `validate` runs.
Its rule names the one transcript after which it may dial. -/

/-- The transcript of a handler, among the requests of the gateway. -/
def asked (t : Transcript requests) : Transcript gatewayRequests :=
  t.map fun e => ⟨.api e.1, e.2⟩

theorem asked_append (t u : Transcript requests) : asked (t ++ u) = asked t ++ asked u :=
  List.map_append

instance (op : Request) : Nonempty op.Reply := by
  cases op <;> first | exact ⟨.ok ()⟩ | exact ⟨default⟩ | exact ⟨.error ⟨.error, ""⟩⟩

/-- After `u`, the gateway has had the API asked just what is in `t`. -/
def AskedAfter (u : Transcript gatewayRequests) (t : Transcript requests)
    (v : Transcript gatewayRequests) : Prop := v = u ++ asked t

/-- The rule for a handler within a program of the gateway. -/
theorem follows_handled {α β : Type} {p : Async α} {k : Except ServiceError α → Gatewaying β}
    {may : Transcript requests → Request → Prop}
    {post : Transcript requests → Except ServiceError α → Prop}
    {may' : Transcript gatewayRequests → GatewayRequest → Prop}
    {post' : Transcript gatewayRequests → Except ServiceError β → Prop}
    {u : Transcript gatewayRequests} (hp : p.Follows may post [])
    (hmay : ∀ t op, may t op → may' (u ++ asked t) (.api op))
    (hk : ∀ t x, post t x → (k x).Follows may' post' (u ++ asked t)) :
    (handled p.attempt >>= k).Follows may' post' u := by
  have hstart : AskedAfter u [] u := (List.append_nil u).symm
  refine Prog.Follows.implement hp.attempt hstart ?_ ?_ ?_
  -- a request of the handler: its transcript grows by one, and so does that of the gateway
  · rintro t _ op k hop rfl hk
    refine Prog.Follows.request (hmay t op hop) fun r => hk r _ ?_
    unfold AskedAfter
    rw [asked_append, List.append_assoc]
    rfl
  · rintro t _ x rfl ⟨_, hx, hpost⟩
    cases hx
    exact hk t x hpost
  -- `attempt` does not throw
  · rintro t _ e - ⟨x, hx, -⟩
    cases hx

/-- The key of the session whose token a client gives as its user name. -/
def sessionKey (api : ApiConfig) (user : List UInt8) : String :=
  api.sha256 (queryToken (validateQuery user))

/-- The API takes the key of the gateway. -/
def Authorised (api : ApiConfig) (cfg : GatewayConfig) : Prop :=
  canActivate api (some (authorization cfg)) = .ok ()

/-- What a connection is answered before it dials. -/
def looked (api : ApiConfig) (user : List UInt8) (result : SshValidateResult) (now : Int) :
    Transcript gatewayRequests :=
  [⟨.handshake, some user⟩, ⟨.send, true⟩] ++ asked (found (sessionKey api user) result) ++
    [⟨.receive, true⟩] ++ [⟨.now, now⟩]

/-- With this transcript a connection may dial for the session. -/
def Admitted (api : ApiConfig) (cfg : GatewayConfig) (t : Transcript gatewayRequests)
    (result : SshValidateResult) : Prop :=
  ∃ user now, t = looked api user result now ∧ Authorised api cfg ∧ Takes result ∧
    now < expiryNs result

/-- The rule for a connection: it has the API asked for lookups only, dials only the address of the
session for which it was admitted, and serves only after that dial has connected, until the expiry
of that session. -/
def ConnectionRule (api : ApiConfig) (cfg : GatewayConfig) (t : Transcript gatewayRequests) :
    GatewayRequest → Prop
  | .api op => ∃ key, ValidateRule key [] op
  | .dial address => ∃ result, Admitted api cfg t result ∧ address = sandboxAddr result.hostPort
  | .serve limits => ∃ u result, Admitted api cfg u result ∧
      t = u ++ [⟨.dial (sandboxAddr result.hostPort), true⟩] ∧
      limits = sessionLimits cfg (expiryNs result)
  | _ => True

/-! ## How a connection ends

A connection that has ended did dial if and only if its client had to be connected, and whatever it
opened is closed. `Live` says who has to be connected; it looks at the transcript only, so it does
not matter in what order the code checks. -/

/-- The client gave this user name, and the API has found this session for it. -/
def Traced (api : ApiConfig) (t : Transcript gatewayRequests) (user : List UInt8)
    (result : SshValidateResult) : Prop :=
  ⟨.handshake, some user⟩ ∈ t ∧ asked (found (sessionKey api user) result) ⊆ t

/-- The transcript of a client that the gateway has to connect. -/
def Live (api : ApiConfig) (cfg : GatewayConfig) (t : Transcript gatewayRequests) : Prop :=
  Authorised api cfg ∧ ∃ user result, Traced api t user result ∧ Takes result ∧
    (∀ arrived, ⟨.receive, arrived⟩ ∈ t → arrived = true) ∧
    ∀ now, ⟨.now, now⟩ ∈ t → now < expiryNs result

/-- The connection has dialled, whether or not somebody answered. -/
def Dialled (t : Transcript gatewayRequests) : Prop :=
  ∃ address connected, ⟨.dial address, connected⟩ ∈ t

/-- The TCP connection was closed once and last, and nothing was left open before. -/
structure ClosedAll (t : Transcript gatewayRequests) : Prop where
  tcp : ∃ pre, t = pre ++ [⟨.close .tcp, ()⟩] ∧ ⟨.close .tcp, ()⟩ ∉ pre
  sandbox : ∀ address, ⟨.dial address, true⟩ ∈ t → ⟨.close .sandbox, ()⟩ ∈ t
  client : ∀ user, ⟨.handshake, some user⟩ ∈ t →
    (∃ limits, ⟨.serve limits, ()⟩ ∈ t) ∨ ⟨.close .client, ()⟩ ∈ t

/-- What holds when a connection ends: it has dialled exactly for a live client, and everything is
closed. -/
def ConnectionPost (api : ApiConfig) (cfg : GatewayConfig) (t : Transcript gatewayRequests) :
    Prop :=
  (Dialled t ↔ Live api cfg t) ∧ ClosedAll t

section Ends

variable {api : ApiConfig} {cfg : GatewayConfig} {t : Transcript gatewayRequests}
  {user user' : List UInt8} {result result' : SshValidateResult}

/-- Requests that come after a lookup. -/
def GatewayRequest.Acts : GatewayRequest → Prop
  | .dial _ | .serve _ | .close _ => True
  | _ => False

/-- The connection has neither dialled nor closed anything. -/
def Undecided (t : Transcript gatewayRequests) : Prop := ∀ e ∈ t, ¬ e.1.Acts

/-- A request that neither dials nor closes leaves the matter open. -/
theorem Undecided.snoc {op : GatewayRequest} {r : gatewayRequests.Reply op} (h : Undecided t)
    (hop : ¬ op.Acts) : Undecided (t ++ [⟨op, r⟩]) := by
  intro e he
  rcases List.mem_append.mp he with he | he
  · exact h e he
  · rw [List.mem_singleton.mp he]
    exact hop

/-- During the handshake and the lookup nothing is decided. -/
theorem undecided_start (sent : Bool) (t : Transcript requests) :
    Undecided ([⟨.handshake, some user⟩, ⟨.send, sent⟩] ++ asked t) := by
  intro e he
  rcases List.mem_append.mp he with he | he
  · rcases List.mem_cons.mp he with rfl | he
    · exact id
    · rw [List.mem_singleton.mp he]
      exact id
  · obtain ⟨e', -, rfl⟩ := List.mem_map.mp he
    exact id

theorem Undecided.not_dialled (h : Undecided t) : ¬ Dialled t := by
  rintro ⟨address, connected, hmem⟩
  exact h _ hmem trivial

/-- What is added beside the lookup does not matter to it. -/
theorem traced_snoc {op : GatewayRequest} {r : gatewayRequests.Reply op}
    (hhandshake : op ≠ .handshake) (hop : ∀ op', op ≠ .api op') :
    Traced api (t ++ [⟨op, r⟩]) user result ↔ Traced api t user result := by
  have hsame : ∀ e : Σ op : gatewayRequests.Op, gatewayRequests.Reply op,
      (e.1 = .handshake ∨ ∃ op', e.1 = .api op') → (e ∈ t ++ [⟨op, r⟩] ↔ e ∈ t) := by
    intro e he
    rw [List.mem_append, List.mem_singleton]
    refine or_iff_left ?_
    rintro rfl
    rcases he with he | ⟨op', he⟩
    · exact hhandshake he
    · exact hop op' he
  unfold Traced
  rw [hsame _ (Or.inl rfl)]
  refine and_congr_right fun _ => forall_congr' fun e => imp_congr_right fun he => hsame e ?_
  obtain ⟨e', -, rfl⟩ := List.mem_map.mp he
  exact Or.inr ⟨_, rfl⟩

/-- What was traced is what the lookup was answered. -/
theorem traced_start {sent : Bool} {t : Transcript requests} :
    Traced api ([⟨.handshake, some user⟩, ⟨.send, sent⟩] ++ asked t) user' result ↔
      user' = user ∧ found (sessionKey api user') result ⊆ t := by
  -- `asked` loses nothing, so a lookup can be read back from the gateway's transcript
  have hinj : Function.Injective fun e : Σ op : requests.Op, requests.Reply op =>
      (⟨.api e.1, e.2⟩ : Σ op : gatewayRequests.Op, gatewayRequests.Reply op) := by
    rintro ⟨op, r⟩ ⟨op', r'⟩ h
    cases h
    rfl
  -- the handshake and the sending are no requests to the API
  have hasked : ∀ e : Σ op : requests.Op, requests.Reply op,
      ⟨.api e.1, e.2⟩ ∈ [⟨.handshake, some user⟩, ⟨.send, sent⟩] ++ asked t ↔ e ∈ t := by
    intro e
    rw [List.mem_append, asked, List.mem_map_of_injective hinj]
    refine or_iff_right fun h => ?_
    simp only [List.mem_cons, List.not_mem_nil, or_false] at h
    rcases h with h | h <;> cases h
  unfold Traced
  refine and_congr ?_ ?_
  · rw [List.mem_append]
    constructor
    · rintro (h | h)
      · simp only [List.mem_cons, List.not_mem_nil, or_false] at h
        rcases h with h | h <;> cases h
        rfl
      · obtain ⟨e, -, he⟩ := List.mem_map.mp h
        cases he
    · rintro rfl
      exact Or.inl List.mem_cons_self
  · constructor
    · exact fun h e he => (hasked e).mp (h (List.mem_map_of_mem he))
    · intro h e he
      obtain ⟨e, he', rfl⟩ := List.mem_map.mp he
      exact (hasked e).mpr (h he')

/-- What follows a lookup does not change whether the client has to be connected. -/
theorem live_snoc {op : GatewayRequest} {r : gatewayRequests.Reply op} (hop : op.Acts) :
    Live api cfg (t ++ [⟨op, r⟩]) ↔ Live api cfg t := by
  -- `Live` speaks of the handshake, the lookup, the arrival and the clock, and of nothing that
  -- comes later
  have hsame : ∀ e : Σ op : gatewayRequests.Op, gatewayRequests.Reply op, ¬ e.1.Acts →
      (e ∈ t ++ [⟨op, r⟩] ↔ e ∈ t) := by
    intro e he
    rw [List.mem_append, List.mem_singleton]
    refine or_iff_left ?_
    rintro rfl
    exact he hop
  unfold Live
  refine and_congr_right fun _ => exists_congr fun user => exists_congr fun result => ?_
  refine and_congr ?_ (and_congr_right fun _ => and_congr ?_ ?_)
  · refine traced_snoc ?_ ?_
    · rintro rfl
      exact hop
    · rintro op' rfl
      exact hop
  · exact forall_congr' fun arrived => imp_congr_left (hsame _ id)
  · exact forall_congr' fun now => imp_congr_left (hsame _ id)

/-- Only a dial changes whether the connection has dialled. -/
theorem dialled_snoc {op : GatewayRequest} {r : gatewayRequests.Reply op}
    (hop : ∀ address, op ≠ .dial address) : Dialled (t ++ [⟨op, r⟩]) ↔ Dialled t := by
  refine exists_congr fun address => exists_congr fun connected => ?_
  rw [List.mem_append, List.mem_singleton]
  refine or_iff_left fun h => hop address ?_
  exact (congrArg Sigma.fst h).symm

/-- A client that was not connected is closed, and then the TCP connection. -/
theorem follows_refuse (hdialled : Dialled t ↔ Live api cfg t)
    (hopen : ∀ link, ⟨.close link, ()⟩ ∉ t) (hapart : ∀ address, ⟨.dial address, true⟩ ∉ t) :
    refuse.Follows (ConnectionRule api cfg) (fun t _ => ConnectionPost api cfg t) t := by
  refine Prog.Follows.request trivial fun _ => Prog.Follows.await trivial fun _ => ?_
  refine Prog.Follows.pure ⟨?_, ⟨⟨_, rfl, ?_⟩, ?_, ?_⟩⟩
  · rw [dialled_snoc (fun _ h => by cases h), dialled_snoc (fun _ h => by cases h),
      live_snoc (by trivial), live_snoc (by trivial)]
    exact hdialled
  · intro h
    rcases List.mem_append.mp h with h | h
    · exact hopen _ h
    · cases List.mem_singleton.mp h
  -- no dial has connected, so there is no sandbox connection to close
  · intro address h
    simp only [List.mem_append, List.mem_singleton] at h
    rcases h with (h | h) | h
    · exact absurd h (hapart address)
    · cases h
    · cases h
  · intro user _
    exact Or.inr (by simp)

theorem found_unique {key : String} (h : found key result' ⊆ found key result) :
    result' = result := by
  have hmem := h (List.mem_cons_of_mem _ List.mem_cons_self)
  simp only [found, List.mem_cons, List.not_mem_nil, or_false] at hmem
  rcases hmem with h | h
  · cases h
  · cases h
    rfl

/-- The handler returns a session that it has found for the gateway's key, or there is none. -/
theorem follows_validateRequest (api : ApiConfig) (cfg : GatewayConfig) (user : List UInt8) :
    ((validateRequest cfg user).prog api).Follows (ValidateRule (sessionKey api user))
      (fun t x => (∃ result, x = .ok (.sessionValid result) ∧ Authorised api cfg ∧
          t = found (sessionKey api user) result) ∨
        ((∀ result, x ≠ .ok (.sessionValid result)) ∧
          ¬ (Authorised api cfg ∧ ∃ result, found (sessionKey api user) result ⊆ t))) [] := by
  by_cases hauthorised : Authorised api cfg
  · have htrusted : (validateRequest cfg user).Trusted api := hauthorised
    rw [HttpRequest.prog_of_trusted htrusted]
    refine (follows_validateToken api (queryToken (validateQuery user))).mono fun t x h => ?_
    rcases h with ⟨result, hx, ht⟩ | ⟨hx, hnone⟩
    · exact Or.inl ⟨result, hx, hauthorised, ht⟩
    · exact Or.inr ⟨hx, fun h => h.2.elim hnone⟩
  · have hstranger : ¬ (validateRequest cfg user).Trusted api := hauthorised
    rw [HttpRequest.prog_of_refused rfl hstranger]
    exact Prog.Follows.throw (Or.inr ⟨fun _ h => (by cases h), fun h => hauthorised h.1⟩)

/-- `validateToken` hands on a session that was found, or there is none for the client. -/
theorem follows_validateToken {α : Type} {k : Option ValidateResponse → Gatewaying α}
    {post : Transcript gatewayRequests → Except ServiceError α → Prop}
    (hnone : ∀ t, Undecided t → ¬ Live api cfg t →
      (k none).Follows (ConnectionRule api cfg) post t)
    (hsome : ∀ result, Authorised api cfg → result.hostPort ≠ 0 → IsInt64 result.hostPort →
      (k (some (targetOf result))).Follows (ConnectionRule api cfg) post
        ([⟨.handshake, some user⟩, ⟨.send, true⟩] ++ asked (found (sessionKey api user) result) ++
          [⟨.receive, true⟩])) :
    (validateToken api cfg user >>= k).Follows (ConnectionRule api cfg) post
      [⟨.handshake, some user⟩] := by
  unfold validateToken clientDo
  simp only [Prog.bind_assoc]
  refine Prog.Follows.request trivial fun sent => ?_
  cases sent with
  -- the request could not be sent, so nothing was asked and nothing found
  | false =>
    refine hnone _ (undecided_start false []) ?_
    rintro ⟨-, user', result, htraced, -⟩
    exact absurd ((traced_start (t := [])).mp htraced).2 (by simp [found])
  | true =>
    simp only [if_true, Prog.bind_assoc]
    refine follows_handled (follows_validateRequest api cfg user)
      (fun t op h => ⟨sessionKey api user, h⟩) fun t answer hanswer => ?_
    refine Prog.Follows.request trivial fun arrived => ?_
    have hundecided : Undecided ([⟨.handshake, some user⟩, ⟨.send, true⟩] ++ asked t ++
        [⟨.receive, arrived⟩]) := (undecided_start true t).snoc id
    have hlookup : ∀ {user' result}, Traced api ([⟨.handshake, some user⟩, ⟨.send, true⟩] ++
          asked t ++ [⟨.receive, arrived⟩]) user' result →
        user' = user ∧ found (sessionKey api user') result ⊆ t := fun h =>
      traced_start.mp ((traced_snoc (fun h => by cases h) fun _ h => by cases h).mp h)
    cases arrived with
    | false =>
      refine hnone _ hundecided ?_
      rintro ⟨-, _, _, -, -, harrived, -⟩
      exact absurd (harrived false (by simp)) (by decide)
    | true =>
      simp only [if_true, Prog.pure_eq, Prog.pure_bind]
      rcases hanswer with ⟨result, rfl, hauthorised, rfl⟩ | ⟨hx, hfound⟩
      · simp only [okBody, readTarget_validateBody]
        split_ifs with hport
        · exact hsome result hauthorised hport.1 hport.2
        · refine hnone _ hundecided ?_
          rintro ⟨-, user', result', htraced, htakes, -⟩
          obtain ⟨rfl, hsub⟩ := hlookup htraced
          exact hport (found_unique hsub ▸ ⟨htakes.1, htakes.2.1⟩)
      · have hbody : okBody answer = none := by
          unfold okBody
          split
          · rename_i result
            exact absurd rfl (hx result)
          · rfl
        simp only [hbody]
        refine hnone _ hundecided ?_
        rintro ⟨hauthorised, user', result, htraced, -⟩
        obtain ⟨rfl, hsub⟩ := hlookup htraced
        exact hfound ⟨hauthorised, result, hsub⟩

/-- Before the dial, what was traced is what the lookup has found. -/
theorem traced_looked {now : Int} : Traced api (looked api user result now) user' result' ↔
    user' = user ∧ found (sessionKey api user') result' ⊆ found (sessionKey api user) result := by
  rw [looked, traced_snoc (fun h => by cases h) (fun _ h => by cases h),
    traced_snoc (fun h => by cases h) (fun _ h => by cases h), traced_start]

theorem undecided_looked (now : Int) : Undecided (looked api user result now) :=
  ((undecided_start true _).snoc id).snoc id

/-- A connection that may dial has a live client. -/
theorem Admitted.live (h : Admitted api cfg t result) : Live api cfg t := by
  obtain ⟨user, now, rfl, hauthorised, htakes, hnow⟩ := h
  refine ⟨hauthorised, user, result, traced_looked.mpr ⟨rfl, List.Subset.refl _⟩, htakes, ?_, ?_⟩
  · intro arrived h
    simp [looked, asked, found] at h
    exact h
  · intro now' h
    simp [looked, asked, found] at h
    exact h ▸ hnow

/-- A connection that may dial has not dialled yet. -/
theorem Admitted.undecided (h : Admitted api cfg t result) : Undecided t := by
  obtain ⟨user, now, rfl, -⟩ := h
  exact undecided_looked now

/-- A connection that may dial does so, and closes what it has opened. -/
theorem follows_serveSandbox (h : Admitted api cfg t result) :
    (serveSandbox cfg (targetOf result) (expiryNs result)).Follows (ConnectionRule api cfg)
      (fun t _ => ConnectionPost api cfg t) t := by
  have hopen : ∀ link, ⟨.close link, ()⟩ ∉ t := fun link hmem => h.undecided _ hmem trivial
  have hapart : ∀ address connected, ⟨.dial address, connected⟩ ∉ t :=
    fun address connected hmem => h.undecided _ hmem trivial
  unfold serveSandbox
  refine Prog.Follows.request ⟨result, h, rfl⟩ fun connected => ?_
  have hdialled : Dialled (t ++ [⟨.dial (sandboxAddr (targetOf result).hostPort), connected⟩]) ↔
      Live api cfg (t ++ [⟨.dial (sandboxAddr (targetOf result).hostPort), connected⟩]) := by
    rw [live_snoc (by trivial)]
    exact iff_of_true ⟨_, _, by simp; exact Or.inr ⟨rfl, rfl⟩⟩ h.live
  cases connected with
  -- nobody answered at the port: the client is closed as if it had been refused
  | false =>
    refine follows_refuse hdialled (fun link hmem => ?_) fun address hmem => ?_
    · rcases List.mem_append.mp hmem with hmem | hmem
      · exact hopen link hmem
      · cases List.mem_singleton.mp hmem
    · rcases List.mem_append.mp hmem with hmem | hmem
      · exact hapart address true hmem
      · cases List.mem_singleton.mp hmem
  | true =>
    refine Prog.Follows.request ⟨t, result, h, rfl, rfl⟩ fun _ => ?_
    refine Prog.Follows.request trivial fun _ => Prog.Follows.await trivial fun _ => ?_
    refine Prog.Follows.pure ⟨?_, ⟨⟨_, rfl, ?_⟩, ?_, ?_⟩⟩
    · rw [dialled_snoc (fun _ h => by cases h), dialled_snoc (fun _ h => by cases h),
        dialled_snoc (fun _ h => by cases h), live_snoc (by trivial), live_snoc (by trivial),
        live_snoc (by trivial)]
      exact hdialled
    · simp [hopen]
    · intro address _
      simp
    · intro user _
      exact Or.inl ⟨_, by simp; exact Or.inr rfl⟩

/-- From the session on, the connection is served or refused. -/
theorem follows_connectTarget (hauthorised : Authorised api cfg) (hport : result.hostPort ≠ 0)
    (hint : IsInt64 result.hostPort) :
    (connectTarget cfg (targetOf result)).Follows (ConnectionRule api cfg)
      (fun t _ => ConnectionPost api cfg t)
      ([⟨.handshake, some user⟩, ⟨.send, true⟩] ++ asked (found (sessionKey api user) result) ++
        [⟨.receive, true⟩]) := by
  have hrefuse : ∀ {t}, Undecided t → ¬ Live api cfg t →
      refuse.Follows (ConnectionRule api cfg) (fun t _ => ConnectionPost api cfg t) t :=
    fun h hlive => follows_refuse (iff_of_false h.not_dialled hlive)
      (fun link hmem => h _ hmem trivial) fun address hmem => h _ hmem trivial
  unfold connectTarget
  by_cases hyear : HasYear result.expiresAt
  -- `time.Parse` reads the expiry, and the clock decides
  · rw [(parse_expiry result).1 hyear]
    refine Prog.Follows.request trivial fun (now : Int) => ?_
    split_ifs with hnow
    · exact follows_serveSandbox ⟨user, now, rfl, hauthorised, ⟨hport, hint, hyear⟩, hnow⟩
    · refine hrefuse (undecided_looked now) ?_
      rintro ⟨-, user', result', htraced, -, -, hclock⟩
      obtain ⟨rfl, hsub⟩ := traced_looked.mp htraced
      exact hnow (found_unique hsub ▸ hclock now (by simp))
  -- the year is not one of four digits: the gateway refuses a session that the API takes
  · rw [(parse_expiry result).2 hyear]
    refine hrefuse ((undecided_start true _).snoc id) ?_
    rintro ⟨-, user', result', htraced, htakes, -⟩
    obtain ⟨rfl, hsub⟩ :=
      traced_start.mp ((traced_snoc (fun h => by cases h) fun _ h => by cases h).mp htraced)
    exact hyear (found_unique hsub ▸ htakes.2.2)

/-- **Connections.** A connection keeps to its rule, dials exactly for a live client, and closes
what it has opened. -/
theorem follows_handleConnection (api : ApiConfig) (cfg : GatewayConfig) :
    (handleConnection api cfg).Follows (ConnectionRule api cfg)
      (fun t _ => ConnectionPost api cfg t) [] := by
  unfold handleConnection
  refine Prog.Follows.request trivial fun user => ?_
  cases user with
  -- the handshake failed: the TCP connection is closed and nothing else was opened
  | none =>
    refine Prog.Follows.await trivial fun _ => Prog.Follows.pure ⟨iff_of_false ?_ ?_, ?_⟩
    · rintro ⟨address, connected, hmem⟩
      simp at hmem
    · rintro ⟨-, user, result, ⟨huser, -⟩, -⟩
      simp at huser
    · refine ⟨⟨_, rfl, by simp⟩, ?_, ?_⟩
      · intro address hmem
        simp at hmem
      · intro user hmem
        simp at hmem
  | some user =>
    refine follows_validateToken (fun t hundecided hlive => ?_)
      fun result hauthorised hport hint => follows_connectTarget hauthorised hport hint
    exact follows_refuse (iff_of_false hundecided.not_dialled hlive)
      (fun link hmem => hundecided _ hmem trivial) fun address hmem => hundecided _ hmem trivial

end Ends

/-! ## Parties together

The connections of the gateway and the requests of the API's other clients share one world. Each
party follows its own rule whatever the others do: the rule speaks of its own transcript only. -/

/-- The rule of a party: a connection keeps to `ConnectionRule`, a request to the API keeps to
`SessionRule`. -/
def Party.rule (api : ApiConfig) (cfg : GatewayConfig) :
    Party → Transcript gatewayRequests → GatewayRequest → Prop
  | .connection, t, op => ConnectionRule api cfg t op
  | .request req, t, op => ∃ u op', t = asked u ∧ op = .api op' ∧ SessionRule api req u op'

/-- What holds when a party ends. Nothing is asked of requests to the API. -/
def Party.post (api : ApiConfig) (cfg : GatewayConfig) :
    Party → Transcript gatewayRequests → Except ServiceError PartyEnd → Prop
  | .connection, t, _ => ConnectionPost api cfg t
  | .request _, _, _ => True

/-- Every party keeps to its rule, and ends as it should. -/
theorem Party.follows (api : ApiConfig) (cfg : GatewayConfig) (party : Party) :
    (party.prog api cfg).Follows (party.rule api cfg) (party.post api cfg) [] := by
  cases party with
  | connection =>
    refine Prog.Follows.bind ((follows_handleConnection api cfg).mono fun t x h => ?_)
    cases x with
    | ok _ => exact Prog.Follows.pure h
    | error e => exact h
  | request req =>
    exact follows_handled (u := []) (req.follows_sessions api)
      (fun t op h => ⟨t, op, rfl, rfl, h⟩) fun t x _ => Prog.Follows.pure trivial

section Runs

variable {ι : Type} {api : ApiConfig} {cfg : GatewayConfig} {parties : ι → Party} {s₀ s s' : World}
  {tr : GatewayHistory ι} {i : ι} {op : GatewayRequest} {a : GatewayAnswer} {r : op.Reply}

/-- A request with the API token has read a row, and entered a session for its SSH port. -/
def Granted (api : ApiConfig) (parties : ι → Party) (tr : GatewayHistory ι) (key : String)
    (entry : SessionEntry) : Prop :=
  ∃ j req body row binding read entered, parties j = .request req ∧ req.Trusted api ∧
    req.route = .createSession body ∧ (j, read) ∈ tr ∧ row ∈ read.before.runtimes ∧
    normalizeSandboxId body.sandboxId = .ok row.sandboxId ∧
    findSshBinding row.portBindings = some binding ∧ (j, entered) ∈ tr ∧
    key = api.sha256 entered.answer.api.random ∧
    entry = ⟨body.sandboxId, binding.hostPort,
      entered.answer.api.later + expiryMs api.toAppConfig body.expiryMinutes⟩

/-- What was granted stays granted in a longer history. -/
theorem Granted.mono {tr' : GatewayHistory ι} {key : String} {entry : SessionEntry}
    (h : Granted api parties tr key entry) (hsub : tr ⊆ tr') :
    Granted api parties tr' key entry := by
  obtain ⟨j, req, body, row, binding, read, entered, hj, htrusted, hroute, hread, hrow, hid,
    hbinding, hentered, hkey, hentry⟩ := h
  exact ⟨j, req, body, row, binding, read, entered, hj, htrusted, hroute, hsub hread, hrow, hid,
    hbinding, hsub hentered, hkey, hentry⟩

/-- What is stored was there at the start, or has been granted. -/
def SessionsGranted (api : ApiConfig) (parties : ι → Party) (s₀ : World) (tr : GatewayHistory ι)
    (s : World) : Prop :=
  ∀ key entry, s.sessions key = some entry →
    s₀.sessions key = some entry ∨ Granted api parties tr key entry

/-- A request leaves the session map alone, or is a segment over it. -/
theorem act_sessionMap {op : Request} {a : Answer} {r : op.Reply}
    (hact : act op a s = some (r, s')) :
    s'.sessions = s.sessions ∨ ∃ segment, op = .sessions segment ∧
      s'.sessions = (segment ⟨a.time, a.later, a.random⟩ s.sessions).2 := by
  cases op with
  | sessions segment =>
    simp only [act] at hact
    split_ifs at hact
    cases hact
    exact Or.inr ⟨segment, rfl, rfl⟩
  -- the table of revoked sessions is beside the map
  | saveRevokedSession key =>
    simp only [act] at hact
    split_ifs at hact
    · cases hact
      exact Or.inl rfl
    · split at hact
      · cases hact
        exact Or.inl rfl
      · cases hact
        exact Or.inl rfl
  | _ => exact Or.inl (act_sessions (by trivial) hact).1

/-- A row that a request has read was stored when it did. -/
theorem exists_read [DecidableEq ι] {id : String} {row : RuntimeEntity} {u : Transcript requests}
    (hu : Pool.transcript gatewayBackend i tr = asked u)
    (hrow : ⟨.findRuntime (.bySandboxId id), some row⟩ ∈ u) :
    ∃ read, (i, read) ∈ tr ∧ row ∈ read.before.runtimes ∧ row.sandboxId = id := by
  have hmem : ⟨.api (.findRuntime (.bySandboxId id)), some row⟩ ∈
      Pool.transcript gatewayBackend i tr := by
    rw [hu]
    exact List.mem_map_of_mem hrow
  obtain ⟨ev, hev, hanswered⟩ := Pool.mem_transcript.mp hmem
  obtain ⟨s, a, s', rfl, hact⟩ := Pool.answered_eq_some.mp hanswered
  simp only [gatewayBackend, gatewayAct, act, Option.some.injEq, Prod.mk.injEq] at hact
  obtain ⟨hstored, hselects⟩ := pickRow_some hact.1
  exact ⟨_, hev, hstored, by simpa [RuntimeQuery.selects] using hselects⟩

/-- **One step.** A party keeps to what was granted. -/
theorem SessionsGranted.step [DecidableEq ι] (h : SessionsGranted api parties s₀ tr s)
    (hmay : (parties i).rule api cfg (Pool.transcript gatewayBackend i tr) op)
    (hact : gatewayAct op a s = some (r, s')) :
    SessionsGranted api parties s₀ (tr ++ [(i, ⟨s, op, a⟩)]) s' := by
  intro key entry hentry
  have hold : s.sessions key = some entry → s₀.sessions key = some entry ∨
      Granted api parties (tr ++ [(i, ⟨s, op, a⟩)]) key entry :=
    fun hs => (h key entry hs).imp_right fun hgranted =>
      hgranted.mono (List.subset_append_left _ _)
  cases op with
  | api op =>
    rcases act_sessionMap hact with hsame | ⟨segment, rfl, hsessions⟩
    · exact hold (hsame ▸ hentry)
    -- a segment over the map: a connection only looks up, a request keeps to `SessionRule`
    · rw [hsessions] at hentry
      cases hparty : parties i with
      | connection =>
        rw [hparty] at hmay
        obtain ⟨key', hkey' | hkey'⟩ := hmay
        · cases hkey'
        · rw [Request.sessions.inj hkey'] at hentry
          exact hold (takesAway_validate key' _ _ _ _ hentry)
      | request req =>
        rw [hparty] at hmay
        obtain ⟨u, op', hu, hop, hrule⟩ := hmay
        rcases hrule segment (GatewayRequest.api.inj hop).symm with haway |
          ⟨body, id, row, binding, htrusted, hroute, hid, hrow, hbinding, rfl⟩
        · exact hold (haway _ _ _ _ hentry)
        · simp only [createSegment, Function.update_apply] at hentry
          split_ifs at hentry with hkey
          · obtain ⟨read, hread, hstored, hrowid⟩ := exists_read hu hrow
            refine Or.inr ⟨i, req, body, row, binding, read, _, hparty, htrusted, hroute,
              List.mem_append_left _ hread, hstored, hrowid ▸ hid, hbinding,
              List.mem_append_right _ List.mem_cons_self, hkey,
              (Option.some.inj hentry).symm⟩
          · exact hold (Option.filter_eq_some_iff.mp hentry).1
  | handshake | send | receive | now | dial | serve | close =>
    cases hact
    exact hold hentry

variable [DecidableEq ι] {c : Pool gatewayRequests ServiceError PartyEnd World ι}

/-- What holds of every run: each step is answered and finds granted sessions only, and every party
has kept to its rule. -/
theorem bridging_spec (hrun : Bridging api cfg parties s₀ tr c) :
    (∀ pre x rest, tr = pre ++ x :: rest → SessionsGranted api parties s₀ pre x.2.before ∧
      ∃ r s', gatewayAct x.2.op x.2.answer x.2.before = some (r, s')) ∧
    (∀ i, Prog.Ruled ((parties i).rule api cfg) (Pool.transcript gatewayBackend i tr)) ∧
    ∀ i, (c.thread i).Follows ((parties i).rule api cfg) ((parties i).post api cfg)
      (Pool.transcript gatewayBackend i tr) := by
  have hspec := Pool.Run.every_step (J := SessionsGranted api parties s₀)
    (P := fun pre _ ev => SessionsGranted api parties s₀ pre ev.before ∧
      ∃ r s', gatewayAct ev.op ev.answer ev.before = some (r, s'))
    (fun i => (parties i).follows api cfg) (fun key entry h => Or.inl h)
    (fun tr s i op a r s' hgranted _ _ hact hmay =>
      ⟨hgranted.step hmay hact, hgranted, r, s', hact⟩) hrun
  exact ⟨hspec.1.2, hspec.2⟩

/-- A request with its answer is in the transcript of a party if the party took that step. -/
theorem mem_answered :
    ⟨op, r⟩ ∈ Pool.transcript gatewayBackend i tr ↔
      ∃ s a s', (i, ⟨s, op, a⟩) ∈ tr ∧ gatewayAct op a s = some (r, s') := by
  rw [Pool.mem_transcript]
  constructor
  · rintro ⟨ev, hev, hanswered⟩
    obtain ⟨s, a, s', rfl, hact⟩ := Pool.answered_eq_some.mp hanswered
    exact ⟨s, a, s', hev, hact⟩
  · rintro ⟨s, a, s', hev, hact⟩
    exact ⟨_, hev, Pool.answered_eq_some.mpr ⟨s, a, s', rfl, hact⟩⟩

/-- The session of an entry, as `validateSession` returns it. -/
def resultOf (entry : SessionEntry) : SshValidateResult :=
  ⟨entry.sandboxId, entry.hostPort, entry.expiresAt⟩

/-- A session is found in the map if it is there, has not expired, and its expiry is a date. -/
theorem validateSegment_found {key : String} {draw : SessionDraw} {sessions : SessionMap}
    {result : SshValidateResult} :
    (validateSegment key draw sessions).1 = .ok (.validated (some result)) ↔
      ∃ entry, sessions key = some entry ∧ draw.now ≤ entry.expiresAt ∧
        (entry.expiresAt ≤ maxDate ∧ -maxDate ≤ entry.expiresAt) ∧ result = resultOf entry := by
  unfold validateSegment
  cases sessions key with
  | none => simp
  | some entry =>
    -- at the expiry itself the session still counts
    by_cases hexpired : draw.now > entry.expiresAt
    · simp only [if_pos hexpired]
      constructor
      · intro h
        cases h
      · rintro ⟨_, hentry, hlive, -⟩
        cases hentry
        omega
    · simp only [if_neg hexpired, SshSession.toISOString]
      -- `toISOString` throws beyond the range of dates
      by_cases hdate : entry.expiresAt ≤ maxDate ∧ -maxDate ≤ entry.expiresAt
      · rw [if_pos hdate]
        constructor
        · intro h
          cases h
          exact ⟨entry, rfl, by omega, hdate, rfl⟩
        · rintro ⟨_, hentry, -, -, rfl⟩
          cases hentry
          rfl
      · rw [if_neg hdate]
        constructor
        · intro h
          cases h
        · rintro ⟨_, hentry, -, hdate', -⟩
          cases hentry
          exact absurd hdate' hdate

/-- Connection `i` has found the session of its client's token: it was not revoked when the table
was read, and stored and not expired when the map was. -/
def FoundLive (api : ApiConfig) (tr : GatewayHistory ι) (i : ι) (user : List UInt8)
    (entry : SessionEntry) : Prop :=
  (∃ start, (i, start) ∈ tr ∧ start.op = .handshake ∧ start.answer.user = some user) ∧
  (∃ revoked, (i, revoked) ∈ tr ∧
    revoked.op = .api (.findRevokedSession (sessionKey api user)) ∧
    sessionKey api user ∉ revoked.before.revokedSessions) ∧
  ∃ lookup, (i, lookup) ∈ tr ∧
    lookup.op = .api (.sessions (validateSegment (sessionKey api user))) ∧
    lookup.before.sessions (sessionKey api user) = some entry ∧
    lookup.answer.api.time ≤ entry.expiresAt

/-- The user name of a client is the one the environment gave at its handshake. -/
theorem mem_handshake {user : Option (List UInt8)} :
    ⟨.handshake, user⟩ ∈ Pool.transcript gatewayBackend i tr ↔
      ∃ start, (i, start) ∈ tr ∧ start.op = .handshake ∧ start.answer.user = user := by
  rw [mem_answered]
  constructor
  · rintro ⟨s, a, s', hev, hact⟩
    cases hact
    exact ⟨_, hev, rfl, rfl⟩
  · rintro ⟨⟨s, op, a⟩, hev, rfl, rfl⟩
    exact ⟨s, a, s, hev, rfl⟩

/-- A key that was found not revoked was not in the table when the table was read. -/
theorem mem_notRevoked {key : String} :
    ⟨.api (.findRevokedSession key), false⟩ ∈ Pool.transcript gatewayBackend i tr ↔
      ∃ revoked, (i, revoked) ∈ tr ∧ revoked.op = .api (.findRevokedSession key) ∧
        key ∉ revoked.before.revokedSessions := by
  rw [mem_answered]
  constructor
  · rintro ⟨s, a, s', hev, hact⟩
    simp only [gatewayAct, act, Option.some.injEq, Prod.mk.injEq, List.contains_eq_mem,
      decide_eq_false_iff_not] at hact
    exact ⟨_, hev, rfl, hact.1⟩
  · rintro ⟨⟨s, op, a⟩, hev, rfl, hrevoked⟩
    exact ⟨s, a, s, hev, by simpa [gatewayAct, act] using hrevoked⟩

/-- A segment over the map that was answered saw the map of its step. -/
theorem mem_found {key : String} {result : SshValidateResult} :
    ⟨.api (.sessions (validateSegment key)), .ok (.validated (some result))⟩ ∈
        Pool.transcript gatewayBackend i tr →
      ∃ lookup entry, (i, lookup) ∈ tr ∧ lookup.op = .api (.sessions (validateSegment key)) ∧
        lookup.before.sessions key = some entry ∧ lookup.answer.api.time ≤ entry.expiresAt ∧
        result = resultOf entry := by
  rw [mem_answered]
  rintro ⟨s, a, s', hev, hact⟩
  simp only [gatewayAct, act] at hact
  split_ifs at hact
  simp only [Option.some.injEq, Prod.mk.injEq] at hact
  obtain ⟨entry, hentry, hlive, -, hresult⟩ := validateSegment_found.mp hact.1
  exact ⟨_, entry, hev, rfl, hentry, hlive, hresult⟩

/-- What a connection has traced was there: not revoked at the first of its two reads, and stored
and not expired at the second. Between the two anything may have happened. -/
theorem FoundLive.of_traced {user : List UInt8} {result : SshValidateResult}
    (h : Traced api (Pool.transcript gatewayBackend i tr) user result) :
    ∃ entry, FoundLive api tr i user entry ∧ result = resultOf entry := by
  obtain ⟨hstart, hfound⟩ := h
  simp only [asked, found, List.map_cons, List.map_nil, List.cons_subset, List.nil_subset,
    and_true] at hfound
  obtain ⟨lookup, entry, hlookup, hop, hentry, hlive, hresult⟩ := mem_found hfound.2
  exact ⟨entry, ⟨mem_handshake.mp hstart, mem_notRevoked.mp hfound.1, lookup, hlookup, hop, hentry,
    hlive⟩, hresult⟩

/-- What the connection found is in its transcript, if every step of the run was answered. -/
theorem FoundLive.traced {user : List UInt8} {entry : SessionEntry}
    (h : FoundLive api tr i user entry)
    (hserved : ∀ ev, (i, ev) ∈ tr → ∃ r s', gatewayAct ev.op ev.answer ev.before = some (r, s'))
    (hyear : HasYear entry.expiresAt) :
    Traced api (Pool.transcript gatewayBackend i tr) user (resultOf entry) := by
  obtain ⟨hstart, hrevoked, ⟨s, op, a⟩, hlookup, rfl, hentry, hlive⟩ := h
  refine ⟨mem_handshake.mpr hstart, ?_⟩
  simp only [asked, found, List.map_cons, List.map_nil, List.cons_subset, List.nil_subset,
    and_true]
  refine ⟨mem_notRevoked.mpr hrevoked, mem_answered.mpr ?_⟩
  obtain ⟨r, s', hact⟩ := hserved _ hlookup
  refine ⟨s, a, s', hlookup, ?_⟩
  -- a year of four digits is well within that range
  have hreply : (validateSegment (sessionKey api user) ⟨a.api.time, a.api.later, a.api.random⟩
      s.sessions).1 = .ok (.validated (some (resultOf entry))) := by
    refine validateSegment_found.mpr ⟨entry, hentry, hlive, ?_, rfl⟩
    unfold HasYear at hyear
    unfold maxDate
    omega
  simp only [gatewayAct, act] at hact ⊢
  split_ifs at hact ⊢
  rw [hreply] at hact ⊢
  simp only [Option.some.injEq, Prod.mk.injEq] at hact ⊢
  exact ⟨trivial, hact.2⟩

/-- The clock of the gateway has not been seen at the expiry. -/
def BeforeExpiry (tr : GatewayHistory ι) (i : ι) (entry : SessionEntry) : Prop :=
  ∀ clock, (i, clock) ∈ tr → clock.op = .now → clock.answer.clock < entry.expiresAt * 1000000

/-- Every answer of the API came back in time. -/
def Arrived (tr : GatewayHistory ι) (i : ι) : Prop :=
  ∀ ev, (i, ev) ∈ tr → ev.op = .receive → ev.answer.arrives = true

end Runs

/-! ## A session that is asked for and used

One run in which the rule for entering a session and the rule for dialling both apply: a request
with the API token creates a session, and then a client that gives its token is connected. -/

/-- A running sandbox whose SSH port is published. -/
def sshSandbox : World :=
  World.only { bareRow "a" with portBindings := [⟨some "ssh", 22, 31000, .tcp, false⟩] }

/-- Somebody with the API token asks for a session. All others are connections of the gateway. -/
def sessionAndConnections : Nat → Party
  | 0 => .request ⟨some (.single "Bearer internal"), .createSession ⟨"a", none⟩⟩
  | _ => .connection

/-- A gateway that has the API key of `closedApi`. -/
def internalGateway : GatewayConfig := ⟨"internal", 600⟩

/-- A run in which the session is created, and a client that gives its token is connected. -/
theorem exists_connected : ∃ tr c,
    Bridging closedApi internalGateway sessionAndConnections sshSandbox tr c ∧
      (c.thread 1).outcome ≠ none ∧ ∃ pre ev rest, tr = pre ++ (1, ev) :: rest ∧
        ev.op = .dial "127.0.0.1:31000".toList := by
  obtain ⟨tr, c, hrun, hfound⟩ := Pool.exists_run_of_schedule (h := gatewayBackend)
    (List.replicate 2 ((0 : Nat), {}) ++
      List.replicate 10 (1, { user := some (encodeUtf8 "0123456789abcdef".toList) }))
    (fun tr (c : Pool gatewayRequests ServiceError PartyEnd World Nat) =>
      (c.thread 1).outcome.isSome && tr.any fun x => x.1 == 1 && match x.2.op with
        | .dial address => address == "127.0.0.1:31000".toList
        | _ => false)
    (show (Pool.schedule gatewayBackend _ (meeting closedApi internalGateway sessionAndConnections
      sshSandbox)).any _ = true by decide +kernel)
  -- the check that was evaluated says that the connection has ended, and that a step of the run is
  -- its dial
  rw [Bool.and_eq_true, List.any_eq_true] at hfound
  obtain ⟨hended, ⟨i, ev⟩, hev, hdial⟩ := hfound
  rw [Bool.and_eq_true, beq_iff_eq] at hdial
  obtain ⟨rfl, hdial⟩ := hdial
  obtain ⟨pre, rest, htr⟩ := List.append_of_mem hev
  refine ⟨tr, c, hrun, Option.isSome_iff_ne_none.mp hended, pre, ev, rest, htr, ?_⟩
  split at hdial
  · rename_i address hop
    rw [hop, eq_of_beq hdial]
  · cases hdial

/-! ## Whom the gateway connects

The two main results. The first bounds what the gateway may dial, in every run and at every step;
the second says of a connection that has ended whether it did dial. -/

section Main

variable {ι : Type} [DecidableEq ι]

/-- **Whom the gateway connects.** However connections and requests on the routes of `Route`
interleave, from any state: a connection dials only the host port of a session that was stored under
its client's token, not revoked, and not expired by either clock; and that session was there at the
start, or a request with the API token entered it for the SSH port of a runtime it had read. -/
theorem dialled_port_was_granted (api : ApiConfig) (cfg : GatewayConfig) (parties : ι → Party)
    (s₀ : World) {tr : GatewayHistory ι} {c : Pool gatewayRequests ServiceError PartyEnd World ι}
    (hrun : Bridging api cfg parties s₀ tr c) {i : ι} {pre rest : GatewayHistory ι}
    {ev : Event gatewayRequests World GatewayAnswer} (htr : tr = pre ++ (i, ev) :: rest)
    {address : List Char} (hdial : ev.op = .dial address) :
    ∃ user entry, FoundLive api pre i user entry ∧
      (∃ clock, (i, clock) ∈ pre ∧ clock.op = .now ∧
        clock.answer.clock < entry.expiresAt * 1000000) ∧
      address = sandboxAddr entry.hostPort ∧
      (s₀.sessions (sessionKey api user) = some entry ∨
        Granted api parties pre (sessionKey api user) entry) := by
  obtain ⟨hsteps, hruled, -⟩ := bridging_spec hrun
  obtain ⟨s, op, a⟩ := ev
  obtain rfl : op = .dial address := hdial
  have htranscript : Pool.transcript gatewayBackend i tr =
      Pool.transcript gatewayBackend i pre ++
        ⟨.dial address, a.connects⟩ :: Pool.transcript gatewayBackend i rest := by
    rw [htr, Pool.transcript_append]
    simp [Pool.transcript, Pool.answered, gatewayBackend, gatewayAct]
  -- the rule of the party at the moment of the dial: only a connection dials, and only when
  -- admitted
  have hmay := hruled i _ _ _ htranscript
  cases hparty : parties i with
  | request req =>
    rw [hparty] at hmay
    obtain ⟨u, op', -, hop, -⟩ := hmay
    cases hop
  | connection =>
    rw [hparty] at hmay
    obtain ⟨result, ⟨user, now, hlooked, -, htakes, hnow⟩, haddress⟩ := hmay
    have htraced : Traced api (Pool.transcript gatewayBackend i pre) user result := by
      rw [hlooked]
      exact traced_looked.mpr ⟨rfl, List.Subset.refl _⟩
    obtain ⟨entry, hfound, rfl⟩ := FoundLive.of_traced htraced
    have hclock : ⟨.now, now⟩ ∈ Pool.transcript gatewayBackend i pre := by
      rw [hlooked]
      exact List.mem_append_right _ List.mem_cons_self
    obtain ⟨s', a', s'', hread, hact⟩ := mem_answered.mp hclock
    cases hact
    refine ⟨user, entry, hfound, ⟨_, hread, rfl, hnow⟩, haddress, ?_⟩
    obtain ⟨-, -, lookup, hlookup, -, hentry, -⟩ := hfound
    -- the invariant holds before the lookup too, and what was granted by then is granted by the
    -- dial
    obtain ⟨pre', rest', hpre⟩ := List.append_of_mem hlookup
    have hgranted := (hsteps pre' (i, lookup) (rest' ++ (i, ⟨s, .dial address, a⟩) :: rest)
      (by rw [htr, hpre, List.append_assoc, List.cons_append])).1
    refine (hgranted _ entry hentry).imp_right fun h => h.mono ?_
    rw [hpre]
    exact List.subset_append_left _ _

/-- A session is created, and its client is connected to the SSH port of the sandbox. -/
theorem created_session_dialled : ∃ tr c pre ev rest user entry,
    Bridging closedApi internalGateway sessionAndConnections sshSandbox tr c ∧
      tr = pre ++ (1, ev) :: rest ∧ ev.op = .dial "127.0.0.1:31000".toList ∧
      FoundLive closedApi pre 1 user entry ∧
      Granted closedApi sessionAndConnections pre (sessionKey closedApi user) entry := by
  obtain ⟨tr, c, hrun, -, pre, ev, rest, htr, hdial⟩ := exists_connected
  obtain ⟨user, entry, hfound, -, -, hstart | hgranted⟩ := dialled_port_was_granted closedApi
    internalGateway sessionAndConnections sshSandbox hrun htr hdial
  · cases hstart
  · exact ⟨tr, c, pre, ev, rest, user, entry, hrun, htr, hdial, hfound, hgranted⟩

/-- **Whom the gateway has to connect.** A connection that has ended did dial exactly when the API
takes the gateway's key, the answer came in time, and the client's token was that of a session found
live, on a port that is one, whose expiry was still to come and has a year of four digits. Either way
all that was opened is closed. -/
theorem connection_dials_iff (api : ApiConfig) (cfg : GatewayConfig) (parties : ι → Party)
    (s₀ : World) {tr : GatewayHistory ι} {c : Pool gatewayRequests ServiceError PartyEnd World ι}
    (hrun : Bridging api cfg parties s₀ tr c) {i : ι} (hparty : parties i = .connection)
    (hended : (c.thread i).outcome ≠ none) :
    ((∃ ev address, (i, ev) ∈ tr ∧ ev.op = .dial address) ↔
      Authorised api cfg ∧ Arrived tr i ∧ ∃ user entry, FoundLive api tr i user entry ∧
        Takes (resultOf entry) ∧ BeforeExpiry tr i entry) ∧
    ClosedAll (Pool.transcript gatewayBackend i tr) := by
  obtain ⟨hsteps, -, hfollows⟩ := bridging_spec hrun
  obtain ⟨x, hx⟩ := Option.ne_none_iff_exists'.mp hended
  have hpost := (hfollows i).outcome hx
  rw [hparty] at hpost
  obtain ⟨hiff, hclosed⟩ := hpost
  -- every step of the run was answered, so what the connection found is in its transcript
  have hserved : ∀ ev, (i, ev) ∈ tr →
      ∃ r s', gatewayAct ev.op ev.answer ev.before = some (r, s') := by
    intro ev hev
    obtain ⟨pre, rest, htr⟩ := List.append_of_mem hev
    exact (hsteps pre (i, ev) rest htr).2
  refine ⟨?_, hclosed⟩
  -- the four facts of the statement are about steps of the run, `ConnectionPost` is about the
  -- transcript
  have hdialled : (∃ ev address, (i, ev) ∈ tr ∧ ev.op = .dial address) ↔
      Dialled (Pool.transcript gatewayBackend i tr) := by
    constructor
    · rintro ⟨⟨s, op, a⟩, address, hev, rfl⟩
      exact ⟨address, a.connects, mem_answered.mpr ⟨s, a, s, hev, rfl⟩⟩
    · rintro ⟨address, connected, hmem⟩
      obtain ⟨s, a, s', hev, -⟩ := mem_answered.mp hmem
      exact ⟨_, address, hev, rfl⟩
  have harrived : Arrived tr i ↔
      ∀ arrived, ⟨.receive, arrived⟩ ∈ Pool.transcript gatewayBackend i tr → arrived = true := by
    constructor
    · intro h arrived hmem
      obtain ⟨s, a, s', hev, hact⟩ := mem_answered.mp hmem
      cases hact
      exact h _ hev rfl
    · rintro h ⟨s, op, a⟩ hev rfl
      exact h a.arrives (mem_answered.mpr ⟨s, a, s, hev, rfl⟩)
  have hbefore : ∀ entry, BeforeExpiry tr i entry ↔
      ∀ now, ⟨.now, now⟩ ∈ Pool.transcript gatewayBackend i tr → now < expiryNs (resultOf entry) := by
    intro entry
    constructor
    · intro h now hmem
      obtain ⟨s, a, s', hev, hact⟩ := mem_answered.mp hmem
      cases hact
      exact h _ hev rfl
    · rintro h ⟨s, op, a⟩ hev rfl
      exact h a.clock (mem_answered.mpr ⟨s, a, s, hev, rfl⟩)
  rw [hdialled, hiff, harrived]
  refine and_congr_right fun _ => ?_
  constructor
  · rintro ⟨user, result, htraced, htakes, hanswer, hclock⟩
    obtain ⟨entry, hfound, rfl⟩ := FoundLive.of_traced htraced
    exact ⟨hanswer, user, entry, hfound, htakes, (hbefore entry).mpr hclock⟩
  · rintro ⟨hanswer, user, entry, hfound, htakes, hclock⟩
    exact ⟨user, resultOf entry, hfound.traced hserved htakes.2.2, htakes, hanswer,
      (hbefore entry).mp hclock⟩

/-- The client of that session was found live, and all is closed after it. -/
theorem connected_client_closed : ∃ tr c user entry,
    Bridging closedApi internalGateway sessionAndConnections sshSandbox tr c ∧
      FoundLive closedApi tr 1 user entry ∧ Takes (resultOf entry) ∧
      ClosedAll (Pool.transcript gatewayBackend 1 tr) := by
  obtain ⟨tr, c, hrun, hended, pre, ev, rest, htr, hdial⟩ := exists_connected
  obtain ⟨hiff, hclosed⟩ := connection_dials_iff closedApi internalGateway sessionAndConnections
    sshSandbox hrun (i := 1) rfl hended
  have hmem : (1, ev) ∈ tr := by
    rw [htr]
    exact List.mem_append_right _ List.mem_cons_self
  obtain ⟨-, -, user, entry, hfound, htakes, -⟩ := hiff.mp ⟨ev, _, hmem, hdial⟩
  exact ⟨tr, c, user, entry, hrun, hfound, htakes, hclosed⟩

end Main

end SshGateway

end Microsandbox
