import MicrosandboxCloud.Interleaving
import MicrosandboxCloud.Text.Uri

/-!
# Microsandbox — `ProxyService`

What the preview proxy forwards, and to which host port.

* **`extract`** — reads a request as one for a sandbox or one with a signed token.
* **`handleHttp` / `handleUpgrade`** — ask `RuntimeControlService`, then forward.
* **`Authorised`** — what a forwarded request has to show.
* **`TokensLeadHome`** — a signed token's sandbox id is looked up as an id *or a name*, so a
  runtime that has it as its name can be reached. `proxy_authorised`: requests are authorised
  exactly when that does not happen.
-/

namespace Microsandbox

open Process Data Text RuntimeControl Registry

/-! ## Requests

A request comes with a URL and headers. `extract` tells two routes apart by their segments: one with
a sandbox id and one with a signed token; everything else is passed on. -/

/-- What the proxy reads of a parsed URL. -/
structure Url where
  pathname : String
  search : String
  /-- `searchParams.get` -/
  searchParam : String → Option String

/-- `new URL(rawUrl, 'http://localhost')`. -/
abbrev UrlParser := String → Except ServiceError Url

/-- A header that was sent once or several times. -/
inductive HeaderValue where
  | single (value : String)
  | multiple (values : List String)

/-- The headers by their names in lower case. -/
abbrev Headers := String → Option HeaderValue

namespace ProxyService

/-- What is read off a request for the proxy. -/
inductive ProxyMatch where
  | standard (sandboxId : String) (port : Int) (path : String) (token : Option String)
  | signed (token : String) (port : Int) (path : String)

/-- The path to forward. -/
def ProxyMatch.path : ProxyMatch → String
  | .standard _ _ path _ => path
  | .signed _ _ path => path

/-- The header that the preview token comes in. -/
def previewTokenHeader : String := "x-microsandbox-preview-token"

/-- The header's value, or the first of its values. -/
def firstValue : Option HeaderValue → Option String
  | some (.single value) => some value
  | some (.multiple (value :: _)) => some value
  | _ => none

/-- A blank header counts as none, and then the query parameter is taken. -/
def readPreviewToken (headers : Headers) (queryToken : Option String) : Option String :=
  match trimmed (firstValue (headers previewTokenHeader)) with
  | some token => some token
  | none => trimmed queryToken

/-- The exception of `decodeURIComponent`. -/
def uriMalformed : ServiceError := ⟨.error, "URI malformed"⟩

/-- A segment of the path is decoded by itself. -/
def decode (segment : List Char) : Except ServiceError String :=
  match decodeURIComponent segment with
  | some text => .ok text
  | none => .error uriMalformed

/-- `` `${rest || '/'}${base.search}` ``. -/
def forwardedPath (base : Url) (p : PortPath) : String :=
  (if p.rest = [] then "/" else String.ofList p.rest) ++ base.search

/-- The route with a signed token. -/
def signedRoute : List Char := "/proxy/signed/".toList

/-- The route with a sandbox id. -/
def standardRoute : List Char := "/proxy/".toList

/-- The signed route is tried first. -/
def extract (parse : UrlParser) (rawUrl : String) (headers : Headers) :
    Except ServiceError (Option ProxyMatch) := do
  let base ← parse rawUrl
  match matchPortPath signedRoute base.pathname.toList with
  | some p =>
    let token ← decode p.segment
    return some (.signed token (number p.digits) (forwardedPath base p))
  | none =>
    match matchPortPath standardRoute base.pathname.toList with
    | none => return none
    | some p =>
      let sandboxId ← decode p.segment
      return some (.standard sandboxId (number p.digits) (forwardedPath base p)
        (readPreviewToken headers (base.searchParam "token")))

/-! ## Handlers

Both handlers extract, validate and forward. They differ in what becomes of a request that is on
neither route: it is answered with 404, or the socket of the upgrade is destroyed. What the checks
throw goes on to the caller. -/

/-- What becomes of a request. -/
inductive ProxyReply where
  | notFound
  | destroyed
  | forward (hostPort : Int) (path : String)

/-- Each kind of match has its own check. -/
def validate : ProxyMatch → Async (RuntimeEntity × Int)
  | .signed token port _ => validateProxyAccessBySignedToken token port
  | .standard sandboxId port _ token => validateProxyAccessBySandbox sandboxId port token

/-- The common course of both handlers; they refuse differently. -/
def handle (parse : UrlParser) (refusal : ProxyReply) (url : Option String) (headers : Headers) :
    Async ProxyReply := do
  match ← sync (extract parse (url.getD "") headers) with
  | none => return refusal
  | some m => do
    let target ← validate m
    return .forward target.2 m.path

/-- What is on neither route is not found. -/
def handleHttp (parse : UrlParser) (url : Option String) (headers : Headers) : Async ProxyReply :=
  handle parse .notFound url headers

/-- The socket of an upgrade on neither route is destroyed. -/
def handleUpgrade (parse : UrlParser) (url : Option String) (headers : Headers) :
    Async ProxyReply :=
  handle parse .destroyed url headers

/-! ## What a forwarded request shows

What it means that a forwarded request was authorised, said without the code: some stored runtime
answers to what the URL names, exposes the port on the host port that is forwarded to, and the
request may see it. -/

/-- The URL is on a route, with these parts. -/
def OnRoute (parse : UrlParser) (route : List Char) (url : Option String) (u : Url)
    (p : PortPath) : Prop :=
  parse (url.getD "") = .ok u ∧ p.Spells route u.pathname.toList

/-- The presented token: the preview header unless it is blank, else the query parameter. -/
inductive Presents (headers : Headers) (query : Option String) : String → Prop where
  | header {token : String} (h : trimmed (firstValue (headers previewTokenHeader)) = some token) :
      Presents headers query token
  | query {token : String} (hblank : trimmed (firstValue (headers previewTokenHeader)) = none)
      (h : trimmed query = some token) : Presents headers query token

/-- A request on the standard route may see the runtime: its URL names it, and the runtime is
public or the request presents its token. -/
def StandardAccess (parse : UrlParser) (url : Option String) (headers : Headers)
    (r : RuntimeEntity) (port : Int) : Prop :=
  ∃ u p id v, OnRoute parse standardRoute url u p ∧ number p.digits = port ∧
    decode p.segment = .ok id ∧ normalizeSandboxId id = .ok v ∧ AnswersTo r v ∧
    (r.isPublic = true ∨ Presents headers (u.searchParam "token") r.authToken)

/-- A request on the signed route may see the runtime: its token is stored for it and the port,
and has not expired. -/
def SignedAccess (parse : UrlParser) (s : World) (now : Int) (url : Option String)
    (r : RuntimeEntity) (port : Int) : Prop :=
  ∃ u p token, OnRoute parse signedRoute url u p ∧ number p.digits = port ∧
    decode p.segment = .ok token ∧
    ∃ record ∈ s.signedTokens, record.token = token ∧ record.port = port ∧
      now < record.expiresAt ∧ record.sandboxId = r.sandboxId

/-- Some stored runtime exposes the URL's port on the host port, and the request may see it. -/
def Authorised (parse : UrlParser) (s : World) (now : Int) (url : Option String)
    (headers : Headers) (hostPort : Int) : Prop :=
  ∃ r ∈ s.runtimes, ∃ b ∈ r.portBindings, b.hostPort = hostPort ∧
    (StandardAccess parse url headers r b.containerPort ∨
      SignedAccess parse s now url r b.containerPort)

/-- At the time `now` the handler forwards only what is authorised. -/
def Sound (parse : UrlParser) (s : World) (now : Int) (url : Option String) (headers : Headers)
    (handler : Async ProxyReply) : Prop :=
  Ensures backend (fun ev => ev.answer.time = now) handler s fun x _ =>
    ∀ hostPort path, x = .ok (.forward hostPort path) →
      Authorised parse s now url headers hostPort

/-- No valid signed token of the request leads astray: when another runtime has the token's
sandbox id as its name and exposes the port, it does so on the host port of the runtime whose id
it is. -/
def TokensLeadHome (parse : UrlParser) (s : World) (now : Int) (url : Option String) : Prop :=
  ∀ u p token, OnRoute parse signedRoute url u p → decode p.segment = .ok token →
    ∀ record ∈ s.signedTokens, record.token = token → record.port = number p.digits →
      now < record.expiresAt → ∀ v, normalizeSandboxId record.sandboxId = .ok v →
        ∀ other ∈ s.runtimes, AnswersTo other v → other.sandboxId ≠ record.sandboxId →
          ∀ b, findBinding other record.port = .ok b →
            ∃ home ∈ s.runtimes, home.sandboxId = record.sandboxId ∧
              ∃ b' ∈ home.portBindings, b'.containerPort = record.port ∧ b'.hostPort = b.hostPort

/-! ## Reading the request

The two routes are disjoint, so that the order in which they are tried does not matter. A URL is
read as what its segments say. -/

section Extract

variable {parse : UrlParser} {url : Option String} {headers : Headers}

/-- The token that is read is the one presented. -/
theorem readPreviewToken_eq_some {query : Option String} {token : String} :
    readPreviewToken headers query = some token ↔ Presents headers query token := by
  unfold readPreviewToken
  constructor
  · intro h
    split at h
    · rename_i t ht
      cases h
      exact .header ht
    · rename_i hblank
      exact .query hblank h
  · intro h
    cases h with
    | header h => rw [h]
    | query hblank h => rw [hblank]; exact h

/-- A segment that decodes is the text it decodes to. -/
theorem decode_eq_ok {segment : List Char} {text : String} :
    decode segment = .ok text ↔ decodeURIComponent segment = some text := by
  unfold decode
  split <;> rename_i h <;> simp [h]

/-- A path is never on both routes: on the standard one, `signed` would be followed by `ports`,
and the segment after it, on the signed one, by `ports` again. -/
theorem routes_disjoint {p q : PortPath} {s : List Char} (hp : p.Spells signedRoute s)
    (hq : q.Spells standardRoute s) : False := by
  have htext : standardRoute ++ ("signed".toList ++
        '/' :: (p.segment ++ '/' :: ("ports/".toList ++ (p.digits ++ p.rest)))) =
      standardRoute ++ (q.segment ++ '/' :: ("ports/".toList ++ (q.digits ++ q.rest))) :=
    hp.text.symm.trans hq.text
  have hsigned : ∀ c ∈ "signed".toList, (c != '/') = true := by simp
  have hports : ∀ c ∈ "ports".toList, (c != '/') = true := by simp
  obtain ⟨-, hafter⟩ := segment_unique hsigned hq.segment_plain (List.append_cancel_left htext)
  obtain ⟨-, hdigits⟩ := segment_unique hp.segment_plain hports hafter
  -- so the digits of the standard route would begin with the `p` of `ports`
  cases hq_digits : q.digits with
  | nil => exact hq.digits_ne hq_digits
  | cons c digits =>
    rw [hq_digits] at hdigits
    have hc : 'p' = c := (List.cons.inj hdigits).1
    have hdigit : isDigit c = true :=
      hq.digits_digit c (by rw [hq_digits]; exact List.mem_cons_self)
    rw [← hc] at hdigit
    exact absurd hdigit (by decide)

/-- What `extract` reads off a URL. -/
theorem extract_cases {m : ProxyMatch}
    (h : extract parse (url.getD "") headers = .ok (some m)) :
    (∃ u p token, OnRoute parse signedRoute url u p ∧ decode p.segment = .ok token ∧
      m = .signed token (number p.digits) (forwardedPath u p)) ∨
    ∃ u p id, OnRoute parse standardRoute url u p ∧ decode p.segment = .ok id ∧
      m = .standard id (number p.digits) (forwardedPath u p)
        (readPreviewToken headers (u.searchParam "token")) := by
  unfold extract at h
  cases hparse : parse (url.getD "") with
  -- the id or the token has a malformed escape
  | error e =>
    rw [hparse] at h
    cases h
  | ok u =>
    rw [hparse] at h
    -- the signed route is tried first
    cases hsigned : matchPortPath signedRoute u.pathname.toList with
    | some p =>
      simp only [bind, Except.bind, hsigned] at h
      cases hdecode : decode p.segment with
      | error e =>
        rw [hdecode] at h
        cases h
      | ok token =>
        rw [hdecode] at h
        cases h
        exact Or.inl ⟨u, p, token, ⟨hparse, matchPortPath_eq_some.mp hsigned⟩, hdecode, rfl⟩
    | none =>
      cases hstandard : matchPortPath standardRoute u.pathname.toList with
      | none =>
        simp only [bind, Except.bind, hsigned, hstandard] at h
        cases h
      | some p =>
        simp only [bind, Except.bind, hsigned, hstandard] at h
        cases hdecode : decode p.segment with
        | error e =>
          rw [hdecode] at h
          cases h
        | ok id =>
          rw [hdecode] at h
          cases h
          exact Or.inr ⟨u, p, id, ⟨hparse, matchPortPath_eq_some.mp hstandard⟩, hdecode, rfl⟩

/-- A URL on the signed route is read as such. -/
theorem extract_of_signed {u : Url} {p : PortPath} {token : String}
    (hroute : OnRoute parse signedRoute url u p) (hdecode : decode p.segment = .ok token) :
    extract parse (url.getD "") headers =
      .ok (some (.signed token (number p.digits) (forwardedPath u p))) := by
  obtain ⟨hparse, hspells⟩ := hroute
  unfold extract
  rw [hparse]
  simp only [bind, Except.bind, matchPortPath_eq_some.mpr hspells, hdecode]
  rfl

/-- A URL on the standard route is read as such. -/
theorem extract_of_standard {u : Url} {p : PortPath} {id : String}
    (hroute : OnRoute parse standardRoute url u p) (hdecode : decode p.segment = .ok id) :
    extract parse (url.getD "") headers =
      .ok (some (.standard id (number p.digits) (forwardedPath u p)
        (readPreviewToken headers (u.searchParam "token")))) := by
  obtain ⟨hparse, hspells⟩ := hroute
  have hsigned : matchPortPath signedRoute u.pathname.toList = none := by
    cases hmatch : matchPortPath signedRoute u.pathname.toList with
    | none => rfl
    | some q => exact (routes_disjoint (matchPortPath_eq_some.mp hmatch) hspells).elim
  unfold extract
  rw [hparse]
  simp only [bind, Except.bind, hsigned, matchPortPath_eq_some.mpr hspells, hdecode]
  rfl

end Extract

/-! ## What the handlers forward

The checks of `RuntimeControlService` as specifications: what they return when they return. A valid
signed token leads to any runtime that answers to its sandbox id, by id or by name. -/

section Handlers

variable {parse : UrlParser} {s : World} {now : Int} {url : Option String} {headers : Headers}

/-- A binding that is found is of the port. -/
theorem findBinding_eq_ok {r : RuntimeEntity} {port : Int} {b : RuntimePortBindingRecord}
    (h : findBinding r port = .ok b) : b ∈ r.portBindings ∧ b.containerPort = port := by
  unfold findBinding at h
  split at h
  · cases h
  · rename_i b' hfind
    cases h
    exact ⟨List.mem_of_find?_eq_some hfind, by simpa using List.find?_some hfind⟩

/-- The target is the host port of a binding. -/
theorem resolveProxyTarget_eq_ok {r : RuntimeEntity} {port : Int} {target : RuntimeEntity × Int}
    (h : resolveProxyTarget r port = .ok target) :
    ∃ b, findBinding r port = .ok b ∧ target = (r, b.hostPort) := by
  unfold resolveProxyTarget at h
  cases hfind : findBinding r port with
  | error e =>
    rw [hfind] at h
    cases h
  | ok b =>
    rw [hfind] at h
    cases h
    exact ⟨b, rfl, rfl⟩

/-- The target of a standard request answers to the id, exposes the port, and is public or has the
token. -/
theorem validateProxyAccessBySandbox_spec (sandboxId : String) (port : Int)
    (token : Option String) :
    Ensures backend (fun ev => ev.answer.time = now)
      (validateProxyAccessBySandbox sandboxId port token) s fun x _ =>
        ∀ target, x = .ok target → ∃ v b, normalizeSandboxId sandboxId = .ok v ∧
          target.1 ∈ s.runtimes ∧ AnswersTo target.1 v ∧ findBinding target.1 port = .ok b ∧
          target.2 = b.hostPort ∧ (target.1.isPublic = true ∨ token = some target.1.authToken) := by
  unfold validateProxyAccessBySandbox
  refine ensures_requireRuntime (fun v hv row hrow hanswers => ?_) fun e target h => by cases h
  split_ifs with hdenied
  · refine Ensures.throw fun target h => by cases h
  · refine Ensures.ofExcept fun target htarget => ?_
    obtain ⟨b, hb, rfl⟩ := resolveProxyTarget_eq_ok htarget
    refine ⟨v, b, hv, hrow, hanswers, hb, rfl, ?_⟩
    -- who was not denied reads a public runtime or has its token
    cases token with
    | none => simpa using hdenied
    | some t =>
      cases hpublic : row.isPublic with
      | true => exact Or.inl rfl
      | false =>
        simp only [hpublic, Bool.not_false, Bool.true_and, Option.any_some, tokensEqual,
          Bool.not_eq_true', Bool.not_eq_false, Bool.and_eq_true, beq_iff_eq] at hdenied
        exact Or.inr (by rw [hdenied.2])

/-- The target of a signed request answers to the sandbox id of a valid record. -/
theorem validateProxyAccessBySignedToken_spec (token : String) (port : Int) :
    Ensures backend (fun ev => ev.answer.time = now)
      (validateProxyAccessBySignedToken token port) s fun x _ =>
        ∀ target, x = .ok target → ∃ record ∈ s.signedTokens, record.token = token ∧
          record.port = port ∧ now < record.expiresAt ∧
          ∃ v b, normalizeSandboxId record.sandboxId = .ok v ∧ target.1 ∈ s.runtimes ∧
            AnswersTo target.1 v ∧ findBinding target.1 port = .ok b ∧
            target.2 = b.hostPort := by
  unfold validateProxyAccessBySignedToken resolveSignedPreviewToken getSignedPreviewToken
    hasSignedPreviewTokenExpired
  simp only [Prog.bind_assoc]
  refine ensures_findSignedToken (fun record hrecord htoken hport => ?_) ?_
  · simp only [Prog.bind_assoc]
    refine ensures_now fun a htime => ?_
    have htime : a.time = now := htime
    simp only [Prog.pure_eq, Prog.pure_bind, decide_eq_true_eq, htime]
    -- an expired token is deleted before the request is refused
    split_ifs with hexpired
    · simp only [expireSignedPreviewToken, Prog.bind_assoc]
      exact ensures_deleteSignedTokens (Ensures.throw fun target h => by cases h)
    · simp only [Prog.pure_bind]
      refine ensures_requireRuntime (fun v hv row hrow hanswers => ?_) fun e target h => by cases h
      refine Ensures.ofExcept fun target htarget => ?_
      obtain ⟨b, hb, rfl⟩ := resolveProxyTarget_eq_ok htarget
      exact ⟨record, hrecord, htoken, hport, by omega, v, b, hv, hrow, hanswers, hb, rfl⟩
  · exact Ensures.throw fun target h => by cases h

/-- What a match may be forwarded to. -/
theorem validate_spec {m : ProxyMatch} (hhome : TokensLeadHome parse s now url)
    (hmatch : extract parse (url.getD "") headers = .ok (some m)) :
    Ensures backend (fun ev => ev.answer.time = now) (validate m) s fun x _ =>
      ∀ target, x = .ok target → Authorised parse s now url headers target.2 := by
  rcases extract_cases hmatch with ⟨u, p, token, hroute, hdecode, rfl⟩ |
    ⟨u, p, id, hroute, hdecode, rfl⟩
  · refine (validateProxyAccessBySignedToken_spec token (number p.digits)).mono
      fun x _ h target hx => ?_
    obtain ⟨record, hrecord, htoken, hport, hvalid, v, b, hv, hrow, hanswers, hb, htarget⟩ :=
      h target hx
    obtain ⟨hmem, hcontainer⟩ := findBinding_eq_ok hb
    rw [htarget]
    -- the runtime found is the token's own, or the token's own has the same host port
    by_cases hown : target.1.sandboxId = record.sandboxId
    · refine ⟨target.1, hrow, b, hmem, rfl, Or.inr ⟨u, p, token, hroute, hcontainer.symm,
        hdecode, record, hrecord, htoken, ?_, hvalid, hown.symm⟩⟩
      rw [hcontainer, hport]
    · rw [← hport] at hb
      obtain ⟨home, hmemHome, hid, b', hb', hcontainer', hsame⟩ :=
        hhome u p token hroute hdecode record hrecord htoken hport hvalid v hv target.1 hrow
          hanswers hown b hb
      refine ⟨home, hmemHome, b', hb', hsame, Or.inr ⟨u, p, token, hroute, ?_, hdecode, record,
        hrecord, htoken, hcontainer'.symm, hvalid, hid.symm⟩⟩
      rw [hcontainer', hport]
  · refine (validateProxyAccessBySandbox_spec id (number p.digits)
      (readPreviewToken headers (u.searchParam "token"))).mono fun x _ h target hx => ?_
    obtain ⟨v, b, hv, hrow, hanswers, hb, htarget, haccess⟩ := h target hx
    obtain ⟨hmem, hcontainer⟩ := findBinding_eq_ok hb
    rw [htarget]
    exact ⟨target.1, hrow, b, hmem, rfl, Or.inl ⟨u, p, id, v, hroute, hcontainer.symm, hdecode, hv,
      hanswers, haccess.imp_right readPreviewToken_eq_some.mp⟩⟩

/-- A handler that does not forward by itself forwards what is authorised. -/
theorem handle_sound {refusal : ProxyReply} (hrefusal : ∀ port path, refusal ≠ .forward port path)
    (hhome : TokensLeadHome parse s now url) :
    Sound parse s now url headers (handle parse refusal url headers) := by
  unfold Sound handle
  refine ensures_sync (fun found hfound => ?_) fun e _ hostPort path h => by cases h
  cases found with
  | none =>
    refine Ensures.pure fun hostPort path h => ?_
    exact absurd (Except.ok.inj h) (hrefusal hostPort path)
  | some m =>
    refine Ensures.bind ((validate_spec hhome hfound).mono fun x s' h => ?_)
    cases x with
    | error e => exact fun hostPort path h => by cases h
    | ok target =>
      refine Ensures.pure fun hostPort path hreply => ?_
      cases hreply
      exact h target rfl

/-- A valid signed token can be forwarded to any runtime that answers to its sandbox id. -/
theorem handle_forwards (headers : Headers) (refusal : ProxyReply) {u : Url} {p : PortPath}
    {token v : String}
    {record : SignedPreviewTokenEntity} {other : RuntimeEntity} {b : RuntimePortBindingRecord}
    (hroute : OnRoute parse signedRoute url u p) (hdecode : decode p.segment = .ok token)
    (hrecord : record ∈ s.signedTokens) (htoken : record.token = token)
    (hport : record.port = number p.digits) (hvalid : now < record.expiresAt)
    (hv : normalizeSandboxId record.sandboxId = .ok v) (hother : other ∈ s.runtimes)
    (hanswers : AnswersTo other v) (hb : findBinding other record.port = .ok b) :
    ∃ tr path, (∀ ev ∈ tr, ev.answer.time = now) ∧
      Exec backend (handle parse refusal url headers) s tr (.ok (.forward b.hostPort path)) s := by
  have hselects : (SignedTokenQuery.byTokenPort token (number p.digits)).selects record = true := by
    simp [SignedTokenQuery.selects, htoken, hport]
  have hnames : (RuntimeQuery.bySandboxIdOrName v).selects other = true := by
    simpa [RuntimeQuery.selects, AnswersTo] using hanswers
  obtain ⟨pick, hpick⟩ := exists_pickRow hrecord hselects
  obtain ⟨pick', hpick'⟩ := exists_pickRow hother hnames
  have hfind : backend.act (.findSignedToken token (number p.digits))
      { pick := pick, time := now } s = some (some record, s) := by
    simp only [backend, act, hpick]
  have hnow : backend.act .now { time := now } s = some (now, s) := rfl
  have hlookup : backend.act (.findRuntime (.bySandboxIdOrName v))
      { pick := pick', time := now } s = some (some other, s) := by
    simp only [backend, act, hpick']
  have hexpired : decide (record.expiresAt ≤ now) = false := by simpa using hvalid
  rw [hport] at hb
  -- the handler looks at the token, the clock and the runtimes, in this order
  have hexec : Exec backend (handle parse refusal url headers) s
      [⟨s, Request.findSignedToken token (number p.digits), { pick := pick, time := now }⟩,
        ⟨s, Request.now, { time := now }⟩,
        ⟨s, Request.findRuntime (.bySandboxIdOrName v), { pick := pick', time := now }⟩]
      (.ok (.forward b.hostPort (forwardedPath u p))) s := by
    unfold handle
    rw [extract_of_signed hroute hdecode]
    refine Exec.await hfind (Exec.await hnow ?_)
    simp only [Prog.bind, hexpired, Bool.false_eq_true, if_false, Prog.pure_eq,
      requireRuntime, Registry.findRuntimeBySandboxIdOrName, hv]
    refine Exec.await hlookup ?_
    simp only [Prog.bind, resolveProxyTarget, hb]
    exact Exec.pure _ _
  exact ⟨_, _, by simp, hexec⟩

/-- When everything forwarded is authorised, tokens lead home: what a token can reach is
authorised by that token. -/
theorem tokensLeadHome_of_sound {refusal : ProxyReply}
    (h : Sound parse s now url headers (handle parse refusal url headers)) :
    TokensLeadHome parse s now url := by
  intro u p token hroute hdecode record hrecord htoken hport hvalid v hv other hother hanswers _ b
    hb
  -- the lookup may return the other runtime, and then the request is forwarded there
  obtain ⟨tr, path, htime, hexec⟩ := handle_forwards headers refusal hroute hdecode
    hrecord htoken hport hvalid hv hother hanswers hb
  obtain ⟨r, hr, b', hb', hsame, hstandard | hsigned⟩ := h tr _ s hexec htime b.hostPort path rfl
  · obtain ⟨u', p', id, v', ⟨hparse, hspells⟩, -⟩ := hstandard
    have hu : u' = u := Except.ok.inj (hparse.symm.trans hroute.1)
    rw [hu] at hspells
    exact (routes_disjoint hroute.2 hspells).elim
  · obtain ⟨u', p', token', ⟨hparse, hspells⟩, hnumber, hdecode', record', hrecord', htoken',
      hport', -, hid⟩ := hsigned
    have hu : u' = u := Except.ok.inj (hparse.symm.trans hroute.1)
    rw [hu] at hspells
    have hp : p' = p := by
      have hmatch := matchPortPath_eq_some.mpr hspells
      rw [matchPortPath_eq_some.mpr hroute.2] at hmatch
      exact (Option.some.inj hmatch).symm
    rw [hp] at hnumber hdecode'
    have htokens : record'.token = record.token := by
      rw [htoken', htoken]
      exact Except.ok.inj (hdecode'.symm.trans hdecode)
    have hports : record'.port = record.port := by rw [hport', hport, ← hnumber]
    -- the token of the URL is this one and no other, so what it authorises is its own runtime
    have hrecords : record' = record :=
      Table.eq_of_clash hrecord' hrecord ⟨htokens, hports⟩
    refine ⟨r, hr, ?_, b', hb', ?_, hsame⟩
    · rw [← hid, hrecords]
    · rw [← hnumber, hport]

/-- **Proxy authorisation.** For every state, time and request: everything both handlers forward
is authorised exactly when no valid signed token of the request leads astray. -/
theorem proxy_authorised (parse : UrlParser) (s : World) (now : Int) (url : Option String)
    (headers : Headers) :
    (Sound parse s now url headers (handleHttp parse url headers) ∧
      Sound parse s now url headers (handleUpgrade parse url headers)) ↔
    TokensLeadHome parse s now url := by
  constructor
  · exact fun h => tokensLeadHome_of_sound h.1
  · intro h
    exact ⟨handle_sound (fun port path => by simp) h, handle_sound (fun port path => by simp) h⟩

end Handlers

/-! ## A token that outlives its sandbox

A token can be stored after the tokens of its sandbox were deleted. When another sandbox then takes
the id as its name, the token leads there. -/

/-- The path of a signed request, as `parsePath` reads it. -/
def signedPath : String := "/proxy/signed/0123456789abcdef/ports/8080"

/-- The parser, on paths without query and fragment. -/
def parsePath : UrlParser := fun rawUrl => .ok ⟨rawUrl, "", fun _ => none⟩

/-- A token for port 8080 is stored for the id `b`, which is nobody's id but the name of a runtime
that exposes the port. -/
def leadsAstray (s : World) : Bool :=
  s.signedTokens.rows.any fun record =>
    (record.token == "0123456789abcdef" && record.port == 8080 && record.sandboxId == "b" &&
      decide (0 < record.expiresAt)) &&
    s.runtimes.rows.all (fun home => home.sandboxId != "b") &&
    s.runtimes.rows.any fun other =>
      other.name == some "b" && (findBinding other 8080).toOption.isSome

theorem not_tokensLeadHome_of_leadsAstray {s : World} (h : leadsAstray s = true) :
    ¬ TokensLeadHome parsePath s 0 (some signedPath) := by
  simp only [leadsAstray, List.any_eq_true, List.all_eq_true, Bool.and_eq_true, beq_iff_eq,
    bne_iff_ne, decide_eq_true_eq] at h
  obtain ⟨record, hrecord, ⟨⟨⟨⟨htoken, hport⟩, hid⟩, hvalid⟩, hnobody⟩, other, hother, hname,
    hbinding⟩ := h
  obtain ⟨b, hb⟩ : ∃ b, findBinding other 8080 = .ok b := by
    cases hfind : findBinding other 8080 with
    | error e => simp [hfind, Except.toOption] at hbinding
    | ok b => exact ⟨b, rfl⟩
  intro hhome
  have hroute : OnRoute parsePath signedRoute (some signedPath) ⟨signedPath, "", fun _ => none⟩
      ⟨"0123456789abcdef".toList, "8080".toList, []⟩ :=
    ⟨rfl, matchPortPath_eq_some.mp (by decide +kernel)⟩
  have hdecode : decode "0123456789abcdef".toList = .ok "0123456789abcdef" := by decide +kernel
  have hnumber : record.port = number "8080".toList := by
    rw [hport]
    decide +kernel
  have hnormal : normalizeSandboxId record.sandboxId = .ok "b" := by
    rw [hid]
    decide +kernel
  -- the runtime that answers to the name is not the one the token was issued for
  have hother_ne : other.sandboxId ≠ record.sandboxId := by
    rw [hid]
    exact hnobody other hother
  rw [← hport] at hb
  obtain ⟨home, hmem, hhomeid, -⟩ := hhome _ _ _ hroute hdecode record hrecord htoken hnumber
    hvalid "b" hnormal other hother (Or.inr hname) hother_ne b hb
  exact hnobody home hmem (hhomeid.trans hid)

/-- The sandbox `b` is deleted while a preview URL for it is made; the token is stored after the
tokens of `b` were deleted. Then `a` takes the name `b`. -/
def raceForToken : Nat → ServiceCall
  | 0 => .sandbox (.create { name := some "b" })
  | 1 => .getSignedPreviewUrl "b" 8080
  | 2 => .sandbox (.delete "b")
  | _ => .sandbox (.ensure { sandboxId := some "a", name := some "b" })

/-- So what is forwarded is not always authorised, in a state that calls have reached. -/
theorem signed_token_reaches_other_sandbox :
    ¬ ∀ (cfg : AppConfig) (volumes : Table VolumeEntity volumeKeys) (calls : Nat → ServiceCall)
      (tr : History Nat) (c : Pool requests ServiceError Unit World Nat),
      InFlight cfg calls anyStep (World.fresh volumes) tr c →
      ∀ (parse : UrlParser) (now : Int) (url : Option String) (headers : Headers),
        Sound parse c.state now url headers (handleHttp parse url headers) ∧
          Sound parse c.state now url headers (handleUpgrade parse url headers) := by
  intro hclaim
  obtain ⟨tr, c, hrun, hastray⟩ := Pool.exists_run_of_schedule (h := backend)
    (steps 0 21 ++ steps 1 2 ++ steps 2 7 ++ steps 1 4 ++ steps 3 20)
    (fun _ (c : Pool requests ServiceError Unit World Nat) => leadsAstray c.state)
    (show (Pool.schedule backend _ (starting (smallConfig 31005) raceForToken
      (World.fresh .empty))).any _ = true by decide +kernel)
  have hsound := (hclaim (smallConfig 31005) .empty raceForToken tr c hrun parsePath 0
    (some signedPath) fun _ => none).1
  exact not_tokensLeadHome_of_leadsAstray hastray (tokensLeadHome_of_sound hsound)

end ProxyService

end Microsandbox
