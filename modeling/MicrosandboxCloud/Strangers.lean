import MicrosandboxCloud.NormalForms
import MicrosandboxCloud.Previews
import MicrosandboxCloud.Routes
import MicrosandboxCloud.Process.Twin

/-!
# Microsandbox — requests without the API token

What a stranger, who has no internal API token, can do to the service and learn from it.

* **`StrangerRule`** — what a stranger's request may ask for: lookups, the clock, and the deletion
  of a signed token that it presented and found expired.
* **`strangers_change_nothing`** — however requests interleave, no step of a stranger's request
  changes anything but such a token.
* **`SameView`** — two worlds that show the same to the strangers' requests: the sandboxes with
  their ids, names and whether they are public, which of the presented preview tokens are right,
  and the ports of what they may reach.
* **`strangers_see_view`** — in such worlds the same requests get the same answers.
-/

namespace Microsandbox

open Process Data Text RuntimeControl Registry ProxyService

/-! ## What a request presents

A stranger has nothing but the tokens that it sends. They stand in the body or, at the proxy, in the
path, the query, a header or a cookie. -/

/-- The request presents a signed token for a port. -/
def Route.PresentsSigned (parse : UrlParser) (token : String) (port : Int) : Route → Prop
  | .previewResolve token' port' => token' = token ∧ port' = port
  | .proxyHttp url headers | .proxyUpgrade url headers =>
    ∃ path, extract parse (url.getD "") headers = .ok (some (.signed token port path))
  | _ => False

/-- The request presents a preview token. -/
def Route.PresentsPreview (parse : UrlParser) (token : String) : Route → Prop
  | .previewValidate _ token' => token' = token
  | .proxyHttp url headers | .proxyUpgrade url headers =>
    ∃ id port path, extract parse (url.getD "") headers =
      .ok (some (.standard id port path (some token)))
  | _ => False

/-! ## What a stranger's request may ask

The guard lets five routes pass without a token. Their handlers look up runtimes and signed tokens,
read the clock, and delete a signed token at one place. -/

/-- The transcript shows that the signed token has expired. -/
def FoundExpired (token : String) (port : Int) (t : Transcript requests) : Prop :=
  ∃ record time, ⟨.findSignedToken token port, some record⟩ ∈ t ∧ ⟨.now, time⟩ ∈ t ∧
    record.expiresAt ≤ time

/-- What a stranger's request may ask for, given what it was answered so far. -/
def StrangerRule (presents : String → Int → Prop) (t : Transcript requests) : Request → Prop
  | .findRuntime _ | .now => True
  | .findSignedToken token port => presents token port
  | .deleteSignedTokens query => ∃ token port, query = .byTokenPort token port ∧
      presents token port ∧ FoundExpired token port t
  | _ => False

section Rule

variable {presents : String → Int → Prop} {α : Type} {t : Transcript requests} {cfg : ApiConfig}

/-- A lookup by id or name is always allowed. -/
theorem follows_lookup {value : String} {k : RuntimeEntity → Async α}
    (hk : ∀ t row, (k row).Follows (StrangerRule presents) (fun _ _ => True) t) :
    (requireRuntime value >>= k).Follows (StrangerRule presents) (fun _ _ => True) t :=
  follows_requireRuntime (fun _ _ => trivial) (fun _ _ => hk _ _) fun _ _ => trivial

/-- A signed token is looked up, its expiry read, and it is deleted only if it has expired. -/
theorem follows_resolveSignedPreviewToken {token : String} {port : Int} {k : String → Async α}
    (hpresents : presents token port)
    (hk : ∀ t sandboxId, (k sandboxId).Follows (StrangerRule presents) (fun _ _ => True) t) :
    (resolveSignedPreviewToken token port >>= k).Follows (StrangerRule presents)
      (fun _ _ => True) t := by
  unfold resolveSignedPreviewToken getSignedPreviewToken hasSignedPreviewTokenExpired
  simp only [Prog.bind_assoc]
  refine Prog.Follows.request hpresents fun found => ?_
  cases found with
  | none => exact Prog.Follows.throw trivial
  | some record =>
    simp only [Prog.bind_assoc]
    refine Prog.Follows.request trivial fun (now : Int) => ?_
    simp only [Prog.pure_eq, Prog.pure_bind, decide_eq_true_eq]
    -- the deletion is allowed by the record and the clock that were read just before
    split_ifs with hexpired
    · refine Prog.Follows.request ⟨token, port, rfl, hpresents, record, now, ?_, ?_, hexpired⟩
        fun _ => Prog.Follows.throw trivial
      · simp
      · simp
    · exact hk _ _

/-- The access check: a preview token against the row, or a signed token and then its sandbox. -/
theorem follows_validate {m : ProxyMatch} {k : RuntimeEntity × Int → Async α}
    (hpresents : ∀ token port path, m = .signed token port path → presents token port)
    (hk : ∀ t target, (k target).Follows (StrangerRule presents) (fun _ _ => True) t) :
    (validate m >>= k).Follows (StrangerRule presents) (fun _ _ => True) t := by
  cases m with
  -- a lookup by id or name, which is a read
  | standard sandboxId port path token =>
    unfold validate validateProxyAccessBySandbox
    rw [Prog.bind_assoc]
    refine follows_lookup fun t row => ?_
    split_ifs
    · exact Prog.Follows.throw trivial
    · exact Prog.Follows.sync (fun target _ => hk _ target) fun _ _ => trivial
  | signed token port path =>
    unfold validate validateProxyAccessBySignedToken
    simp only [Prog.bind_assoc]
    refine follows_resolveSignedPreviewToken (hpresents token port path rfl) fun t sandboxId => ?_
    refine follows_lookup fun t row => ?_
    exact Prog.Follows.sync (fun target _ => hk _ target) fun _ _ => trivial

/-- The proxy reads the URL, checks the access and forwards. -/
theorem follows_handle {refusal : ProxyReply} {url : Option String} {headers : Headers}
    {k : ProxyReply → Async α}
    (hpresents : ∀ token port path,
      extract cfg.parseUrl (url.getD "") headers = .ok (some (.signed token port path)) →
        presents token port)
    (hk : ∀ t reply, (k reply).Follows (StrangerRule presents) (fun _ _ => True) t) :
    (handle cfg.parseUrl refusal url headers >>= k).Follows (StrangerRule presents)
      (fun _ _ => True) t := by
  unfold handle
  rw [Prog.bind_assoc]
  refine Prog.Follows.sync (fun found hfound => ?_) fun _ _ => trivial
  cases found with
  | none => exact hk _ refusal
  | some m =>
    simp only [Prog.bind_assoc]
    refine follows_validate (fun token port path hm => ?_) fun t target => hk _ _
    subst hm
    exact hpresents token port path hfound

/-- The handler of a route without a guard keeps to the rule. -/
theorem Route.follows_open {route : Route} (hopen : route.guarded = false) :
    (route.handler cfg).Follows
      (StrangerRule fun token port => route.PresentsSigned cfg.parseUrl token port)
      (fun _ _ => True) [] := by
  cases route with
  | previewPublic id =>
    simp only [Route.handler, getPreviewPublicState, Prog.bind_assoc]
    exact follows_lookup fun t row => Prog.Follows.pure trivial
  | previewValidate id token =>
    simp only [Route.handler, validatePreviewToken, Prog.bind_assoc]
    refine follows_lookup fun t row => ?_
    split_ifs
    · exact Prog.Follows.throw trivial
    · exact Prog.Follows.pure trivial
  -- the token is in the path of the route
  | previewResolve token port =>
    exact follows_resolveSignedPreviewToken ⟨rfl, rfl⟩ fun t id => Prog.Follows.pure trivial
  | proxyHttp url headers =>
    exact follows_handle (fun token port path h => ⟨path, h⟩) fun t reply =>
      Prog.Follows.pure trivial
  | proxyUpgrade url headers =>
    exact follows_handle (fun token port path h => ⟨path, h⟩) fun t reply =>
      Prog.Follows.pure trivial
  | _ => cases hopen

/-- A request without the token keeps to the rule. -/
theorem HttpRequest.follows_stranger {req : HttpRequest} (hstranger : ¬ req.Trusted cfg) :
    (req.prog cfg).Follows
      (StrangerRule fun token port => req.route.PresentsSigned cfg.parseUrl token port)
      (fun _ _ => True) [] := by
  cases hguarded : req.route.guarded with
  | true =>
    rw [HttpRequest.prog_of_refused hguarded hstranger]
    exact Prog.Follows.throw trivial
  | false =>
    rw [HttpRequest.prog_of_open hguarded]
    exact Route.follows_open hguarded

end Rule

/-! ## Strangers change nothing

Each step of each request is judged by the rule and by what the handler does for such a request.
What other requests do in between does not matter. -/

section Changes

variable {ι : Type} [DecidableEq ι]

/-- Request `i` has found a signed token stored, and expired by a time that it read. -/
def SeenExpired (pre : History ι) (i : ι) (token : String) (port : Int) : Prop :=
  ∃ ev record time, (i, ev) ∈ pre ∧ record ∈ ev.before.signedTokens ∧ record.token = token ∧
    record.port = port ∧ ⟨.now, time⟩ ∈ Pool.transcript backend i pre ∧ record.expiresAt ≤ time

/-- What a transcript shows has happened in the history. -/
theorem SeenExpired.of_foundExpired {pre : History ι} {i : ι} {token : String} {port : Int}
    (h : FoundExpired token port (Pool.transcript backend i pre)) :
    SeenExpired pre i token port := by
  obtain ⟨record, time, hfound, hnow, hexpired⟩ := h
  obtain ⟨ev, hev, hanswered⟩ := Pool.mem_transcript.mp hfound
  obtain ⟨s, a, s', rfl, hact⟩ := Pool.answered_eq_some.mp hanswered
  simp only [backend, act, Option.some.injEq, Prod.mk.injEq] at hact
  obtain ⟨hrecord, hselects⟩ := pickRow_some hact.1
  simp only [SignedTokenQuery.selects, Bool.and_eq_true, beq_iff_eq] at hselects
  exact ⟨_, record, time, hev, hrecord, hselects.1, hselects.2, hnow, hexpired⟩

/-- The world without a signed token. -/
def World.withoutSigned (s : World) (token : String) (port : Int) : World :=
  { s with
    signedTokens := s.signedTokens.delete (SignedTokenQuery.byTokenPort token port).selects }

/-- **One step.** A request of a stranger leaves the world as it is, or drops one expired token. -/
theorem step_of_strangerRule {presents : String → Int → Prop} {t : Transcript requests}
    {op : Request} {a : Answer} {s s' : World} {r : op.Reply} (hrule : StrangerRule presents t op)
    (hact : act op a s = some (r, s')) :
    s' = s ∨ ∃ token port, presents token port ∧ FoundExpired token port t ∧
      s' = s.withoutSigned token port := by
  cases op with
  | deleteSignedTokens query =>
    obtain ⟨token, port, rfl, hpresents, hexpired⟩ := hrule
    cases hact
    exact Or.inr ⟨token, port, hpresents, hexpired, rfl⟩
  | findRuntime query | now | findSignedToken token port =>
    cases hact
    exact Or.inl rfl
  | _ => exact hrule.elim

/-- **Strangers change nothing.** However requests on the routes of `Route` interleave, from any
state: a guarded request without the token makes no step and is answered 401, and each step of any
request without it leaves the world as it found it, but for a signed token that this request
presented and has seen expired. -/
theorem strangers_change_nothing (cfg : ApiConfig) (reqs : ι → HttpRequest) (s : World)
    {tr : History ι} {c : Pool requests ServiceError HttpReply World ι}
    (hrun : Serving cfg reqs s tr c) (i : ι) (hstranger : ¬ (reqs i).Trusted cfg) :
    ((reqs i).route.guarded = true →
      (c.thread i).outcome = some (.error invalidApiToken) ∧ ∀ ev, (i, ev) ∉ tr) ∧
    ∀ pre ev rest, tr = pre ++ (i, ev) :: rest →
      ∀ r s', act ev.op ev.answer ev.before = some (r, s') →
        s' = ev.before ∨ ∃ token port, (reqs i).route.PresentsSigned cfg.parseUrl token port ∧
          SeenExpired pre i token port ∧ s' = ev.before.withoutSigned token port := by
  constructor
  -- the guard has refused the request before its first await
  · intro hguarded
    have hthread : (receiving cfg reqs s).thread i = .throw invalidApiToken :=
      HttpRequest.prog_of_refused hguarded hstranger
    obtain ⟨hsame, hnone⟩ := Pool.Run.ended (i := i) (by rw [hthread]; exact Option.some_ne_none _)
      hrun
    rw [hsame, hthread]
    exact ⟨rfl, hnone⟩
  · -- requests with the token may ask for anything, the others keep to the rule
    have hfollows : ∀ j, ((reqs j).prog cfg).Follows (fun t op => ¬ (reqs j).Trusted cfg →
        StrangerRule (fun token port => (reqs j).route.PresentsSigned cfg.parseUrl token port) t op)
        (fun _ _ => True) [] := by
      intro j
      by_cases htrusted : (reqs j).Trusted cfg
      · simp only [htrusted, not_true_eq_false, false_imp_iff]
        exact Prog.Follows.trivial _
      · simp only [htrusted, not_false_eq_true, true_imp_iff]
        exact HttpRequest.follows_stranger htrusted
    obtain ⟨⟨-, hsteps⟩, -⟩ := Pool.Run.every_step (J := fun _ _ => True)
      (P := fun pre j ev => ¬ (reqs j).Trusted cfg →
        StrangerRule (fun token port => (reqs j).route.PresentsSigned cfg.parseUrl token port)
          (Pool.transcript backend j pre) ev.op)
      hfollows trivial (fun _ _ _ _ _ _ _ _ _ _ _ hmay => ⟨trivial, hmay⟩) hrun
    intro pre ev rest htr r s' hact
    have hrule := hsteps pre (i, ev) rest htr hstranger
    exact (step_of_strangerRule hrule hact).imp_right
      fun ⟨token, port, hpresents, hexpired, heq⟩ =>
        ⟨token, port, hpresents, SeenExpired.of_foundExpired hexpired, heq⟩

end Changes

/-- An API behind a token. -/
def closedApi : ApiConfig where
  toAppConfig := smallConfig 31005
  internalApiToken := some "internal"
  proxyBaseUrl := "http://localhost:3000"
  parseUrl := parsePath

/-- A request without the header is not trusted where a token is configured. -/
theorem HttpRequest.not_trusted_of_none (route : Route) :
    ¬ (HttpRequest.mk none route).Trusted closedApi := by
  simp [HttpRequest.Trusted, canActivate, closedApi, firstValue]

/-- A signed token is stored that expired at the time 0. -/
def expiredToken : World :=
  { World.fresh .empty with
    signedTokens := ⟨[⟨"0123456789abcdef", "b", 8080, 0⟩], List.pairwise_singleton _ _⟩ }

/-- Somebody resolves that token, and others try to delete the sandbox. -/
def withoutApiToken : Nat → HttpRequest
  | 0 => ⟨none, .previewResolve "0123456789abcdef" 8080⟩
  | _ => ⟨none, .delete "b"⟩

theorem withoutApiToken_stranger (i : Nat) : ¬ (withoutApiToken i).Trusted closedApi := by
  unfold withoutApiToken
  split <;> exact HttpRequest.not_trusted_of_none _

/-- The expired token is dropped, and that is all. -/
theorem expired_token_dropped :
    ∃ tr c, Serving closedApi withoutApiToken expiredToken tr c ∧
      c.state.signedTokens.rows.isEmpty = true ∧
      (c.thread 1).outcome = some (.error invalidApiToken) ∧
      ∀ pre ev rest, tr = pre ++ (0, ev) :: rest →
        ∀ r s', act ev.op ev.answer ev.before = some (r, s') →
          s' = ev.before ∨ ∃ token port,
            (withoutApiToken 0).route.PresentsSigned closedApi.parseUrl token port ∧
              SeenExpired pre 0 token port ∧ s' = ev.before.withoutSigned token port := by
  obtain ⟨tr, c, hrun, hempty⟩ := Pool.exists_run_of_schedule (h := backend) (steps 0 3)
    (fun _ (c : Pool requests ServiceError HttpReply World Nat) =>
      c.state.signedTokens.rows.isEmpty)
    (show (Pool.schedule backend _ (receiving closedApi withoutApiToken expiredToken)).any _ = true
      by decide +kernel)
  have hstep := strangers_change_nothing closedApi withoutApiToken expiredToken hrun
  exact ⟨tr, c, hrun, hempty, ((hstep 1 (withoutApiToken_stranger 1)).1 rfl).1,
    (hstep 0 (withoutApiToken_stranger 0)).2⟩

/-! ## What strangers see

Two systems run the same requests on two worlds. What the requests are told depends on the view
alone, so the one can do, step by step, what the other does. -/

/-- The two rows look the same to requests that present `tokens` and are led to `ids`: they go by
the same names, both are public or neither is, the same presented token opens them, and where they
can be reached at all they expose the same ports. -/
structure LookAlike (tokens ids : String → Prop) (r r' : RuntimeEntity) : Prop where
  sandboxId : r'.sandboxId = r.sandboxId
  name : r'.name = r.name
  isPublic : r'.isPublic = r.isPublic
  authToken : ∀ token, tokens token → (r'.authToken = token ↔ r.authToken = token)
  ports : (r.isPublic = true ∨ tokens r.authToken ∨ ∃ v, ids v ∧ AnswersTo r v) →
    ∀ port, (findBinding r' port).map (·.hostPort) = (findBinding r port).map (·.hostPort)

/-- The requests of a stranger's request, where `signed` are the presented signed tokens. No lookup
by id alone is among them. -/
def Request.Strange (signed : String → Int → Prop) : Request → Prop
  | .findRuntime (.bySandboxIdOrName _) | .now | .deleteSignedTokens _ => True
  | .findSignedToken token port => signed token port
  | _ => False

/-- The same requests; rows that look alike; and a presented signed token leads to one of `ids`. -/
def viewDisguise (tokens ids : String → Prop) (signed : String → Int → Prop) :
    Disguise requests World where
  op := fun op => op
  reply
    | .findRuntime (.bySandboxIdOrName v) =>
      Option.Rel fun row row' => LookAlike tokens ids row row' ∧ AnswersTo row v
    | .findSignedToken _ _ => fun r r' => r' = r ∧
      ∀ record, r = some record → ∀ v, normalizeSandboxId record.sandboxId = .ok v → ids v
    | _ => fun r r' => r' = r
  state s t := t.signedTokens = s.signedTokens ∧
    List.Forall₂ (LookAlike tokens ids) s.runtimes.rows t.runtimes.rows ∧
    ∀ record ∈ s.signedTokens, signed record.token record.port →
      ∀ v, normalizeSandboxId record.sandboxId = .ok v → ids v

section View

variable {tokens ids : String → Prop} {signed : String → Int → Prop} {α : Type}

/-- Rows that look alike are picked together. -/
theorem pickRow_rel {ρ : Type} {R : ρ → ρ → Prop} {p : ρ → Bool} {rows rows' : List ρ}
    (h : List.Forall₂ R rows rows') (hp : ∀ a b, R a b → p b = p a) (pick : Nat) :
    Option.Rel (fun a b => R a b ∧ p a = true) (pickRow rows p pick) (pickRow rows' p pick) := by
  have hfilter : List.Forall₂ R (rows.filter p) (rows'.filter p) :=
    List.rel_filter (fun a b hab => (Bool.eq_iff_iff.mp (hp a b hab)).symm) h
  unfold pickRow
  rw [← hfilter.length_eq]
  generalize hi : pick % (rows.filter p).length = i
  by_cases hlt : i < (rows.filter p).length
  · have hlt' : i < (rows'.filter p).length := hfilter.length_eq ▸ hlt
    rw [List.getElem?_eq_getElem hlt, List.getElem?_eq_getElem hlt']
    refine .some ⟨hfilter.get hlt hlt', ?_⟩
    exact (List.mem_filter.mp (List.getElem_mem hlt)).2
  · have hlt' : ¬ i < (rows'.filter p).length := hfilter.length_eq ▸ hlt
    rw [List.getElem?_eq_none (by omega), List.getElem?_eq_none (by omega)]
    exact .none

/-- The backend cannot tell worlds with the same view apart. -/
theorem viewDisguise_respected :
    (viewDisguise tokens ids signed).Respected (Request.Strange signed) backend := by
  intro op a s t r s' hop hstate hact
  obtain ⟨htokens, hrows, hleads⟩ := hstate
  cases op with
  | findRuntime query =>
    cases query with
    | bySandboxId v => exact hop.elim
    | bySandboxIdOrName v =>
      cases hact
      have hsame : ∀ r r' : RuntimeEntity, LookAlike tokens ids r r' →
          (RuntimeQuery.bySandboxIdOrName v).selects r' =
            (RuntimeQuery.bySandboxIdOrName v).selects r := by
        intro r r' h
        simp only [RuntimeQuery.selects, h.sandboxId, h.name]
      refine ⟨_, t, rfl, ?_, htokens, hrows, hleads⟩
      have hpicked := pickRow_rel hrows hsame a.pick
      generalize pickRow s.runtimes.rows _ a.pick = found at hpicked ⊢
      generalize pickRow t.runtimes.rows _ a.pick = found' at hpicked ⊢
      cases hpicked with
      | none => exact .none
      | some h => exact .some ⟨h.1, by simpa [RuntimeQuery.selects, AnswersTo] using h.2⟩
  | now =>
    cases hact
    exact ⟨_, t, rfl, rfl, htokens, hrows, hleads⟩
  | findSignedToken token port =>
    cases hact
    refine ⟨_, t, rfl, ⟨by rw [htokens], fun record hrecord v hv => ?_⟩, htokens, hrows, hleads⟩
    obtain ⟨hmem, hselects⟩ := pickRow_some hrecord
    simp only [SignedTokenQuery.selects, Bool.and_eq_true, beq_iff_eq] at hselects
    rw [← hselects.1, ← hselects.2] at hop
    exact hleads record hmem hop v hv
  -- both worlds have the same signed tokens, before and after
  | deleteSignedTokens query =>
    cases hact
    refine ⟨_, _, rfl, rfl, by rw [htokens], hrows, fun record hrecord => ?_⟩
    exact hleads record (Table.mem_delete.mp hrecord).1
  | _ => exact hop.elim

/-- Both systems end with the same value. -/
abbrev SameTwin (d : Disguise requests World) (may : Request → Prop) (p q : Async α) : Prop :=
  p.Twin d may (fun a b => b = a) q

/-- A lookup by id or name finds rows that look alike, or none. -/
theorem twin_requireRuntime {value : String} {k k' : RuntimeEntity → Async α}
    (hk : ∀ v row row', normalizeSandboxId value = .ok v → AnswersTo row v →
      LookAlike tokens ids row row' →
        SameTwin (viewDisguise tokens ids signed) (Request.Strange signed) (k row) (k' row')) :
    SameTwin (viewDisguise tokens ids signed) (Request.Strange signed)
      (requireRuntime value >>= k) (requireRuntime value >>= k') := by
  unfold requireRuntime findRuntimeBySandboxIdOrName
  simp only [Prog.bind_assoc]
  cases hv : normalizeSandboxId value with
  | error e => exact .throw e
  | ok v =>
    refine Prog.Twin.request_bind (d := viewDisguise tokens ids signed) trivial fun r r' hr => ?_
    cases hr with
    | none => exact .throw _
    | some h => exact hk v _ _ hv h.2 h.1

/-- A presented signed token leads to the same sandbox id in both, one of `ids`. -/
theorem twin_resolveSignedPreviewToken {token : String} {port : Int} {k k' : String → Async α}
    (hsigned : signed token port)
    (hk : ∀ sandboxId, (∀ v, normalizeSandboxId sandboxId = .ok v → ids v) →
      SameTwin (viewDisguise tokens ids signed) (Request.Strange signed) (k sandboxId)
        (k' sandboxId)) :
    SameTwin (viewDisguise tokens ids signed) (Request.Strange signed)
      (resolveSignedPreviewToken token port >>= k)
      (resolveSignedPreviewToken token port >>= k') := by
  unfold resolveSignedPreviewToken getSignedPreviewToken hasSignedPreviewTokenExpired
  simp only [Prog.bind_assoc]
  refine Prog.Twin.request_bind (d := viewDisguise tokens ids signed) hsigned fun r r' hr => ?_
  -- the token was presented, so both worlds store it alike
  obtain ⟨rfl, hleads⟩ := hr
  cases r' with
  | none => exact .throw _
  | some record =>
    simp only [Prog.bind_assoc]
    refine Prog.Twin.request_bind (d := viewDisguise tokens ids signed) trivial
      fun now now' hnow => ?_
    cases hnow
    simp only [Prog.pure_eq, Prog.pure_bind, decide_eq_true_eq]
    split_ifs
    · exact Prog.Twin.request_bind (d := viewDisguise tokens ids signed) trivial
        fun _ _ _ => .throw _
    · exact hk _ (hleads record rfl)

/-- A target that can be reached is on the same host port in both. -/
theorem twin_resolveProxyTarget {row row' : RuntimeEntity} {port : Int}
    {k : RuntimeEntity × Int → Async α} (hk : ∀ r r' hostPort, k (r, hostPort) = k (r', hostPort))
    (htwin : ∀ target, SameTwin (viewDisguise tokens ids signed) (Request.Strange signed)
      (k target) (k target))
    (hports : (findBinding row' port).map (·.hostPort) = (findBinding row port).map (·.hostPort)) :
    SameTwin (viewDisguise tokens ids signed) (Request.Strange signed)
      (sync (resolveProxyTarget row port) >>= k) (sync (resolveProxyTarget row' port) >>= k) := by
  unfold resolveProxyTarget
  cases hrow : findBinding row port with
  | error e =>
    rw [hrow] at hports
    cases hrow' : findBinding row' port with
    | error e' =>
      rw [hrow'] at hports
      cases hports
      exact .throw e
    | ok b' =>
      rw [hrow'] at hports
      cases hports
  -- the port is bound in both or in neither, and to the same host port
  | ok b =>
    rw [hrow] at hports
    cases hrow' : findBinding row' port with
    | error e' =>
      rw [hrow'] at hports
      cases hports
    | ok b' =>
      rw [hrow'] at hports
      have hsame : b'.hostPort = b.hostPort := Except.ok.inj hports
      change SameTwin _ _ (k (row, b.hostPort)) (k (row', b'.hostPort))
      rw [hsame, hk row' row]
      exact htwin _

/-- The access check of the proxy. Where it lets a request pass, the row is public or was opened by
a token, so that its ports are among what looks alike. -/
theorem twin_validate {m : ProxyMatch} {k : RuntimeEntity × Int → Async α}
    (hpreview : ∀ id port path token, m = .standard id port path (some token) → tokens token)
    (hsigned : ∀ token port path, m = .signed token port path → signed token port)
    (hk : ∀ r r' hostPort, k (r, hostPort) = k (r', hostPort))
    (htwin : ∀ target, SameTwin (viewDisguise tokens ids signed) (Request.Strange signed)
      (k target) (k target)) :
    SameTwin (viewDisguise tokens ids signed) (Request.Strange signed)
      (validate m >>= k) (validate m >>= k) := by
  cases m with
  | signed token port path =>
    unfold validate validateProxyAccessBySignedToken
    simp only [Prog.bind_assoc]
    refine twin_resolveSignedPreviewToken (hsigned token port path rfl) fun id hid => ?_
    refine twin_requireRuntime fun v row row' hv hanswers halike => ?_
    exact twin_resolveProxyTarget hk htwin
      (halike.ports (Or.inr (Or.inr ⟨v, hid v hv, hanswers⟩)) port)
  | standard id port path token =>
    unfold validate validateProxyAccessBySandbox
    simp only [Prog.bind_assoc]
    refine twin_requireRuntime fun v row row' hv hanswers halike => ?_
    -- the presented token opens both rows or neither
    have hopens : (token.any fun t => t != "" && tokensEqual row'.authToken t) =
        (token.any fun t => t != "" && tokensEqual row.authToken t) := by
      cases token with
      | none => rfl
      | some t =>
        have hiff := halike.authToken t (hpreview id port path t rfl)
        have hequal : tokensEqual row'.authToken t = tokensEqual row.authToken t := by
          rw [Bool.eq_iff_iff]
          simpa [tokensEqual] using hiff
        rw [Option.any_some, Option.any_some, hequal]
    rw [halike.isPublic, hopens]
    split_ifs with hdenied
    · exact .throw _
    · refine twin_resolveProxyTarget hk htwin (halike.ports ?_ port)
      cases hpublic : row.isPublic with
      | true => exact Or.inl rfl
      | false =>
        cases token with
        | none => simp [hpublic] at hdenied
        | some t =>
          simp only [hpublic, Bool.not_false, Bool.true_and, Option.any_some, tokensEqual,
            Bool.not_eq_true', Bool.not_eq_false, Bool.and_eq_true, beq_iff_eq] at hdenied
          rw [hdenied.2]
          exact Or.inr (Or.inl (hpreview id port path t rfl))

theorem twin_handle {parse : UrlParser} {refusal : ProxyReply} {url : Option String}
    {headers : Headers}
    (hpreview : ∀ id port path token, extract parse (url.getD "") headers =
      .ok (some (.standard id port path (some token))) → tokens token)
    (hsigned : ∀ token port path,
      extract parse (url.getD "") headers = .ok (some (.signed token port path)) →
        signed token port) :
    SameTwin (viewDisguise tokens ids signed) (Request.Strange signed)
      (handle parse refusal url headers) (handle parse refusal url headers) := by
  unfold handle
  cases hfound : extract parse (url.getD "") headers with
  | error e => exact .throw e
  | ok found =>
    cases found with
    -- a URL on neither route asks for nothing
    | none => exact .pure rfl
    | some m =>
      refine twin_validate (fun id port path token hm => ?_) (fun token port path hm => ?_)
        (fun _ _ _ => rfl) fun target => .pure rfl
      · exact hpreview id port path token (by rw [hfound, hm])
      · exact hsigned token port path (by rw [hfound, hm])

/-- A stranger's request cannot tell the two apart. -/
theorem HttpRequest.twin_stranger {cfg : ApiConfig} {req : HttpRequest}
    (hstranger : ¬ req.Trusted cfg)
    (hpreview : ∀ token, req.route.PresentsPreview cfg.parseUrl token → tokens token)
    (hsigned : ∀ token port, req.route.PresentsSigned cfg.parseUrl token port →
      signed token port) :
    SameTwin (viewDisguise tokens ids signed) (Request.Strange signed) (req.prog cfg)
      (req.prog cfg) := by
  cases hguarded : req.route.guarded with
  | true =>
    rw [HttpRequest.prog_of_refused hguarded hstranger]
    exact .throw _
  | false =>
    rw [HttpRequest.prog_of_open hguarded]
    obtain ⟨authorization, route⟩ := req
    cases route with
    | previewPublic id =>
      simp only [Route.handler, getPreviewPublicState, Prog.bind_assoc]
      refine twin_requireRuntime fun v row row' _ _ halike => .pure ?_
      rw [halike.sandboxId, halike.isPublic]
    | previewValidate id token =>
      simp only [Route.handler, validatePreviewToken, Prog.bind_assoc]
      refine twin_requireRuntime fun v row row' _ _ halike => ?_
      -- the two rows have the presented token both or neither
      have hequal : tokensEqual row'.authToken token = tokensEqual row.authToken token := by
        rw [Bool.eq_iff_iff]
        simpa [tokensEqual] using halike.authToken token (hpreview token rfl)
      rw [hequal]
      split_ifs
      · exact .throw _
      · exact .pure (congrArg HttpReply.previewValid halike.sandboxId)
    | previewResolve token port =>
      exact twin_resolveSignedPreviewToken (hsigned token port ⟨rfl, rfl⟩) fun id _ => .pure rfl
    | proxyHttp url headers =>
      refine Prog.Twin.bind (twin_handle (fun id port path token h => ?_) fun token port path h =>
        hsigned token port ⟨path, h⟩) fun reply reply' heq => .pure (by rw [heq])
      exact hpreview token ⟨id, port, path, h⟩
    | proxyUpgrade url headers =>
      refine Prog.Twin.bind (twin_handle (fun id port path token h => ?_) fun token port path h =>
        hsigned token port ⟨path, h⟩) fun reply reply' heq => .pure (by rw [heq])
      exact hpreview token ⟨id, port, path, h⟩
    | _ => cases hguarded

end View

section SameView

variable {ι : Type}

/-- Some request presents the preview token. -/
def PreviewPresented (cfg : ApiConfig) (reqs : ι → HttpRequest) (token : String) : Prop :=
  ∃ i, (reqs i).route.PresentsPreview cfg.parseUrl token

/-- Some request presents the signed token. -/
def SignedPresented (cfg : ApiConfig) (reqs : ι → HttpRequest) (token : String) (port : Int) :
    Prop :=
  ∃ i, (reqs i).route.PresentsSigned cfg.parseUrl token port

/-- A presented signed token that is stored stands for the id. -/
def LeadsTo (cfg : ApiConfig) (reqs : ι → HttpRequest) (s : World) (v : String) : Prop :=
  ∃ record ∈ s.signedTokens, SignedPresented cfg reqs record.token record.port ∧
    normalizeSandboxId record.sandboxId = .ok v

/-- The two worlds show the same to the requests: the same signed tokens, and rows that look
alike. -/
structure SameView (cfg : ApiConfig) (reqs : ι → HttpRequest) (s t : World) : Prop where
  signedTokens : t.signedTokens = s.signedTokens
  runtimes : List.Forall₂ (LookAlike (PreviewPresented cfg reqs) (LeadsTo cfg reqs s))
    s.runtimes.rows t.runtimes.rows

/-- **Strangers see the view.** Requests on the routes of `Route` without the token, in two worlds
with the same view and whatever else is stored there: each interleaving in one is an interleaving in
the other, with the same steps and the same choices of the environment, in which every request is
answered the same. -/
theorem strangers_see_view [DecidableEq ι] (cfg : ApiConfig) (reqs : ι → HttpRequest)
    (hstrangers : ∀ i, ¬ (reqs i).Trusted cfg) {s t : World} (hview : SameView cfg reqs s t)
    {tr : History ι} {c : Pool requests ServiceError HttpReply World ι}
    (hrun : Serving cfg reqs s tr c) :
    ∃ tr' c', Serving cfg reqs t tr' c' ∧
      tr'.map (fun x => (x.1, x.2.op, x.2.answer)) = tr.map (fun x => (x.1, x.2.op, x.2.answer)) ∧
      ∀ i, (c'.thread i).outcome = (c.thread i).outcome := by
  -- what a stranger may ask for is answered alike in worlds with the same view
  have hrespected : (viewDisguise (PreviewPresented cfg reqs) (LeadsTo cfg reqs s)
      (SignedPresented cfg reqs)).Respected (Request.Strange (SignedPresented cfg reqs)) backend :=
    viewDisguise_respected
  obtain ⟨tr', c', hrun', htr, htwins, -⟩ := Pool.Run.twin (receiving cfg reqs t) hrespected hrun
    (fun i => HttpRequest.twin_stranger (hstrangers i) (fun token h => ⟨i, h⟩)
      fun token port h => ⟨i, h⟩)
    ⟨hview.signedTokens, hview.runtimes, fun record hrecord hpresented v hv =>
      ⟨record, hrecord, hpresented, hv⟩⟩
  refine ⟨tr', c', hrun', ?_, fun i => (htwins i).outcome_eq⟩
  clear hrun hrun' htwins
  induction htr with
  | nil => rfl
  | @cons x y _ _ hxy _ ih =>
    simp only [List.map_cons, ih, hxy.1, hxy.2.op, hxy.2.answer]
    rfl

end SameView

/-- A private sandbox, under a preview token and on a host port. -/
def privateSandbox (authToken : String) (hostPort : Int) : World :=
  World.only { bareRow "a" with
    authToken := authToken, portBindings := [⟨none, 8080, hostPort, .tcp, false⟩] }

/-- The request has ended with this error. -/
def refusedWith (e : ServiceError) : Option (Except ServiceError HttpReply) → Bool
  | some (.error e') => e' == e
  | _ => false

theorem of_refusedWith {e : ServiceError} {outcome : Option (Except ServiceError HttpReply)}
    (h : refusedWith e outcome = true) : outcome = some (.error e) := by
  unfold refusedWith at h
  split at h
  · rw [eq_of_beq h]
  · cases h

/-- A wrong preview token is refused in the same way whatever the right one is. -/
theorem wrong_token_refused : ∃ tr' c',
    Serving closedApi (fun _ : Nat => ⟨none, .previewValidate "a" "guess"⟩)
      (privateSandbox "second" 31001) tr' c' ∧
      (c'.thread 0).outcome = some (.error ⟨.unauthorized, "Invalid preview token"⟩) := by
  obtain ⟨tr, c, hrun, hrefused⟩ := Pool.exists_run_of_schedule (h := backend) (steps 0 1)
    (fun _ (c : Pool requests ServiceError HttpReply World Nat) =>
      refusedWith ⟨.unauthorized, "Invalid preview token"⟩ (c.thread 0).outcome)
    (show (Pool.schedule backend _ (receiving closedApi
      (fun _ : Nat => ⟨none, .previewValidate "a" "guess"⟩) (privateSandbox "first" 31000))).any _ =
        true by decide +kernel)
  have hview : SameView closedApi (fun _ : Nat => ⟨none, .previewValidate "a" "guess"⟩)
      (privateSandbox "first" 31000) (privateSandbox "second" 31001) := by
    refine ⟨rfl, .cons ⟨rfl, rfl, rfl, fun token h => ?_, fun h => ?_⟩ .nil⟩
    · obtain ⟨-, rfl⟩ := h
      decide
    · rcases h with hpublic | ⟨_, htoken⟩ | ⟨v, ⟨record, hrecord, -⟩, -⟩
      · cases hpublic
      · exact absurd (id htoken : "guess" = "first") (by decide)
      · exact absurd hrecord (Table.not_mem_empty record)
  obtain ⟨tr', c', hrun', -, houtcome⟩ := strangers_see_view closedApi _
    (fun _ => HttpRequest.not_trusted_of_none _) hview hrun
  refine ⟨tr', c', hrun', ?_⟩
  rw [houtcome]
  exact of_refusedWith hrefused

end Microsandbox
