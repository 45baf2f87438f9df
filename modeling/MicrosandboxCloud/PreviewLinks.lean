import MicrosandboxCloud.Launch
import MicrosandboxCloud.PreviewUrls
import MicrosandboxCloud.Strangers

/-!
# Microsandbox — following a preview URL

A preview URL from the service that hands it out to the host port that the proxy forwards to.

* **`followed` / `behind`** — what the proxy is asked for when a path is followed with something
  after it, and what the sandbox is then asked for.
* **`preview_links_open`** — the URL leads to the port of the sandbox whatever was done to it since,
  for whoever presents the token that came with the URL, or for all if the sandbox is public.
* **`signed_links_open`** — the signed URL does so without a token until it expires, and afterwards
  it is refused and the token deleted.
-/

namespace Microsandbox

open Process Data Text RuntimeControl Registry ProxyService
open Text.Url

/-! ## Following

A URL that was handed out is followed with a path and a query after it. `followed` is what the proxy
is asked for then, and `behind` what it should pass on. -/

/-- A path is followed, with another path and a query after it. -/
def followed (link suffix query : List Char) : Option String :=
  some (String.ofList (link ++ suffix ++ query))

/-- What is after the path, as it is forwarded. -/
def behind (suffix query : List Char) : String :=
  String.ofList ((if suffix = [] then ['/'] else suffix) ++ query)

/-- The runtime's host port for the port, if there is one. -/
def forwardTo (r : RuntimeEntity) (port : Int) (path : String) : Except ServiceError ProxyReply :=
  (findBinding r port).map fun binding => .forward binding.hostPort path

/-- What the proxy makes of a runtime and a token. -/
def previewOutcome (r : RuntimeEntity) (port : Int) (token path : String) :
    Except ServiceError ProxyReply :=
  if r.isPublic = true ∨ token = r.authToken then forwardTo r port path
  else .error invalidPreviewToken

/-! ## Stored ids

Every stored id is a normal form, so that it finds its row and stands in a URL as it is. -/

/-- Every stored id is in normal form. -/
def NormalIds (s : World) : Prop := ∀ r ∈ s.runtimes, IsNormal r.sandboxId

section NormalIds

variable {cfg : AppConfig} {safe : Event requests World Answer → Prop} {s s₁ s' : World}

theorem NormalIds.save {row saved : RuntimeEntity} (h : NormalIds s) (hrow : row ∈ s.runtimes)
    (hsave : s.saveRuntime saved = some s₁) (hid : saved.sandboxId = row.sandboxId) :
    NormalIds s₁ := by
  intro r hr
  rcases (World.mem_saveRuntime hsave).mp hr with rfl | ⟨hr, -⟩
  · exact hid ▸ h row hrow
  · exact h r hr

/-- A new row has the id that was chosen, which is a normal form. -/
theorem RuntimeControl.LaunchStart.normalIds {input : ProvisionInput} {name : Option String}
    {spec : RuntimeSpec} {row : RuntimeEntity} (hstart : LaunchStart cfg safe input name spec s row s₁)
    (hinput : IsNormal input.sandboxId) (h : NormalIds s) : NormalIds s₁ := by
  cases hstart with
  | unhealthy hrow hid hkeep => exact h
  | replaced hrow hid hreplace hsave => exact h.save hrow hsave rfl
  | new hnew hvm hinsert hsafe henough hleased =>
    intro r hr
    rw [hleased.runtimes] at hr
    rcases (World.mem_insertRuntime hinsert).mp hr with hr | rfl
    · exact h r hr
    · exact hinput

theorem RuntimeControl.LaunchOutcome.normalIds {name : Option String} {spec : RuntimeSpec}
    {row : RuntimeEntity} {x : Except ServiceError RuntimeSummary}
    (houtcome : LaunchOutcome cfg safe name spec row s x s') (hrow : row ∈ s.runtimes)
    (h : NormalIds s) : NormalIds s' := by
  cases houtcome with
  | outOfPorts hfew hleases hruntimes hvms => simpa [NormalIds, hruntimes] using h
  | @createFailed ports e a s₁ hports hfailure hhard hsafe =>
    simpa [NormalIds, (createVm_tables a _ s₁).1, hports.leased.runtimes] using h
  | @provisioned ports primary appHealthy sshHealthy lastActiveAt a s₁ s' hports hvm hprimary
      hsave =>
    have h₁ : NormalIds (s₁.setVm row.sandboxName (some (createInput row spec ports))) := by
      simpa [NormalIds, World.setVm, hports.leased.runtimes] using h
    refine h₁.save (?_ : row ∈ _) hsave rfl
    simpa [World.setVm, hports.leased.runtimes] using hrow

/-- **One call.** A row that a call stores has the id of its request, which is a normal form, or the
id of a row that was stored before. -/
theorem normalIds_step {c : SandboxCall} {tr : List (Event requests World Answer)}
    {x : Except ServiceError Reply} (h : NormalIds s) (hexec : Exec backend (c.prog cfg) s tr x s') :
    NormalIds s' := by
  cases call_outcome hexec with
  | refused hrequest => exact h
  | touched hrow hsave hruntimes hleases hvms hcall =>
    have h₁ := h.save hrow hsave rfl
    simpa [NormalIds, hruntimes] using h₁
  | deleted hrow hcall hruntimes hleases hvms hremoved =>
    intro r hr
    rw [hruntimes] at hr
    exact h r (Table.mem_delete.mp hr).1
  | provisioned hrequest hnormal houtcome =>
    cases houtcome with
    | refused hwhy => exact h
    | existing hplan hrow hid hforce hkeep hlive hsave => exact h.save hrow hsave rfl
    | rolledBack hplan hnew hfew hleases hruntimes hvms => simpa [NormalIds, hruntimes] using h
    | launched hplan hstart houtcome =>
      -- a launch saves the row it started from
      exact houtcome.normalIds hstart.row_mem.1 (hstart.normalIds hnormal h)

/-- **Every run.** -/
theorem Reachable.normalIds {volumes : Table VolumeEntity volumeKeys}
    {safe : SandboxCall → World → List (Event requests World Answer) → Prop}
    (hreach : Reachable cfg safe volumes s) : NormalIds s :=
  hreach.invariant (fun r hr => absurd hr (Table.not_mem_empty r))
    fun _ _ _ _ _ h _ hexec => normalIds_step h hexec

end NormalIds

/-! ## Lookups

A reference that is unambiguous has one answer, so that `requireRuntime` finds the runtime that was
meant, whichever row the database picks. -/

section Lookups

variable {α : Type} {safe : Event requests World Answer → Prop} {s : World}
  {Q : Except ServiceError α → World → Prop}

/-- Where references are unambiguous, a runtime that answers is the one that is found. -/
theorem Unambiguous.ensures_requireRuntime (h : Unambiguous s) {value v : String}
    {row : RuntimeEntity} {k : RuntimeEntity → Async α} (hv : normalizeSandboxId value = .ok v)
    (hrow : row ∈ s.runtimes) (hanswers : AnswersTo row v) (hk : Ensures backend safe (k row) s Q) :
    Ensures backend safe (requireRuntime value >>= k) s Q := by
  unfold requireRuntime findRuntimeBySandboxIdOrName
  rw [hv, Prog.bind_assoc, Prog.bind_assoc]
  refine ensures_findRuntime (fun found hfound hselects => ?_) fun hnone => ?_
  · have hfoundAnswers : AnswersTo found v := by
      simpa [RuntimeQuery.selects, AnswersTo] using hselects
    rw [h value v hv found hfound row hrow hfoundAnswers hanswers]
    exact hk
  · have hselects : (RuntimeQuery.bySandboxIdOrName v).selects row = true := by
      simpa [RuntimeQuery.selects, AnswersTo] using hanswers
    rw [hnone row hrow] at hselects
    cases hselects

/-- The status that is brought up to date is that of a stored row, with the keys it had. -/
theorem ensures_syncStatus {row : RuntimeEntity} {k : RuntimeEntity → Async α}
    (hrow : row ∈ s.runtimes)
    (hk : ∀ status s₁, { row with status := status } ∈ s₁.runtimes →
      Ensures backend safe (k { row with status := status }) s₁ Q)
    (herror : ∀ e s₁, Q (.error e) s₁) : Ensures backend safe (syncStatus row >>= k) s Q := by
  unfold syncStatus
  rw [Prog.bind_assoc]
  refine ensures_read trivial fun status => ?_
  split_ifs
  · refine ensures_updateRuntime (fun a s₁ hsave _ => ?_) fun _ => herror _ s
    exact hk _ s₁ ((World.mem_saveRuntime hsave).mpr (Or.inl rfl))
  · exact hk row.status s hrow

/-- What can be previewed is stored, under an id that was stored before, and exposes the port. -/
theorem ensures_ensurePreviewable {value : String} {port : Int} {k : RuntimeEntity → Async α}
    (hk : ∀ r s₁, r ∈ s₁.runtimes → (∃ r₀ ∈ s.runtimes, r₀.sandboxId = r.sandboxId) →
      (∃ b, findBinding r port = .ok b) → Ensures backend safe (k r) s₁ Q)
    (herror : ∀ e s₁, Q (.error e) s₁) :
    Ensures backend safe (ensurePreviewable value port >>= k) s Q := by
  unfold ensurePreviewable requireRunningRuntime
  simp only [Prog.bind_assoc]
  refine Microsandbox.ensures_requireRuntime (fun v _ row hrow _ => ?_) fun e => herror e s
  refine ensures_syncStatus hrow (fun status s₁ hmem => ?_) herror
  split_ifs
  · exact Ensures.throw (herror _ s₁)
  · refine ensures_sync (fun b hb => ?_) fun e _ => herror e s₁
    exact hk _ s₁ hmem ⟨row, hrow, rfl⟩ ⟨b, hb⟩

end Lookups

/-! ## Preview URLs

The URL names the sandbox by its id, and the token goes into the header. Following it, the proxy
reads the id, the port and the token back, finds the runtime and forwards to its host port. -/

section Preview

variable {s : World} {other : UrlParser} {refusal : ProxyReply} {headers : Headers}
  {suffix query : List Char} {port : Int}

/-- A preview URL names the sandbox, and comes with its token. -/
theorem getPreviewUrl_spec (cfg : ApiConfig) (value : String) (port : Int) :
    Ensures backend (fun _ => True) (getPreviewUrl cfg value port) s fun x s' =>
      ∀ url, x = .ok url →
        url.url = withoutTrailingSlashes cfg.proxyBaseUrl ++ previewPath url.sandboxId port ∧
          (∃ r₀ ∈ s.runtimes, r₀.sandboxId = url.sandboxId) ∧
          ∃ r ∈ s'.runtimes, r.sandboxId = url.sandboxId ∧ r.authToken = url.token ∧
            ∃ b, findBinding r port = .ok b := by
  refine ensures_ensurePreviewable (fun r s₁ hr hid hbinding => ?_) fun e s₁ url h => by cases h
  refine Ensures.pure fun url h => ?_
  cases h
  exact ⟨rfl, hid, r, hr, rfl, rfl, hbinding⟩

/-- The token that a request presents in its header. -/
theorem readPreviewToken_of_header {param : Option String} {token : String}
    (htoken : trimmed (firstValue (headers previewTokenHeader)) = some token) :
    readPreviewToken headers param = some token := by
  unfold readPreviewToken
  rw [htoken]

/-- What is left after trimming is not empty. -/
theorem ne_empty_of_trimmed {value : Option String} {token : String}
    (h : trimmed value = some token) : token ≠ "" := by
  cases value with
  | none => cases h
  | some text =>
    simp only [trimmed] at h
    split_ifs at h with hblank
    obtain rfl := Option.some.inj h
    intro hempty
    exact hblank (by rw [← String.toList_ofList (l := trim text.toList), hempty]; rfl)

/-- A request that was read is validated, and forwarded to what that returns. -/
theorem handle_of_extract {parse : UrlParser} {url : Option String} {m : ProxyMatch}
    (h : extract parse (url.getD "") headers = .ok (some m)) :
    handle parse refusal url headers =
      (validate m >>= fun target => Prog.pure (.forward target.2 m.path)) := by
  unfold handle
  rw [h]
  rfl

/-- The request is read as one for the sandbox, with everything behind it as the path. -/
theorem extract_preview (other : UrlParser) {id token : String} (hnormal : IsNormal id)
    (hport : 0 < port ∧ port < 9007199254740992) (hsuffix : IsSuffix suffix)
    (hquery : IsNormalSearch query)
    (htoken : trimmed (firstValue (headers previewTokenHeader)) = some token) :
    extract (newUrl other) ((followed (previewPath id port) suffix query).getD "") headers =
      .ok (some (.standard id port (behind suffix query) (some token))) := by
  have hsegment := isUnreservedSegment_of_isNormal hnormal
  obtain ⟨u, hroute, hsearch⟩ :=
    onRoute_preview other isRoute_standard hsegment hport.1 hsuffix hquery
  have hextract : extract _ _ headers = _ := extract_of_standard hroute hsegment.decode_eq
  rw [number_intText hport, forwardedPath_eq hsearch, String.ofList_toList,
    readPreviewToken_of_header htoken] at hextract
  rw [followed, previewPath_eq hsegment]
  exact hextract

/-- The runtime with the id is looked at, and nothing changes. -/
theorem validateStandard_exact (hunambiguous : Unambiguous s) {r : RuntimeEntity}
    (hr : r ∈ s.runtimes) (hnormal : IsNormal r.sandboxId) {token : String} (hne : token ≠ "")
    (path : String) :
    Ensures backend (fun _ => True)
      (validateProxyAccessBySandbox r.sandboxId port (some token) >>= fun target =>
        Prog.pure (ProxyReply.forward target.2 path))
      s fun x s' => s' = s ∧ x = previewOutcome r port token path := by
  unfold validateProxyAccessBySandbox
  rw [Prog.bind_assoc]
  refine hunambiguous.ensures_requireRuntime (normalizeSandboxId_eq_self hnormal) hr (Or.inl rfl) ?_
  -- the check of the source, with `timingSafeEqual` read as equality
  have hdenied : (!r.isPublic && !(some token).any fun t => t != "" && tokensEqual r.authToken t) =
      !decide (r.isPublic = true ∨ token = r.authToken) := by
    by_cases htoken : token = r.authToken
    · subst htoken
      simp [tokensEqual, hne]
    · simp [tokensEqual, htoken, beq_eq_false_iff_ne.mpr (Ne.symm htoken)]
  rw [hdenied, previewOutcome]
  -- whoever has access is still refused a port that the runtime does not have
  by_cases haccess : r.isPublic = true ∨ token = r.authToken
  · rw [decide_eq_true haccess, if_pos haccess, forwardTo, resolveProxyTarget]
    cases hfind : findBinding r port with
    | error e => exact Ensures.throw ⟨rfl, rfl⟩
    | ok b => exact Ensures.pure ⟨rfl, rfl⟩
  · rw [decide_eq_false haccess, if_neg haccess]
    exact Ensures.throw ⟨rfl, rfl⟩

end Preview

/-- **Preview URLs open their sandboxes.** The URL that is handed out for a port leads to it: whatever
happened since, while a runtime has the sandbox's id and references are unambiguous, following the
URL with a token in the header is forwarded to the host port that the runtime has for the port,
with the path and the query that came after, if the runtime is public or the token is its own, and
is refused otherwise. The token that came with the URL is its own. -/
theorem preview_links_open (cfg : ApiConfig) (other : UrlParser) (refusal : ProxyReply)
    {s s₁ : World} {tr : List (Event requests World Answer)} {value : String} {port : Int}
    {url : PreviewUrl} (hport : 0 < port ∧ port < 9007199254740992)
    (hnormal : NormalIds s)
    (hissued : Exec backend (getPreviewUrl cfg value port) s tr (.ok url) s₁) :
    ∃ link, url.url = withoutTrailingSlashes cfg.proxyBaseUrl ++ link ∧
      (∃ r ∈ s₁.runtimes, r.sandboxId = url.sandboxId ∧ r.authToken = url.token ∧
        ∃ b, findBinding r port = .ok b) ∧
      ∀ s₂ r suffix query headers token tr₂ x s₃, Unambiguous s₂ → r ∈ s₂.runtimes →
        r.sandboxId = url.sandboxId → IsSuffix suffix → IsNormalSearch query →
        trimmed (firstValue (headers previewTokenHeader)) = some token →
        Exec backend (handle (newUrl other) refusal (followed link suffix query) headers)
          s₂ tr₂ x s₃ →
        s₃ = s₂ ∧ x = previewOutcome r port token (behind suffix query) := by
  obtain ⟨hurl, ⟨r₀, hr₀, hid⟩, hstored⟩ := (getPreviewUrl_spec cfg value port).exec hissued url rfl
  refine ⟨previewPath url.sandboxId port, hurl, hstored, ?_⟩
  intro s₂ r suffix query headers token tr₂ x s₃ hunambiguous hr hsame hsuffix hquery htoken hexec
  -- the id in the URL is that of the row it was issued for
  have hid' : IsNormal r.sandboxId := hsame ▸ hid ▸ hnormal r₀ hr₀
  rw [← hsame, handle_of_extract (extract_preview other hid' hport hsuffix hquery htoken)] at hexec
  exact (validateStandard_exact hunambiguous hr hid' (ne_empty_of_trimmed htoken) _).exec hexec

/-- A sandbox that exposes a port, with a token of its own. -/
def previewSandbox : World :=
  (World.only { bareRow "a" with
    portBindings := [⟨none, 8080, 31000, .tcp, false⟩], authToken := "secret" }).setVm ""
      (some nodeInput)

/-- The id of the example is a normal form. -/
theorem previewSandbox_normalIds : NormalIds previewSandbox := by
  intro r hr
  rw [List.mem_singleton.mp hr]
  exact normalizeSandboxId_isNormal (show normalizeSandboxId "a" = .ok "a" by decide +kernel)

theorem previewSandbox_unambiguous : Unambiguous previewSandbox := by
  refine NoCross.unambiguous fun r₁ hr₁ r₂ hr₂ _ => ?_
  rw [List.mem_singleton.mp hr₁, List.mem_singleton.mp hr₂]

/-- The URL that is handed out for the port is followed with the token, a path and a query. -/
theorem preview_link_forwarded : ∃ tr url s₁ link,
    Exec backend (getPreviewUrl closedApi "a" 8080) previewSandbox tr (.ok url) s₁ ∧
      url.url = withoutTrailingSlashes closedApi.proxyBaseUrl ++ link ∧
      ∀ tr₂ x s₃, Exec backend
        (handleHttp (newUrl parsePath) (followed link nestedPath pairQuery)
          fun _ => some (.single "secret")) previewSandbox tr₂ x s₃ →
      x = .ok (.forward 31000 "/ports/1/proxy/signed?q=1&r=a/b") := by
  obtain ⟨tr, x, s₁, hexec, hfound⟩ := exists_exec_of_run (h := backend)
    (p := getPreviewUrl closedApi "a" 8080) (s := previewSandbox) []
    (fun _ x _ => match x with
      | .ok url => url.sandboxId == "a"
      | .error _ => false) (by decide +kernel)
  cases x with
  | error e => cases hfound
  | ok url =>
    have hid : url.sandboxId = "a" := eq_of_beq hfound
    obtain ⟨link, hurl, -, hopens⟩ := preview_links_open closedApi parsePath .notFound
      (by decide) previewSandbox_normalIds hexec
    refine ⟨tr, url, s₁, link, hexec, hurl, fun tr₂ x s₃ hfollowed => ?_⟩
    -- the sandbox has the port on 31000, and the token is its own
    have houtcome := (hopens _ _ nestedPath pairQuery _ "secret" tr₂ x s₃
      previewSandbox_unambiguous (List.mem_singleton_self _) hid.symm isSuffix_nestedPath
      isNormalSearch_pairQuery (by decide +kernel) hfollowed).2
    rw [houtcome]
    rfl

/-! ## Signed preview URLs

The URL has the text of a token that is stored with the sandbox id, the port and the expiry.
Following it, the proxy finds the record by token and port and the runtime by the id in it. -/

section Signed

variable {s : World} {other : UrlParser} {refusal : ProxyReply} {headers : Headers}
  {suffix query : List Char} {port now : Int}

/-- A signed token that is stored is found, since no other has its text and its port. -/
theorem ensures_findStoredToken {α : Type} {safe : Event requests World Answer → Prop}
    {Q : Except ServiceError α → World → Prop} {record : SignedPreviewTokenEntity}
    {k : Option SignedPreviewTokenEntity → Async α} (hrecord : record ∈ s.signedTokens)
    (hk : Ensures backend safe (k (some record)) s Q) :
    Ensures backend safe (getSignedPreviewToken record.token record.port >>= k) s Q := by
  have hselects : (SignedTokenQuery.byTokenPort record.token record.port).selects record = true := by
    simp [SignedTokenQuery.selects]
  refine Ensures.request_bind fun a r s₁ hact _ => ?_
  simp only [backend, act, Option.some.injEq, Prod.mk.injEq] at hact
  obtain ⟨hrow, rfl⟩ := hact
  cases r with
  | none =>
    have hnone := pickRow_none hrow record hrecord
    rw [hselects] at hnone
    cases hnone
  | some found =>
    obtain ⟨hfound, hsame⟩ := pickRow_some hrow
    simp only [SignedTokenQuery.selects, Bool.and_eq_true, beq_iff_eq] at hsame
    -- one token has this text and port, so the one that is found is the one that was stored
    rw [Table.eq_of_clash hfound hrecord hsame]
    exact hk

/-- A signed URL carries the text of a token that is stored with it. -/
theorem signedPreviewUrl_spec (cfg : ApiConfig) (value : String) (port : Int) :
    Ensures backend (fun ev => ev.answer.time = now)
      (getSignedPreviewUrl cfg.toAppConfig value port >>= fun record =>
        sync (signedPreviewUrl cfg record)) s fun x s' =>
      ∀ url, x = .ok url →
        url.url = withoutTrailingSlashes cfg.proxyBaseUrl ++ signedPreviewPath url.token port ∧
          (∃ r₀ ∈ s.runtimes, r₀.sandboxId = url.sandboxId) ∧
          (∃ r ∈ s'.runtimes, r.sandboxId = url.sandboxId ∧ ∃ b, findBinding r port = .ok b) ∧
          url.expiresAt = some (now + cfg.connectionTtlSeconds * 1000) ∧
          ⟨url.token, url.sandboxId, port, now + cfg.connectionTtlSeconds * 1000⟩ ∈
            s'.signedTokens := by
  unfold getSignedPreviewUrl
  rw [Prog.bind_assoc]
  -- the runtime is looked up, its status synced and the port looked for, before a token is made
  refine ensures_ensurePreviewable (fun r s₁ hr hid hbinding => ?_) fun e s₁ url h => by cases h
  unfold createSignedPreviewToken
  simp only [Prog.bind_assoc]
  refine ensures_deleteSignedTokens (ensures_read trivial fun token => ensures_now fun a htime => ?_)
  have htime : a.time = now := htime
  rw [htime]
  refine Ensures.request_bind fun a r' s₂ hact _ => ?_
  simp only [backend, act] at hact
  split at hact
  · rename_i tokens hinsert
    simp only [Option.some.injEq, Prod.mk.injEq] at hact
    obtain ⟨rfl, rfl⟩ := hact
    refine Ensures.ofExcept fun url hurl => ?_
    unfold signedPreviewUrl SshSession.toISOString at hurl
    split_ifs at hurl
    · cases hurl
      exact ⟨rfl, hid, ⟨r, hr, rfl, hbinding⟩, rfl, (Table.mem_insert hinsert).mpr (Or.inr rfl)⟩
    · cases hurl
  -- a token of this text and port is stored already: the insertion throws
  · simp only [Option.some.injEq, Prod.mk.injEq] at hact
    obtain ⟨rfl, rfl⟩ := hact
    exact Ensures.throw fun url h => by cases h

/-- The request is read as one with the token. -/
theorem extract_signed (other : UrlParser) {token : String} (htoken : IsBase64Url token)
    (hport : 0 < port ∧ port < 9007199254740992) (hsuffix : IsSuffix suffix)
    (hquery : IsNormalSearch query) :
    extract (newUrl other) ((followed (signedPreviewPath token port) suffix query).getD "")
      headers = .ok (some (.signed token port (behind suffix query))) := by
  have hsegment := isUnreservedSegment_of_isBase64Url htoken
  obtain ⟨u, hroute, hsearch⟩ :=
    onRoute_preview other isRoute_signed hsegment hport.1 hsuffix hquery
  have hextract : extract _ _ headers = _ := extract_of_signed hroute hsegment.decode_eq
  rw [number_intText hport, forwardedPath_eq hsearch, String.ofList_toList] at hextract
  rw [followed, signedPreviewPath_eq hsegment]
  exact hextract

/-- An expired token is refused and deleted. -/
theorem validateSigned_expired {record : SignedPreviewTokenEntity}
    (hrecord : record ∈ s.signedTokens) (hexpired : record.expiresAt ≤ now) (path : String) :
    Ensures backend (fun ev => ev.answer.time = now)
      (validateProxyAccessBySignedToken record.token record.port >>= fun target =>
        Prog.pure (ProxyReply.forward target.2 path))
      s fun x s' => x = .error signedTokenNotFound ∧ record ∉ s'.signedTokens := by
  unfold validateProxyAccessBySignedToken resolveSignedPreviewToken hasSignedPreviewTokenExpired
  simp only [Prog.bind_assoc]
  refine ensures_findStoredToken hrecord ?_
  simp only [Prog.bind_assoc]
  refine ensures_now fun a htime => ?_
  have htime : a.time = now := htime
  simp only [Prog.pure_eq, Prog.pure_bind, htime, hexpired, decide_true, if_true, Prog.bind_assoc]
  refine ensures_deleteSignedTokens (Ensures.throw ⟨rfl, fun hmem => ?_⟩)
  have hkept := (Table.mem_delete.mp hmem).2
  simp [SignedTokenQuery.selects] at hkept

/-- A valid token leads to the runtime with its sandbox id, and nothing changes. -/
theorem validateSigned_exact (hunambiguous : Unambiguous s) {r : RuntimeEntity}
    (hr : r ∈ s.runtimes) (hnormal : IsNormal r.sandboxId) {record : SignedPreviewTokenEntity}
    (hrecord : record ∈ s.signedTokens) (hid : record.sandboxId = r.sandboxId)
    (hvalid : now < record.expiresAt) (path : String) :
    Ensures backend (fun ev => ev.answer.time = now)
      (validateProxyAccessBySignedToken record.token record.port >>= fun target =>
        Prog.pure (ProxyReply.forward target.2 path))
      s fun x s' => s' = s ∧ x = forwardTo r record.port path := by
  unfold validateProxyAccessBySignedToken resolveSignedPreviewToken hasSignedPreviewTokenExpired
  simp only [Prog.bind_assoc]
  refine ensures_findStoredToken hrecord ?_
  simp only [Prog.bind_assoc]
  refine ensures_now fun a htime => ?_
  have htime : a.time = now := htime
  -- at the expiry itself the token has expired
  have hlive : decide (record.expiresAt ≤ now) = false := decide_eq_false (Int.not_le.mpr hvalid)
  simp only [Prog.pure_eq, Prog.pure_bind, htime, hlive, Bool.false_eq_true, if_false, hid]
  refine hunambiguous.ensures_requireRuntime (normalizeSandboxId_eq_self hnormal) hr (Or.inl rfl) ?_
  rw [forwardTo, resolveProxyTarget]
  cases hfind : findBinding r record.port with
  | error e => exact Ensures.throw ⟨rfl, rfl⟩
  | ok b => exact Ensures.pure ⟨rfl, rfl⟩

end Signed

/-- **Signed URLs open their sandboxes until they expire.** A signed URL expires as long after it was
handed out as is configured. Whatever happened since, while its token is stored: from its expiry on
following it is refused, which deletes the token; before, while a runtime has the sandbox's id and
references are unambiguous, it is forwarded to the host port that the runtime has for the port, with
the path and the query that came after. -/
theorem signed_links_open (cfg : ApiConfig) (other : UrlParser) (refusal : ProxyReply)
    {s s₁ : World} {tr : List (Event requests World Answer)} {value : String} {port issuedAt : Int}
    {url : PreviewUrl} (hport : 0 < port ∧ port < 9007199254740992) (hnormal : NormalIds s)
    (hissued : Exec backend (getSignedPreviewUrl cfg.toAppConfig value port >>= fun record =>
      sync (signedPreviewUrl cfg record)) s tr (.ok url) s₁)
    (htime : ∀ ev ∈ tr, ev.answer.time = issuedAt) (htoken : IsBase64Url url.token) :
    ∃ link expiresAt, url.url = withoutTrailingSlashes cfg.proxyBaseUrl ++ link ∧
      url.expiresAt = some expiresAt ∧ expiresAt = issuedAt + cfg.connectionTtlSeconds * 1000 ∧
      (∃ r ∈ s₁.runtimes, r.sandboxId = url.sandboxId ∧ ∃ b, findBinding r port = .ok b) ∧
      ⟨url.token, url.sandboxId, port, expiresAt⟩ ∈ s₁.signedTokens ∧
      ∀ s₂ now suffix query headers tr₂ x s₃,
        ⟨url.token, url.sandboxId, port, expiresAt⟩ ∈ s₂.signedTokens → IsSuffix suffix →
        IsNormalSearch query → (∀ ev ∈ tr₂, ev.answer.time = now) →
        Exec backend (handle (newUrl other) refusal (followed link suffix query) headers)
          s₂ tr₂ x s₃ →
        (expiresAt ≤ now → x = .error signedTokenNotFound ∧
          ⟨url.token, url.sandboxId, port, expiresAt⟩ ∉ s₃.signedTokens) ∧
        (now < expiresAt → Unambiguous s₂ → ∀ r ∈ s₂.runtimes, r.sandboxId = url.sandboxId →
          s₃ = s₂ ∧ x = forwardTo r port (behind suffix query)) := by
  obtain ⟨hurl, ⟨r₀, hr₀, hid⟩, hexposed, hexpires, hstored⟩ :=
    signedPreviewUrl_spec cfg value port tr _ s₁ hissued htime url rfl
  refine ⟨signedPreviewPath url.token port, _, hurl, hexpires, rfl, hexposed, hstored, ?_⟩
  intro s₂ now suffix query headers tr₂ x s₃ hrecord hsuffix hquery htime₂ hexec
  -- whatever path and query came after, the proxy reads the token and the port from the link
  rw [handle_of_extract (extract_signed other htoken hport hsuffix hquery)] at hexec
  refine ⟨fun hexpired => ?_, fun hvalid hunambiguous r hr hsame => ?_⟩
  · exact validateSigned_expired hrecord hexpired _ tr₂ x s₃ hexec htime₂
  · have hid' : IsNormal r.sandboxId := hsame ▸ hid ▸ hnormal r₀ hr₀
    exact validateSigned_exact hunambiguous hr hid' hrecord hsame.symm hvalid _ tr₂ x s₃ hexec htime₂

/-- The signed URL that is handed out at the time 0 is followed in its last millisecond, with a path
and a query. -/
theorem signed_link_forwarded : ∃ tr url s₁ link,
    Exec backend (getSignedPreviewUrl closedApi.toAppConfig "a" 8080 >>= fun record =>
        sync (signedPreviewUrl closedApi record)) previewSandbox tr (.ok url) s₁ ∧
      url.url = withoutTrailingSlashes closedApi.proxyBaseUrl ++ link ∧
      url.expiresAt = some 600000 ∧
      ∀ tr₂ x s₃, (∀ ev ∈ tr₂, ev.answer.time = 599999) →
        Exec backend
          (handleHttp (newUrl parsePath) (followed link nestedPath pairQuery) fun _ => none)
          s₁ tr₂ x s₃ →
        x = .ok (.forward 31000 "/ports/1/proxy/signed?q=1&r=a/b") := by
  obtain ⟨tr, x, s₁, hexec, hfound⟩ := exists_exec_of_run (h := backend)
    (p := getSignedPreviewUrl closedApi.toAppConfig "a" 8080 >>= fun record =>
      sync (signedPreviewUrl closedApi record)) (s := previewSandbox) []
    (fun tr x s' => ((tr.all fun ev => ev.answer.time == 0) && s'.runtimes.rows.length == 1 &&
      s'.runtimes.rows.all fun r => ((findBinding r 8080).map (·.hostPort)).toOption == some 31000) &&
        match x with
        | .ok url => url.token == "0123456789abcdef"
        | .error _ => false) (by decide +kernel)
  simp only [Bool.and_eq_true, List.all_eq_true, beq_iff_eq] at hfound
  obtain ⟨⟨⟨htime, hrows⟩, hports⟩, hfound⟩ := hfound
  cases x with
  | error e => cases hfound
  | ok url =>
    have htoken : url.token = "0123456789abcdef" := eq_of_beq hfound
    obtain ⟨link, expiresAt, hurl, hexpires, rfl, ⟨r, hr, hid, b, hb⟩, hstored, hopens⟩ :=
      signed_links_open closedApi parsePath .notFound (by decide) previewSandbox_normalIds hexec
        htime (by rw [htoken]; exact ⟨by simp, by simp [isBase64UrlChar]⟩)
    refine ⟨tr, url, s₁, link, hexec, hurl, hexpires, fun tr₂ x s₃ htime₂ hfollowed => ?_⟩
    -- one runtime is stored, so no reference is ambiguous
    have hunambiguous : Unambiguous s₁ := by
      obtain ⟨only, honly⟩ := List.length_eq_one_iff.mp hrows
      refine NoCross.unambiguous fun r₁ hr₁ r₂ hr₂ _ => ?_
      rw [Table.mem_def, honly, List.mem_singleton] at hr₁ hr₂
      rw [hr₁, hr₂]
    have houtcome := ((hopens s₁ 599999 nestedPath pairQuery _ tr₂ x s₃ hstored isSuffix_nestedPath
      isNormalSearch_pairQuery htime₂ hfollowed).2 (by decide) hunambiguous r hr hid).2
    have hport : b.hostPort = 31000 := by
      have hport := hports r hr
      rw [hb] at hport
      exact Option.some.inj hport
    rw [houtcome, forwardTo, hb, ← hport]
    rfl

end Microsandbox
