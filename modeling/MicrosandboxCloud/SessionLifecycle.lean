import MicrosandboxCloud.Interleaving
import MicrosandboxCloud.Process.Transcript

/-!
# Microsandbox — the life of an SSH session

`createSession`, `validateSession` and `revokeSession` calls of one process interleave at their
awaits. Whether a token is valid is decided by two stores: the table of revoked sessions, which is
read first, and the in-memory map.

* **`Orderly`** — tokens drawn are fresh, and the clock does not go back.
* **`SessionsKept`** — a validation returns what the creation of its token returned, and nothing
  else; and it does return it while the session has neither expired nor been revoked.
* **`sessions_kept_iff`** — that holds exactly when the proxy base URL is one: else a creation enters
  its session into the map and throws.
-/

namespace Microsandbox

open Process Data SshSession

/-! ## Calls

The three calls of the service on sessions, which know nothing of sandboxes: the sandbox and the
host port come from the caller. What they do to the in-memory map they do between two awaits, so
nothing comes in between. -/

/-- A call of the session service. -/
inductive SessionCall where
  | createSession (sandboxId : String) (hostPort : Int) (expiryMinutes : Option Int)
  | validateSession (token : String)
  | revokeSession (token : String)

/-- What such a call returns. -/
inductive SessionCallReply where
  | created (reply : SessionReply)
  | validated (result : Option SshValidateResult)
  | revoked (done : Bool)

/-- The program of a call. -/
def SessionCall.prog (cfg : AppConfig) : SessionCall → Async SessionCallReply
  | .createSession sandboxId hostPort expiryMinutes =>
    return .created (← SshSession.createSession cfg sandboxId hostPort expiryMinutes)
  | .validateSession token => return .validated (← SshSession.validateSession cfg token)
  | .revokeSession token => return .revoked (← SshSession.revokeSession cfg token)

/-- The token a call is given. -/
def SessionCall.presents : SessionCall → Option String
  | .createSession _ _ _ => none
  | .validateSession token => some token
  | .revokeSession token => some token

/-- What a call may ask for. A revocation comes to the table after it has taken the session out of
the map, so its second request is made in a history that knows of it already. -/
def SessionCall.rule (cfg : AppConfig) : SessionCall → Transcript requests → Request → Prop
  | .createSession sandboxId hostPort expiryMinutes, _, op =>
    op = .sessions (createSegment cfg sandboxId hostPort expiryMinutes)
  | .validateSession token, _, op =>
    op = .findRevokedSession (cfg.sha256 token) ∨
      op = .sessions (validateSegment (cfg.sha256 token))
  | .revokeSession token, t, op =>
    op = .sessions (revokeSegment (cfg.sha256 token)) ∨
      (t ≠ [] ∧ op = .saveRevokedSession (cfg.sha256 token))

/-- A reply that does not let a validation return a session. -/
inductive Denies : (Σ op : requests.Op, requests.Reply op) → Prop where
  | revoked (key : String) : Denies ⟨.findRevokedSession key, true⟩
  | unknown (segment : SessionDraw → SessionMap → Except ServiceError SessionReply × SessionMap)
      (reply : Except ServiceError SessionReply)
      (h : ∀ result, reply ≠ .ok (.validated (some result))) : Denies ⟨.sessions segment, reply⟩

/-- A validation returns what the map gave, or was denied. -/
def Validates (t : Transcript requests) (x : Except ServiceError SessionCallReply) : Prop :=
  (∀ result, x = .ok (.validated (some result)) →
    ∃ segment, ⟨.sessions segment, .ok (.validated (some result))⟩ ∈ t) ∧
  ((∀ result, x ≠ .ok (.validated (some result))) → ∃ e ∈ t, Denies e)

/-- A validation that ends with such a reply. -/
theorem validates_of_denies {t : Transcript requests} {x : Except ServiceError SessionCallReply}
    {e : Σ op : requests.Op, requests.Reply op} (he : Denies e)
    (hx : ∀ result, x ≠ .ok (.validated (some result))) : Validates (t ++ [e]) x :=
  ⟨fun result h => absurd h (hx result),
    fun _ => ⟨e, List.mem_append_right _ List.mem_cons_self, he⟩⟩

/-- What is known of the result of a call. Of creations and revocations, nothing is needed. -/
def SessionCall.post : SessionCall → Transcript requests → Except ServiceError SessionCallReply →
    Prop
  | .validateSession _, t, x => Validates t x
  | _, _, _ => True

/-- The table is asked first, the map second, and each of the two can deny. -/
theorem validateSession_follows (cfg : AppConfig) (token : String) :
    ((SessionCall.validateSession token).prog cfg).Follows
      (SessionCall.rule cfg (.validateSession token)) Validates [] := by
  unfold SessionCall.prog SshSession.validateSession
  simp only [Prog.bind_assoc]
  refine Prog.Follows.request (Or.inl rfl) fun revoked => ?_
  cases revoked with
  -- the token was revoked
  | true => exact Prog.Follows.pure (validates_of_denies (.revoked _) fun _ h => by cases h)
  | false =>
    simp only [Bool.false_eq_true, if_false, Prog.bind_assoc]
    refine Prog.Follows.request (Or.inr rfl) fun reply => ?_
    cases reply with
    | error e =>
      exact Prog.Follows.throw (validates_of_denies (.unknown _ _ fun _ h => by cases h)
        fun _ h => by cases h)
    | ok reply =>
      cases reply with
      -- no segment of this call answers so; the cases close the type of replies
      | created session =>
        exact Prog.Follows.pure (validates_of_denies (.unknown _ _ fun _ h => by cases h)
          fun _ h => by cases h)
      | done =>
        exact Prog.Follows.pure (validates_of_denies (.unknown _ _ fun _ h => by cases h)
          fun _ h => by cases h)
      | validated result =>
        cases result with
        | none =>
          exact Prog.Follows.pure (validates_of_denies (.unknown _ _ fun _ h => by cases h)
            fun _ h => by cases h)
        | some result =>
          refine Prog.Follows.pure ⟨fun result' h => ?_, fun h => absurd rfl (h result)⟩
          cases h
          exact ⟨_, List.mem_append_right _ List.mem_cons_self⟩

/-- Every call keeps to its rule. -/
theorem SessionCall.follows (cfg : AppConfig) (call : SessionCall) :
    (call.prog cfg).Follows (call.rule cfg) call.post [] := by
  cases call with
  | validateSession token => exact validateSession_follows cfg token
  | createSession sandboxId hostPort expiryMinutes =>
    unfold SessionCall.prog SshSession.createSession
    simp only [Prog.bind_assoc]
    refine Prog.Follows.request rfl fun reply => ?_
    exact Prog.Follows.sync (fun _ _ => Prog.Follows.pure trivial) fun _ _ => trivial
  | revokeSession token =>
    unfold SessionCall.prog SshSession.revokeSession
    simp only [Prog.bind_assoc]
    refine Prog.Follows.request (Or.inl rfl) fun _ => ?_
    refine Prog.Follows.request (Or.inr ⟨by simp, rfl⟩) fun saved => ?_
    cases saved with
    | ok _ => exact Prog.Follows.pure trivial
    | error e => exact Prog.Follows.pure trivial

section Lifecycle

variable {ι : Type}

/-! ## What has happened

Everything about the past is read off the history: whether a revocation has begun, how far the clock
was seen, and which sessions were returned. A revocation counts from its first step, since from then
on the session is out of the map. -/

/-- A revocation of the token has begun. -/
def Revoking (calls : ι → SessionCall) (tr : History ι) (token : String) : Prop :=
  ∃ j ev, calls j = .revokeSession token ∧ (j, ev) ∈ tr

/-- The event is a synchronous segment over the map, which reads the clock. -/
def readsClock (ev : Event requests World Answer) : Bool :=
  match ev.op with
  | .sessions _ => true
  | _ => false

/-- The clock has been seen beyond the instant. -/
def Passed (tr : History ι) (instant : Int) : Prop :=
  ∃ x ∈ tr, readsClock x.2 = true ∧ instant < x.2.answer.later

/-- The clock does not go back, and a drawn token was never seen before. -/
structure Orderly (cfg : AppConfig) (calls : ι → SessionCall) (tr : History ι) (i : ι)
    (ev : Event requests World Answer) : Prop where
  forward : readsClock ev = true → ∀ x ∈ tr, readsClock x.2 = true →
    x.2.answer.later ≤ ev.answer.time
  fresh : ∀ id port minutes, calls i = .createSession id port minutes →
    cfg.sha256 ev.answer.random ∉ ev.before.revokedSessions ∧
    ∀ x ∈ tr, (calls x.1).presents ≠ some ev.answer.random ∧
      ∀ id' port' minutes', calls x.1 = .createSession id' port' minutes' →
        x.2.answer.random ≠ ev.answer.random

section Snoc

variable {calls : ι → SessionCall} {tr : History ι} {i : ι}

/-- A step begins a revocation or leaves it to the others. -/
theorem revoking_snoc {token : String} {ev : Event requests World Answer} :
    Revoking calls (tr ++ [(i, ev)]) token ↔
      Revoking calls tr token ∨ calls i = .revokeSession token := by
  constructor
  · rintro ⟨j, ev', hcall, hmem⟩
    rcases List.mem_append.mp hmem with hmem | hmem
    · exact Or.inl ⟨j, ev', hcall, hmem⟩
    · cases List.mem_singleton.mp hmem
      exact Or.inr hcall
  · rintro (⟨j, ev', hcall, hmem⟩ | hcall)
    · exact ⟨j, ev', hcall, List.mem_append_left _ hmem⟩
    · exact ⟨i, ev, hcall, List.mem_append_right _ List.mem_cons_self⟩

/-- What the clock was seen beyond, it was seen beyond. -/
theorem Passed.snoc {instant : Int} {x : ι × Event requests World Answer} (h : Passed tr instant) :
    Passed (tr ++ [x]) instant := by
  obtain ⟨y, hy, hreads, hlt⟩ := h
  exact ⟨y, List.mem_append_left _ hy, hreads, hlt⟩

end Snoc

variable [DecidableEq ι]

/-- Call `j` returned the session it created. -/
def Returned (tr : History ι) (j : ι) (session : SshSessionResult) : Prop :=
  ∃ segment, ⟨.sessions segment, .ok (.created session)⟩ ∈ Pool.transcript backend j tr

/-! ## The two stores

Two invariants, one for each direction. An entry of the map is there for a reason, and a session
that was handed out is there until there is a reason that it is not. -/

/-- What a validation can find in the map was returned by a creation and is not being revoked. -/
def OnlyReturned (cfg : AppConfig) (calls : ι → SessionCall) (tr : History ι) (s : World) : Prop :=
  ∀ key entry, s.sessions key = some entry → (∃ e, toISOString entry.expiresAt = .error e) ∨
    ∃ j minutes session, calls j = .createSession entry.sandboxId entry.hostPort minutes ∧
      Returned tr j session ∧ cfg.sha256 session.token = key ∧
      session.expiresAt = entry.expiresAt ∧ ¬ Revoking calls tr session.token

/-- What a creation returned stays in the map, and out of the table, until it is revoked or has
expired. -/
def StillThere (cfg : AppConfig) (calls : ι → SessionCall) (tr : History ι) (s : World) : Prop :=
  ∀ j id port minutes session, calls j = .createSession id port minutes → Returned tr j session →
    ¬ Revoking calls tr session.token →
    cfg.sha256 session.token ∉ s.revokedSessions ∧
      (s.sessions (cfg.sha256 session.token) = some ⟨id, port, session.expiresAt⟩ ∨
        Passed tr session.expiresAt)

section Step

variable {cfg : AppConfig} {calls : ι → SessionCall} {tr : History ι} {i j : ι} {op : Request}
  {a : Answer} {s s' : World} {r : op.Reply}

/-- Printing a date and reading it gives the instant back, when the date can be printed. -/
theorem toISOString_eq_ok {ms instant : Int} (h : toISOString ms = .ok instant) : instant = ms := by
  unfold toISOString at h
  split_ifs at h
  exact (Except.ok.inj h).symm

/-- What a creation that returns has put into its answer. -/
theorem sessionResult_eq_ok {token id : String} {port expiresAt : Int} {reply : SessionReply}
    (h : sessionResult cfg token id port expiresAt = .ok reply) :
    ∃ session, reply = .created session ∧ session.token = token ∧
      session.expiresAt = expiresAt ∧ toISOString expiresAt = .ok expiresAt := by
  unfold sessionResult at h
  split at h
  · cases h
  · cases hiso : toISOString expiresAt with
    | error e =>
      rw [hiso] at h
      cases h
    | ok instant =>
      rw [hiso] at h
      obtain rfl := toISOString_eq_ok hiso
      exact ⟨_, (Except.ok.inj h).symm, rfl, rfl, rfl⟩

/-- A segment runs on the map as it is, with a clock that it may read twice. -/
theorem act_sessions_eq {segment : SessionDraw → SessionMap →
    Except ServiceError SessionReply × SessionMap} {r : Except ServiceError SessionReply}
    (hact : act (.sessions segment) a s = some (r, s')) :
    a.time ≤ a.later ∧ r = (segment ⟨a.time, a.later, a.random⟩ s.sessions).1 ∧
      s' = { s with sessions := (segment ⟨a.time, a.later, a.random⟩ s.sessions).2 } := by
  simp only [act] at hact
  split_ifs at hact with hle
  cases hact
  exact ⟨hle, rfl, rfl⟩

/-- A session is returned by the step that is answered with it. -/
theorem returned_step {session : SshSessionResult} (hact : act op a s = some (r, s')) :
    Returned (tr ++ [(i, ⟨s, op, a⟩)]) j session ↔ Returned tr j session ∨ (i = j ∧ ∃ segment,
      (⟨op, r⟩ : Σ op : requests.Op, requests.Reply op) =
        ⟨.sessions segment, .ok (.created session)⟩) := by
  simp only [Returned, Pool.mem_transcript_step (h := backend) hact, exists_or]
  refine or_congr_right ⟨?_, ?_⟩
  · rintro ⟨segment, hij, h⟩
    exact ⟨hij, segment, h.symm⟩
  · rintro ⟨hij, segment, h⟩
    exact ⟨segment, hij, h.symm⟩

/-- The token of a returned session is the random text its call drew, and its expiry is a date. -/
theorem Returned.drawn {id : String} {port : Int} {minutes : Option Int}
    {session : SshSessionResult} (h : Returned tr j session)
    (hruled : Prog.Ruled (SessionCall.rule cfg (.createSession id port minutes))
      (Pool.transcript backend j tr)) :
    (∃ ev, (j, ev) ∈ tr ∧ ev.answer.random = session.token) ∧
      toISOString session.expiresAt = .ok session.expiresAt := by
  obtain ⟨segment, hmem⟩ := h
  obtain ⟨pre, rest, -, hrule⟩ := hruled.of_mem hmem
  obtain rfl : segment = createSegment cfg id port minutes := Request.sessions.inj hrule
  obtain ⟨ev, hev, hanswered⟩ := Pool.mem_transcript.mp hmem
  obtain ⟨w, b, w', rfl, hact⟩ := Pool.answered_eq_some.mp hanswered
  obtain ⟨-, hreply, -⟩ := act_sessions_eq hact
  obtain ⟨session', hsession, htoken, hexpires, hiso⟩ := sessionResult_eq_ok hreply.symm
  cases hsession
  exact ⟨⟨_, hev, htoken.symm⟩, hexpires ▸ hiso⟩

/-- A call that revokes and has been answered has begun. -/
theorem revoking_of_transcript {token : String} (hcall : calls i = .revokeSession token)
    (h : Pool.transcript backend i tr ≠ []) : Revoking calls tr token := by
  obtain ⟨e, he⟩ := List.exists_mem_of_ne_nil _ h
  obtain ⟨ev, hev, -⟩ := Pool.mem_transcript.mp he
  exact ⟨i, ev, hcall, hev⟩

/-- A validation takes entries out of the map, but enters none. -/
theorem validateSegment_some {key key' : String} {draw : SessionDraw} {sessions : SessionMap}
    {entry : SessionEntry} (h : (validateSegment key draw sessions).2 key' = some entry) :
    sessions key' = some entry := by
  unfold validateSegment at h
  split at h
  · exact h
  · split_ifs at h
    · dsimp only at h
      by_cases hkey : key' = key
      · rw [hkey, Function.update_self] at h
        cases h
      · rwa [Function.update_of_ne hkey] at h
    · exact h

/-- A revocation takes its own entry out and leaves the others. -/
theorem revokeSegment_some {key key' : String} {sessions : SessionMap} {entry : SessionEntry}
    (draw : SessionDraw) (h : (revokeSegment key draw sessions).2 key' = some entry) :
    key' ≠ key ∧ sessions key' = some entry := by
  dsimp only [revokeSegment] at h
  by_cases hkey : key' = key
  · rw [hkey, Function.update_self] at h
    cases h
  · rw [Function.update_of_ne hkey] at h
    exact ⟨hkey, h⟩

/-- The table of revoked sessions is not the map. -/
theorem saveRevokedSession_sessions {key : String} {r : Except ServiceError Unit}
    (hact : act (.saveRevokedSession key) a s = some (r, s')) : s'.sessions = s.sessions := by
  simp only [act] at hact
  split_ifs at hact
  · cases hact
    rfl
  · split at hact <;> cases hact <;> rfl

/-- An entry is new, or was there before. A new one belongs to a creation that returns it, unless
its date cannot be printed; an old one is not the one that a revocation takes out now. -/
theorem OnlyReturned.step (hhost : cfg.proxyHostname ≠ none) (h : OnlyReturned cfg calls tr s)
    (hsafe : Orderly cfg calls tr i ⟨s, op, a⟩) (hact : act op a s = some (r, s'))
    (hrule : (calls i).rule cfg (Pool.transcript backend i tr) op) :
    OnlyReturned cfg calls (tr ++ [(i, ⟨s, op, a⟩)]) s' := by
  -- entries that were in the map, when the step does not begin to revoke them
  have hkept : ∀ key entry, s.sessions key = some entry →
      (∀ token, calls i = .revokeSession token → Revoking calls tr token ∨ cfg.sha256 token ≠ key) →
      (∃ e, toISOString entry.expiresAt = .error e) ∨
        ∃ j minutes session, calls j = .createSession entry.sandboxId entry.hostPort minutes ∧
          Returned (tr ++ [(i, ⟨s, op, a⟩)]) j session ∧ cfg.sha256 session.token = key ∧
          session.expiresAt = entry.expiresAt ∧
          ¬ Revoking calls (tr ++ [(i, ⟨s, op, a⟩)]) session.token := by
    intro key entry hentry hrevoke
    refine (h key entry hentry).imp_right ?_
    rintro ⟨j, minutes, session, hcall, hreturned, hkey, hexpires, hnot⟩
    refine ⟨j, minutes, session, hcall, (returned_step hact).mpr (Or.inl hreturned), hkey, hexpires,
      fun hrevoking => ?_⟩
    rcases revoking_snoc.mp hrevoking with hrevoking | hnow
    · exact hnot hrevoking
    · exact (hrevoke _ hnow).elim hnot fun hne => hne hkey
  generalize hcall : calls i = call at hrule
  intro key entry hentry
  cases call with
  | createSession id port minutes =>
    obtain rfl : op = .sessions (createSegment cfg id port minutes) := hrule
    obtain ⟨-, hreply, rfl⟩ := act_sessions_eq hact
    by_cases hkey : key = cfg.sha256 a.random
    · subst hkey
      dsimp only [createSegment] at hentry
      rw [Function.update_self] at hentry
      obtain rfl := (Option.some.inj hentry).symm
      cases hiso : toISOString (a.later + expiryMs cfg minutes) with
      | error e => exact Or.inl ⟨e, rfl⟩
      | ok instant =>
        obtain ⟨host, hsome⟩ := Option.ne_none_iff_exists'.mp hhost
        obtain ⟨reply, hok⟩ : ∃ reply, r = .ok reply := by
          rw [hreply]
          simp [createSegment, sessionResult, hsome, hiso, Except.map]
        have hresult := hreply.symm.trans hok
        obtain ⟨session, rfl, htoken, hexpires, -⟩ := sessionResult_eq_ok hresult
        refine Or.inr ⟨i, minutes, session, hcall, (returned_step hact).mpr (Or.inr ⟨rfl,
          createSegment cfg id port minutes, ?_⟩), by rw [htoken], hexpires, fun hrevoking => ?_⟩
        · rw [hok]
        -- a revocation that has begun was given the token before it was drawn
        · rcases revoking_snoc.mp hrevoking with ⟨j, ev, hrevoke, hev⟩ | hnow
          · refine ((hsafe.fresh id port minutes hcall).2 _ hev).1 ?_
            rw [hrevoke, htoken]
            rfl
          · rw [hcall] at hnow
            cases hnow
    · dsimp only [createSegment] at hentry
      rw [Function.update_of_ne hkey] at hentry
      have hold : s.sessions key = some entry := (Option.filter_eq_some_iff.mp hentry).1
      exact hkept key entry hold fun token hrevoke => by rw [hcall] at hrevoke; cases hrevoke
  | validateSession token =>
    have hold : s.sessions key = some entry := by
      rcases hrule with rfl | rfl
      · cases hact
        exact hentry
      · obtain ⟨-, -, rfl⟩ := act_sessions_eq hact
        exact validateSegment_some hentry
    exact hkept key entry hold fun token hrevoke => by rw [hcall] at hrevoke; cases hrevoke
  | revokeSession token =>
    rcases hrule with rfl | ⟨hbegun, rfl⟩
    · obtain ⟨-, -, rfl⟩ := act_sessions_eq hact
      obtain ⟨hkey, hold⟩ := revokeSegment_some ⟨a.time, a.later, a.random⟩ hentry
      refine hkept key entry hold fun token' hrevoke => Or.inr fun heq => hkey ?_
      rw [hcall] at hrevoke
      cases hrevoke
      exact heq.symm
    · have hold : s.sessions key = some entry := by rwa [← saveRevokedSession_sessions hact]
      refine hkept key entry hold fun token' hrevoke => Or.inl ?_
      exact revoking_of_transcript hrevoke hbegun

/-- A session that was returned before stays through the step: a creation draws another token, a
validation takes out only what has expired, and a revocation is of another token. -/
theorem StillThere.step (hsha : Function.Injective cfg.sha256) (h : StillThere cfg calls tr s)
    (hruled : ∀ i, Prog.Ruled ((calls i).rule cfg) (Pool.transcript backend i tr))
    (hsafe : Orderly cfg calls tr i ⟨s, op, a⟩) (hact : act op a s = some (r, s'))
    (hrule : (calls i).rule cfg (Pool.transcript backend i tr) op) :
    StillThere cfg calls (tr ++ [(i, ⟨s, op, a⟩)]) s' := by
  intro j id port minutes session hcreate hreturned hnot
  have hnot' : ¬ Revoking calls tr session.token :=
    fun hold => hnot (revoking_snoc.mpr (Or.inl hold))
  have hnow : calls i ≠ .revokeSession session.token :=
    fun hcall => hnot (revoking_snoc.mpr (Or.inr hcall))
  generalize hcall : calls i = call at hrule
  cases call with
  | createSession id' port' minutes' =>
    obtain rfl : op = .sessions (createSegment cfg id' port' minutes') := hrule
    obtain ⟨hle, hreply, rfl⟩ := act_sessions_eq hact
    obtain ⟨hunused, hfresh⟩ := hsafe.fresh id' port' minutes' hcall
    rcases (returned_step hact).mp hreturned with hold | ⟨rfl, segment, hnew⟩
    · obtain ⟨hrevoked, hthere⟩ := h j id port minutes session hcreate hold hnot'
      refine ⟨hrevoked, ?_⟩
      -- the token drawn is another one, so only pruning can touch the entry
      have hruled_j := hruled j
      rw [hcreate] at hruled_j
      obtain ⟨⟨ev, hev, hrandom⟩, -⟩ := hold.drawn hruled_j
      have hother : cfg.sha256 session.token ≠ cfg.sha256 a.random := fun heq =>
        (hfresh _ hev).2 id port minutes hcreate (hrandom.trans (hsha heq))
      rcases hthere with hentry | hpassed
      · by_cases hexpired : session.expiresAt ≥ a.time
        · refine Or.inl ?_
          dsimp only [createSegment]
          rw [Function.update_of_ne hother, pruneExpired, hentry]
          simp [hexpired]
        · refine Or.inr ⟨_, List.mem_append_right _ List.mem_cons_self, rfl, ?_⟩
          show session.expiresAt < a.later
          omega
      · exact Or.inr hpassed.snoc
    -- the session is the one that this step creates
    · rw [hcreate] at hcall
      cases hcall
      cases hnew
      obtain ⟨session', hsession, htoken, hexpires, -⟩ := sessionResult_eq_ok hreply.symm
      cases hsession
      refine ⟨htoken ▸ hunused, Or.inl ?_⟩
      dsimp only [createSegment]
      rw [htoken, hexpires, Function.update_self]
  | validateSession token =>
    have hij : i ≠ j := by
      rintro rfl
      rw [hcreate] at hcall
      cases hcall
    have hold := ((returned_step hact).mp hreturned).resolve_right fun h => hij h.1
    obtain ⟨hrevoked, hthere⟩ := h j id port minutes session hcreate hold hnot'
    rcases hrule with rfl | rfl
    · cases hact
      exact ⟨hrevoked, hthere.imp_right Passed.snoc⟩
    · obtain ⟨hle, -, rfl⟩ := act_sessions_eq hact
      refine ⟨hrevoked, ?_⟩
      rcases hthere with hentry | hpassed
      · dsimp only [validateSegment]
        split
        · exact Or.inl hentry
        · rename_i entry hfound
          split_ifs with hexpired
          -- what the validation deletes has expired; if it is the session, its expiry has passed
          · by_cases hkey : cfg.sha256 session.token = cfg.sha256 token
            · rw [hkey, hfound] at hentry
              obtain rfl := Option.some.inj hentry
              refine Or.inr ⟨_, List.mem_append_right _ List.mem_cons_self, rfl, ?_⟩
              show session.expiresAt < a.later
              exact Int.lt_of_lt_of_le hexpired hle
            · refine Or.inl ?_
              show Function.update s.sessions _ none (cfg.sha256 session.token) = _
              rw [Function.update_of_ne hkey, hentry]
          · exact Or.inl hentry
      · exact Or.inr hpassed.snoc
  | revokeSession token =>
    have hij : i ≠ j := by
      rintro rfl
      rw [hcreate] at hcall
      cases hcall
    have hold := ((returned_step hact).mp hreturned).resolve_right fun h => hij h.1
    obtain ⟨hrevoked, hthere⟩ := h j id port minutes session hcreate hold hnot'
    have hother : cfg.sha256 session.token ≠ cfg.sha256 token := fun heq =>
      hnow (by rw [hcall, hsha heq])
    rcases hrule with rfl | ⟨-, rfl⟩
    · obtain ⟨-, -, rfl⟩ := act_sessions_eq hact
      refine ⟨hrevoked, hthere.imp (fun hentry => ?_) Passed.snoc⟩
      dsimp only [revokeSegment]
      rw [Function.update_of_ne hother, hentry]
    · simp only [act] at hact
      split_ifs at hact
      · cases hact
        exact ⟨hrevoked, hthere.imp_right Passed.snoc⟩
      · split at hact <;> cases hact
        · exact ⟨hrevoked, hthere.imp_right Passed.snoc⟩
        · refine ⟨?_, hthere.imp_right Passed.snoc⟩
          rw [List.mem_cons, not_or]
          exact ⟨hother, hrevoked⟩

/-! ## What a validation makes of them

From the invariants, what one step of a validation is answered. A whole validation is judged by the
step that answered it. -/

/-- A creation returned the session of a validation's result. -/
def ReturnedResult (calls : ι → SessionCall) (tr : History ι) (token : String)
    (result : SshValidateResult) : Prop :=
  ∃ j minutes session, calls j = .createSession result.sandboxId result.hostPort minutes ∧
    Returned tr j session ∧ session.token = token ∧ session.expiresAt = result.expiresAt

/-- A step of a validation finds a session only when it may, and always when it must. -/
structure StepKept (calls : ι → SessionCall) (tr : History ι) (i : ι)
    (ev : Event requests World Answer) : Prop where
  sound : ∀ token segment result, calls i = .validateSession token →
    Pool.answered backend ev = some ⟨.sessions segment, .ok (.validated (some result))⟩ →
    ReturnedResult calls tr token result ∧ ev.answer.time ≤ result.expiresAt ∧
      ¬ Revoking calls tr token
  complete : ∀ token e j id port minutes session, calls i = .validateSession token →
    Pool.answered backend ev = some e → Denies e → calls j = .createSession id port minutes →
    Returned tr j session → session.token = token → ¬ Revoking calls tr token →
    readsClock ev = true ∧ session.expiresAt < ev.answer.time

/-- The step reads the table or the map. The invariants say what it finds there, and the clock what
it makes of it. -/
theorem stepKept (hsha : Function.Injective cfg.sha256) (honly : OnlyReturned cfg calls tr s)
    (hstill : StillThere cfg calls tr s)
    (hruled : ∀ i, Prog.Ruled ((calls i).rule cfg) (Pool.transcript backend i tr))
    (hsafe : Orderly cfg calls tr i ⟨s, op, a⟩) (hact : act op a s = some (r, s'))
    (hrule : (calls i).rule cfg (Pool.transcript backend i tr) op) :
    StepKept calls tr i ⟨s, op, a⟩ := by
  have hanswer : ∀ e, Pool.answered backend ⟨s, op, a⟩ = some e → e = ⟨op, r⟩ := by
    intro e he
    simp only [Pool.answered, backend, hact, Option.map_some, Option.some.injEq] at he
    exact he.symm
  refine ⟨fun token segment result hcall hreply => ?_, ?_⟩
  · rw [hcall] at hrule
    obtain h := hanswer _ hreply
    rcases hrule with rfl | rfl
    · cases h
    -- a result was given, so the map had an entry under the hash that was not past its expiry
    cases h
    obtain ⟨-, hresult, -⟩ := act_sessions_eq hact
    unfold validateSegment at hresult
    cases hfound : s.sessions (cfg.sha256 token) with
    | none =>
      simp [hfound] at hresult
    | some entry =>
      simp only [hfound] at hresult
      split_ifs at hresult with hexpired
      · simp at hresult
      cases hiso : toISOString entry.expiresAt with
      | error e => simp [hiso, Except.map] at hresult
      | ok instant =>
        rw [hiso] at hresult
        obtain rfl := toISOString_eq_ok hiso
        cases hresult
        -- it was entered by a creation that had returned, or has an expiry that no result shows
        rcases honly _ entry hfound with ⟨e, he⟩ | ⟨j, minutes, session, hcreate, hreturned, hkey,
          hexpires, hnot⟩
        · rw [hiso] at he
          cases he
        · obtain rfl := hsha hkey
          exact ⟨⟨j, minutes, session, hcreate, hreturned, rfl, hexpires⟩,
            Int.not_lt.mp hexpired, hnot⟩
  · rintro token e j id port minutes session hcall hreply hdenies hcreate hreturned rfl hnot
    rw [hcall] at hrule
    obtain rfl := hanswer _ hreply
    obtain ⟨hrevoked, hthere⟩ := hstill j id port minutes session hcreate hreturned hnot
    have hruled_j := hruled j
    rw [hcreate] at hruled_j
    obtain ⟨-, hiso⟩ := hreturned.drawn hruled_j
    rcases hrule with rfl | rfl
    · -- the token is not among the revoked ones, so this step denies nothing
      simp only [act, Option.some.injEq, Prod.mk.injEq] at hact
      have hfalse : r = false := by
        rw [← hact.1, List.contains_eq_mem]
        exact decide_eq_false hrevoked
      subst hfalse
      cases hdenies
    · refine ⟨rfl, ?_⟩
      rcases hthere with hentry | ⟨x, hx, hreads, hlt⟩
      · -- the entry is there, so only its expiry can be the reason
        by_contra hlive
        obtain ⟨-, hresult, -⟩ := act_sessions_eq hact
        have hgiven : r = .ok (.validated (some ⟨id, port, session.expiresAt⟩)) := by
          rw [hresult]
          simp only [validateSegment, hentry]
          rw [if_neg hlive, hiso]
          rfl
        subst hgiven
        cases hdenies with
        | unknown segment reply h => exact h _ rfl
      · -- an earlier step has seen it expired, and the clock has not gone back
        exact Int.lt_of_lt_of_le hlt (hsafe.forward rfl x hx hreads)

end Step

/-! ## Every run

Soundness and completeness of validations, in any interleaving. They need fresh tokens, a clock that
does not go back, and a hash without collisions. -/

/-- The calls of `ι`, all at their start in `s`. -/
def sessionCalls (cfg : AppConfig) (calls : ι → SessionCall) (s : World) :
    Pool requests ServiceError SessionCallReply World ι :=
  ⟨fun i => (calls i).prog cfg, s⟩

/-- What validations have returned is right, and what they must return they have. -/
structure Kept (calls : ι → SessionCall) (tr : History ι)
    (c : Pool requests ServiceError SessionCallReply World ι) : Prop where
  /-- when the map was read, a creation had returned the session, it had not expired, and no
  revocation had begun -/
  sound : ∀ i token result, calls i = .validateSession token →
    c.thread i = .pure (.validated (some result)) →
    ∃ pre ev rest, tr = pre ++ (i, ev) :: rest ∧ readsClock ev = true ∧
      ReturnedResult calls pre token result ∧ ev.answer.time ≤ result.expiresAt ∧
      ¬ Revoking calls pre token
  /-- a validation that began after the creation returned, saw it unexpired and ended before any
  revocation began returns a result -/
  complete : ∀ i token j id port minutes session, calls i = .validateSession token →
    (c.thread i).outcome ≠ none → calls j = .createSession id port minutes →
    session.token = token → (∀ pre ev rest, tr = pre ++ (i, ev) :: rest → Returned pre j session) →
    (∀ ev, (i, ev) ∈ tr → readsClock ev = true → ev.answer.time ≤ session.expiresAt) →
    ¬ Revoking calls tr token → ∃ result, c.thread i = .pure (.validated (some result))

end Lifecycle

/-- In every run from an empty map, with fresh tokens and a clock that does not go back, sessions
live as they should. -/
def SessionsKept (cfg : AppConfig) : Prop :=
  ∀ (ι : Type) [DecidableEq ι] (calls : ι → SessionCall) (s : World) (tr : History ι)
    (c : Pool requests ServiceError SessionCallReply World ι), s.sessions = (fun _ => none) →
    Pool.Run backend (Orderly cfg calls) (sessionCalls cfg calls s) tr c → Kept calls tr c

/-- The invariants and the property of each step are carried through the run together; what a call
returns is then traced back to a step. -/
theorem kept_of_run {ι : Type} [DecidableEq ι] {cfg : AppConfig} {calls : ι → SessionCall}
    {s : World} {tr : History ι} {c : Pool requests ServiceError SessionCallReply World ι}
    (hsha : Function.Injective cfg.sha256) (hhost : cfg.proxyHostname ≠ none)
    (hempty : s.sessions = fun _ => none)
    (hrun : Pool.Run backend (Orderly cfg calls) (sessionCalls cfg calls s) tr c) :
    Kept calls tr c := by
  have hinv := Pool.Run.every_step
    (J := fun tr s => OnlyReturned cfg calls tr s ∧ StillThere cfg calls tr s)
    (P := fun pre i ev => StepKept calls pre i ev) (fun i => (calls i).follows cfg) ?_ ?_ hrun
  · obtain ⟨⟨-, hsteps⟩, -, hfollows⟩ := hinv
    have hpost : ∀ i token, calls i = .validateSession token → ∀ x,
        (c.thread i).outcome = some x → Validates (Pool.transcript backend i tr) x := by
      intro i token hcall x hx
      have hi := (hfollows i).outcome hx
      rwa [hcall] at hi
    refine ⟨fun i token result hcall hthread => ?_, ?_⟩
    · -- what is returned is the answer of one step
      obtain ⟨segment, hmem⟩ :=
        (hpost i token hcall _ (Prog.outcome_eq_ok.mpr hthread)).1 result rfl
      obtain ⟨ev, hev, hanswered⟩ := Pool.mem_transcript.mp hmem
      obtain ⟨pre, rest, htr⟩ := List.append_of_mem hev
      have hreads : readsClock ev = true := by
        obtain ⟨w, b, w', rfl, -⟩ := Pool.answered_eq_some.mp hanswered
        rfl
      exact ⟨pre, ev, rest, htr, hreads,
        (hsteps pre (i, ev) rest htr).sound token segment result hcall hanswered⟩
    · rintro i token j id port minutes session hcall hended hcreate rfl hbefore hlive hnot
      obtain ⟨x, hx⟩ := Option.ne_none_iff_exists'.mp hended
      -- without a result, one of the steps denied it
      by_contra hresult
      have hdenied : ∃ e ∈ Pool.transcript backend i tr, Denies e := by
        refine (hpost i session.token hcall x hx).2 fun result h => hresult ⟨result, ?_⟩
        rw [h] at hx
        exact Prog.outcome_eq_ok.mp hx
      obtain ⟨e, he, hdenies⟩ := hdenied
      obtain ⟨ev, hev, hanswered⟩ := Pool.mem_transcript.mp he
      obtain ⟨pre, rest, htr⟩ := List.append_of_mem hev
      have hnot' : ¬ Revoking calls pre session.token := by
        rintro ⟨k, ev', hrevoke, hmem⟩
        refine hnot ⟨k, ev', hrevoke, ?_⟩
        rw [htr]
        exact List.mem_append_left _ hmem
      obtain ⟨hreads, hlt⟩ := (hsteps pre (i, ev) rest htr).complete session.token e j id port
        minutes session hcall hanswered hdenies hcreate (hbefore pre ev rest htr) rfl hnot'
      exact absurd (hlive ev hev hreads) (Int.not_le.mpr hlt)
  · refine ⟨fun key entry hentry => ?_, fun j id port minutes session _ hreturned => ?_⟩
    · have hnone : s.sessions key = none := congrFun hempty key
      exact absurd (hnone.symm.trans hentry) (by simp)
    · obtain ⟨segment, hmem⟩ := hreturned
      exact absurd hmem List.not_mem_nil
  · rintro tr s i op a r s' ⟨honly, hstill⟩ hruled hsafe hact hrule
    exact ⟨⟨honly.step hhost hsafe hact hrule, hstill.step hsha hruled hsafe hact hrule⟩,
      stepKept hsha honly hstill hruled hsafe hact hrule⟩


/-! ## Without a proxy base URL

The entry is set before the command for the user is built from the base URL. When that throws,
nobody is given the token, and the entry stays. -/

/-- A creation that throws, and a validation of the token it has drawn. -/
def abandoned : Bool → SessionCall
  | false => .createSession "a" 1 (some 1)
  | true => .validateSession "t"

/-- The world after the creation. -/
def entered (cfg : AppConfig) : World :=
  { World.fresh .empty with
    sessions := Function.update (fun _ => none) (cfg.sha256 "t") (some ⟨"a", 1, 60000⟩) }

/-- The creation enters its session, throws, and the validation finds the session. -/
theorem not_sessionsKept_of_no_host {cfg : AppConfig} (hhost : cfg.proxyHostname = none) :
    ¬ SessionsKept cfg := by
  intro hkept
  have hcreate : backend.act (.sessions (createSegment cfg "a" 1 (some 1))) { random := "t" }
      (World.fresh .empty) = some (.error invalidUrl, entered cfg) := by
    simp only [backend, act, createSegment, sessionResult, hhost]
    rfl
  have hlookup : backend.act (.findRevokedSession (cfg.sha256 "t")) {} (entered cfg) =
      some (false, entered cfg) := rfl
  have hvalidate : backend.act (.sessions (validateSegment (cfg.sha256 "t"))) {} (entered cfg) =
      some (.ok (.validated (some ⟨"a", 1, 60000⟩)), entered cfg) := by
    simp only [backend, act, validateSegment, entered, Function.update_self]
    rfl
  have hrun₁ : Pool.Run backend (Orderly cfg abandoned)
      (sessionCalls cfg abandoned (World.fresh .empty)) _ _ :=
    Pool.Run.step .start (Pool.Step.serve (i := false) rfl hcreate)
      ⟨by simp, by simp [sessionCalls, World.fresh]⟩
  have hrun₂ := hrun₁.step (Pool.Step.serve (i := true) rfl hlookup)
    ⟨by simp [readsClock], by simp [abandoned]⟩
  have hrun₃ := hrun₂.step (Pool.Step.serve (i := true) rfl hvalidate)
    ⟨by simp [readsClock], by simp [abandoned]⟩
  obtain ⟨pre, ev, rest, htr, -, ⟨j, minutes, session, hcall, ⟨segment, hreturned⟩, -⟩, -⟩ :=
    (hkept Bool abandoned _ _ _ rfl hrun₃).sound true "t" ⟨"a", 1, 60000⟩ rfl rfl
  obtain ⟨ev', hmem, hanswered⟩ := Pool.mem_transcript.mp hreturned
  have hall := htr ▸ List.mem_append_left (List.cons (true, ev) rest) hmem
  obtain ⟨w, b, w', rfl, hact⟩ := Pool.answered_eq_some.mp hanswered
  cases j with
  | true => cases hcall
  | false =>
    -- the only step of the creation was answered with the exception
    simp only [List.nil_append, List.cons_append, List.mem_cons, Prod.mk.injEq,
      Event.mk.injEq, true_and, Bool.false_eq_true, false_and, List.not_mem_nil, or_false] at hall
    obtain ⟨rfl, hsegment, rfl⟩ := hall
    cases hsegment
    cases hcreate.symm.trans hact

/-- **Session lifecycle.** However creations, validations and revocations interleave, a validation
returns the session that the creation of its token returned, until that session has expired or its
revocation has begun, and nothing else. When the token hash has no collisions, this holds exactly
when the proxy base URL is one: otherwise the entry is set before `new URL` throws, and a session is
found that no creation has returned. -/
theorem sessions_kept_iff (cfg : AppConfig) (hsha : Function.Injective cfg.sha256) :
    SessionsKept cfg ↔ cfg.proxyHostname ≠ none := by
  constructor
  · exact fun hkept hhost => not_sessionsKept_of_no_host hhost hkept
  -- with a base URL a creation that enters its session also returns it
  · intro hhost ι _ calls s tr c hempty hrun
    exact kept_of_run hsha hhost hempty hrun

/-- A hash without collisions, and a proxy base URL. -/
theorem sessions_kept_smallConfig : SessionsKept (smallConfig 31005) :=
  (sessions_kept_iff (smallConfig 31005) fun _ _ h => h).mpr (by simp [smallConfig])

/-- A hash without collisions is not enough. -/
theorem sessions_not_always_kept :
    ¬ ∀ cfg : AppConfig, Function.Injective cfg.sha256 → SessionsKept cfg := by
  intro hclaim
  have hkept := hclaim { smallConfig 31005 with proxyHostname := none } fun _ _ h => h
  exact not_sessionsKept_of_no_host rfl hkept

end Microsandbox
