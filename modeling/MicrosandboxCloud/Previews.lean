import MicrosandboxCloud.Proxy
import MicrosandboxCloud.Process.Transcript

/-!
# Microsandbox — signed preview tokens among calls in flight

* **`PreviewCall`** — the calls of the services together with the two that resolve a token.
* **`PreviewCall.rule`** — what such a call may ask after what it was answered: a token is stored
  only by `getSignedPreviewUrl`, for the runtime it looked up and after its rotation.
* **`one_token_per_port`** — rotations that do not cross leave one token for a sandbox port.
-/

namespace Microsandbox

open Process Data Text RuntimeControl Registry

/-! ## Calls

Next to the calls of the service there are the two through which a token is used: the internal
endpoint that resolves it, and the proxy. -/

/-- A call of the service, or one of the two that resolve a token. -/
inductive PreviewCall where
  | service (call : ServiceCall)
  | resolveSignedPreviewToken (token : String) (port : Int)
  | validateProxyAccessBySignedToken (token : String) (port : Int)

/-- The program of a call; of its result only the runtime that a token opened is looked at. -/
def PreviewCall.prog (cfg : AppConfig) : PreviewCall → Async (Option RuntimeEntity)
  | .service call => do
    call.prog cfg
    return none
  | .resolveSignedPreviewToken token port => do
    let _ ← RuntimeControl.resolveSignedPreviewToken token port
    return none
  | .validateProxyAccessBySignedToken token port => do
    let target ← RuntimeControl.validateProxyAccessBySignedToken token port
    return some target.1

/-- The calls of `ι`, all at their start in `s`. -/
def previewing {ι : Type} (cfg : AppConfig) (calls : ι → PreviewCall) (s : World) :
    Pool requests ServiceError (Option RuntimeEntity) World ι :=
  ⟨fun i => (calls i).prog cfg, s⟩

/-- The pools that the calls reach from an empty store, each step meeting `safe`. -/
def Previewing {ι : Type} [DecidableEq ι] (cfg : AppConfig) (calls : ι → PreviewCall)
    (safe : History ι → ι → Event requests World Answer → Prop)
    (volumes : Table VolumeEntity volumeKeys) (tr : History ι)
    (c : Pool requests ServiceError (Option RuntimeEntity) World ι) : Prop :=
  Pool.Run backend safe (previewing cfg calls (World.fresh volumes)) tr c

/-! ## The rule of each call

What a call may ask, as a relation between what it was answered so far and its next request. Two
calls have a rule of their own; every other one stores no token, which is shown for them together.
-/

/-- `getSignedPreviewUrl`: one lookup, and a token only for the runtime found, after the older ones
for its port were deleted. -/
def IssueRule (t : Transcript requests) : Request → Prop
  | .findRuntime _ => t = []
  | .insertSignedToken record => ∃ query row, t.head? = some ⟨.findRuntime query, some row⟩ ∧
      row.sandboxId = record.sandboxId ∧
      ⟨.deleteSignedTokens (.bySandboxPort record.sandboxId record.port), ()⟩ ∈ t ∧
      ⟨.randomBytes, record.token⟩ ∈ t
  | _ => True

/-- `validateProxyAccessBySignedToken`: the token first, and one lookup of the runtime. -/
def ResolveRule (token : String) (port : Int) (t : Transcript requests) : Request → Prop
  | .findSignedToken token' port' => t = [] ∧ token' = token ∧ port' = port
  | .findRuntime _ => (∃ record, ⟨.findSignedToken token port, some record⟩ ∈ t) ∧
      ∀ query found, ⟨.findRuntime query, found⟩ ∉ t
  | op => op.StoresNoToken

/-- The rule of a call. Only `getSignedPreviewUrl` may store a token. -/
def PreviewCall.rule : PreviewCall → Transcript requests → Request → Prop
  | .service (.getSignedPreviewUrl _ _), t, op => IssueRule t op
  | .validateProxyAccessBySignedToken token port, t, op => ResolveRule token port t op
  | _, _, op => op.StoresNoToken

/-- A runtime that a call opened is one it has looked up. -/
def Opened (t : Transcript requests) (x : Except ServiceError (Option RuntimeEntity)) : Prop :=
  ∀ row, x = .ok (some row) → ∃ query, ⟨.findRuntime query, some row⟩ ∈ t

section Rules

variable {α : Type} {may : Transcript requests → Request → Prop}
  {post : Transcript requests → Except ServiceError α → Prop} {t : Transcript requests}

/-- The lookup of a runtime by a reference: one request if the reference has a normal form, none
otherwise. -/
theorem follows_requireRuntime {value : String} {k : RuntimeEntity → Async α}
    (hmay : ∀ v, normalizeSandboxId value = .ok v → may t (.findRuntime (.bySandboxIdOrName v)))
    (hk : ∀ v row,
      (k row).Follows may post (t ++ [⟨.findRuntime (.bySandboxIdOrName v), some row⟩]))
    (herror : ∀ t e, post t (.error e)) : (requireRuntime value >>= k).Follows may post t := by
  unfold requireRuntime findRuntimeBySandboxIdOrName
  rw [Prog.bind_assoc, Prog.bind_assoc]
  refine Prog.Follows.sync (fun v hv => ?_) fun e _ => herror t e
  refine Prog.Follows.request (hmay v hv) fun found => ?_
  cases found with
  | none => exact Prog.Follows.throw (herror _ _)
  | some row => exact hk v row

/-- Bringing the status up to date writes only the status, and asks only for it and a save. -/
theorem follows_syncStatus {row : RuntimeEntity} {k : RuntimeEntity → Async α}
    (hstatus : may t (.getStatus row.sandboxName))
    (hsave : ∀ u status, may (t ++ u) (.saveRuntime { row with status := status }))
    (hk : ∀ u status, (∀ e ∈ u, ∀ query, e.1 ≠ Request.findRuntime query) →
      (k { row with status := status }).Follows may post (t ++ u))
    (herror : ∀ t e, post t (.error e)) : (syncStatus row >>= k).Follows may post t := by
  unfold syncStatus
  rw [Prog.bind_assoc]
  refine Prog.Follows.request hstatus fun status => ?_
  -- the row is saved only if the backend reports another status
  split_ifs
  · unfold updateRuntime
    rw [Prog.bind_assoc]
    refine Prog.Follows.request (hsave _ _) fun saved => ?_
    rw [Prog.bind_assoc]
    refine Prog.Follows.sync (fun _ _ => ?_) fun e _ => herror _ e
    rw [List.append_assoc]
    exact hk _ _ (by simp)
  · exact hk _ row.status (by simp)

/-- Bringing the status up to date stores no token. -/
theorem syncStatus_storesNoToken (row : RuntimeEntity) :
    (syncStatus row).Uses Request.StoresNoToken := by
  refine Prog.Uses.bind (Prog.Uses.request trivial) fun status => ?_
  split_ifs
  · exact storesNoToken_stageClosed.mild (updateRuntime_mild _)
  · exact storesNoToken_stageClosed.pure row

/-- The calls that load a running row, call the backend and touch the row. -/
theorem activity_storesNoToken {β : Type} {value : String} {k : RuntimeEntity → Async β}
    (hk : ∀ row, (k row).Uses Request.StoresNoToken) :
    (requireRunningRuntime value >>= k).Uses Request.StoresNoToken := by
  have hP := storesNoToken_stageClosed
  refine Prog.Uses.bind ?_ hk
  refine hP.query (requireRuntime_uses value) fun row => ?_
  refine (syncStatus_storesNoToken row).bind fun row => ?_
  split_ifs
  · exact hP.throw _
  · exact hP.pure row

theorem touch_storesNoToken (row : RuntimeEntity) : (touch row).Uses Request.StoresNoToken :=
  storesNoToken_stageClosed.mild (mild_request trivial fun _ => updateRuntime_mild _)

/-- A call of the services other than `getSignedPreviewUrl` stores no token. -/
theorem ServiceCall.storesNoToken (cfg : AppConfig) {call : ServiceCall}
    (hcall : ∀ id port, call ≠ .getSignedPreviewUrl id port) :
    (call.prog cfg).Uses Request.StoresNoToken := by
  have hP := storesNoToken_stageClosed
  have hrequest : ∀ {β : Type} {op : Request} {k : op.Reply → Async β}, op.StoresNoToken →
      (∀ r, (k r).Uses Request.StoresNoToken) → (await op >>= k).Uses Request.StoresNoToken :=
    fun hop hk => Prog.Uses.bind (Prog.Uses.request hop) hk
  cases call with
  | sandbox call => exact hP.bind (prog_of_stages hP call) fun _ => hP.pure _
  | get id =>
    refine hP.bind (hP.query (requireRuntime_uses id) fun row => ?_) fun _ => hP.pure _
    exact (syncStatus_storesNoToken row).bind fun _ => hP.pure _
  | exec id command args =>
    refine hP.bind (activity_storesNoToken fun row => ?_) fun _ => hP.pure _
    exact hrequest trivial fun r => hP.sync fun _ =>
      hP.bind (touch_storesNoToken row) fun _ => hP.pure _
  | refreshActivity id =>
    refine hP.bind (activity_storesNoToken fun row => ?_) fun _ => hP.pure _
    exact hrequest trivial fun r => hP.sync fun _ =>
      hP.bind (touch_storesNoToken row) fun _ => hP.pure _
  | writeFiles id files =>
    refine hP.bind (activity_storesNoToken fun row => ?_) fun _ => hP.pure _
    exact hrequest trivial fun r => hP.sync fun _ =>
      hP.bind (touch_storesNoToken row) fun _ => hP.pure _
  | downloadFiles id paths =>
    refine hP.bind (activity_storesNoToken fun row => ?_) fun _ => hP.pure _
    exact hrequest trivial fun r => hP.sync fun _ =>
      hP.bind (touch_storesNoToken row) fun _ => hP.pure _
  | getSignedPreviewUrl id port => exact absurd rfl (hcall id port)
  -- a token is looked up and deleted
  | expireSignedPreviewUrl id port token =>
    refine hP.bind (hP.query (requireRuntime_uses id) fun row => ?_) fun _ => hP.pure _
    refine hrequest trivial fun found => ?_
    cases found with
    | none => exact hP.throw _
    | some record =>
      dsimp only
      split_ifs
      · exact hP.throw _
      · exact hrequest trivial fun _ => hP.pure _

/-- Resolving a token may delete it, when it has expired, but stores none. -/
theorem resolveSignedPreviewToken_storesNoToken (token : String) (port : Int) :
    (RuntimeControl.resolveSignedPreviewToken token port).Uses Request.StoresNoToken := by
  have hP := storesNoToken_stageClosed
  refine Prog.Uses.bind (Prog.Uses.request trivial) fun found => ?_
  cases found with
  | none => exact hP.throw _
  | some record =>
    refine Prog.Uses.bind (Prog.Uses.bind (Prog.Uses.request trivial) fun _ => hP.pure _)
      fun expired => ?_
    split_ifs
    · exact Prog.Uses.bind (Prog.Uses.request trivial) fun _ => hP.throw _
    · exact hP.pure _

/-- The one call that stores a token. Its rule is read off the program, await after await. -/
theorem getSignedPreviewUrl_follows (cfg : AppConfig) (id : String) (port : Int) :
    (getSignedPreviewUrl cfg id port).Follows IssueRule (fun _ _ => True) [] := by
  unfold getSignedPreviewUrl ensurePreviewable requireRunningRuntime
  simp only [Prog.bind_assoc]
  apply follows_requireRuntime
  case hmay => exact fun _ _ => rfl
  case herror => exact fun _ _ => trivial
  intro v row
  apply follows_syncStatus
  case hstatus => exact trivial
  case hsave => exact fun _ _ => trivial
  case herror => exact fun _ _ => trivial
  intro u status _
  split_ifs
  · exact Prog.Follows.throw trivial
  apply Prog.Follows.sync
  case herror => exact fun _ _ => trivial
  intro binding _
  -- the rotation, the random bytes, the clock, and then the token itself
  refine Prog.Follows.request trivial fun _ => Prog.Follows.request trivial fun token => ?_
  refine Prog.Follows.request trivial fun now => Prog.Follows.request ?_ fun saved => ?_
  · exact ⟨_, row, by simp; rfl, rfl, by simp, by simp⟩
  · exact Prog.Follows.sync (fun _ _ => Prog.Follows.pure trivial) fun _ _ => trivial

/-- The proxy opens the runtime that it has looked up after the token was found. -/
theorem validateProxyAccessBySignedToken_follows (cfg : AppConfig) (token : String) (port : Int) :
    ((PreviewCall.validateProxyAccessBySignedToken token port).prog cfg).Follows
      (ResolveRule token port) Opened [] := by
  have hthrow : ∀ t e, Opened t (.error e) := fun t e row h => by cases h
  unfold PreviewCall.prog RuntimeControl.validateProxyAccessBySignedToken
    RuntimeControl.resolveSignedPreviewToken getSignedPreviewToken
  simp only [Prog.bind_assoc]
  refine Prog.Follows.request ⟨rfl, rfl, rfl⟩ fun found => ?_
  cases found with
  | none => exact Prog.Follows.throw (hthrow _ _)
  | some record =>
    simp only [hasSignedPreviewTokenExpired, Prog.bind_assoc]
    refine Prog.Follows.request trivial fun now => ?_
    simp only [Prog.pure_eq, Prog.pure_bind]
    -- an expired token is deleted and refused
    split_ifs
    · exact Prog.Follows.request trivial fun _ => Prog.Follows.throw (hthrow _ _)
    simp only [Prog.pure_bind]
    apply follows_requireRuntime
    case hmay => exact fun v hv => ⟨⟨record, by simp⟩, by simp⟩
    case herror => exact hthrow
    intro v row
    apply Prog.Follows.sync
    case herror => exact fun e _ => hthrow _ e
    intro target htarget
    -- the target that is returned is that of the row that was looked up
    obtain ⟨b, -, rfl⟩ := ProxyService.resolveProxyTarget_eq_ok htarget
    refine Prog.Follows.pure fun opened hopened => ⟨.bySandboxIdOrName v, ?_⟩
    cases hopened
    simp

end Rules

/-- Every call keeps to its rule. -/
theorem PreviewCall.follows (cfg : AppConfig) (call : PreviewCall) :
    (call.prog cfg).Follows call.rule Opened [] := by
  -- a call whose result is not looked at opens nothing
  have hblind : ∀ {β : Type} {p : Async β} {may : Transcript requests → Request → Prop},
      p.Follows may (fun _ _ => True) [] →
      (p >>= fun _ => Prog.pure (none : Option RuntimeEntity)).Follows may Opened [] := by
    intro β p may hp
    refine Prog.Follows.bind (hp.mono fun t x _ => ?_)
    cases x with
    | ok _ => exact Prog.Follows.pure fun row h => by cases h
    | error e => exact fun row h => by cases h
  have hquiet : ∀ {β : Type} {p : Async β} {may : Transcript requests → Request → Prop},
      p.Uses Request.StoresNoToken → (∀ t op, op.StoresNoToken → may t op) →
      p.Follows may (fun _ _ => True) [] := fun hp hmay =>
    Prog.Follows.of_uses hp (fun u _ op hop => hmay _ op hop) fun _ _ _ => trivial
  cases call with
  | resolveSignedPreviewToken token port =>
    exact hblind (hquiet (resolveSignedPreviewToken_storesNoToken token port) fun _ _ h => h)
  | validateProxyAccessBySignedToken token port =>
    exact validateProxyAccessBySignedToken_follows cfg token port
  | service call =>
    cases call with
    | getSignedPreviewUrl id port =>
      refine hblind (Prog.Follows.bind ((getSignedPreviewUrl_follows cfg id port).mono ?_))
      intro t x _
      cases x with
      | ok _ => exact Prog.Follows.pure trivial
      | error e => trivial
    | _ =>
      exact hblind (hquiet (ServiceCall.storesNoToken cfg fun id port h => by cases h)
        fun _ _ h => h)

/-! ## One token for a sandbox port

`getSignedPreviewUrl` deletes the older tokens for its port and then stores a new one, in two
awaits. Alone, it leaves one token. Two of them may both delete before either stores. -/

/-- At most one signed token is stored for each sandbox id and port. -/
def OneTokenPerPort (s : World) : Prop :=
  ∀ r₁ ∈ s.signedTokens, ∀ r₂ ∈ s.signedTokens,
    r₁.sandboxId = r₂.sandboxId → r₁.port = r₂.port → r₁ = r₂

section Rotation

variable {ι : Type}

/-- The event of a rotation that deletes the tokens of a sandbox port. -/
def IsRotation (sandboxId : String) (port : Int) (ev : Event requests World Answer) : Prop :=
  ev.op = .deleteSignedTokens (.bySandboxPort sandboxId port)

/-- When a call stores its token, none that was stored for the port since it deleted the older ones
is still there. -/
def RotatesAlone (tr : History ι) (i : ι) (ev : Event requests World Answer) : Prop :=
  ∀ record, ev.op = .insertSignedToken record →
    ∀ rotation mid, IsRotation record.sandboxId record.port rotation →
      Since tr (i, rotation) mid →
      ∀ x ∈ mid, ∀ other, x.2.op = .insertSignedToken other →
        other.sandboxId = record.sandboxId → other.port = record.port →
        other ∉ ev.before.signedTokens

/-- A token stored for a port was stored after every rotation of that port. This is what the history
keeps of a rotation, once other calls have run after it. -/
def StoredSinceRotation (tr : History ι) (s : World) : Prop :=
  ∀ i rotation mid sandboxId port, IsRotation sandboxId port rotation →
    Since tr (i, rotation) mid →
    ∀ record ∈ s.signedTokens, record.sandboxId = sandboxId → record.port = port →
      ∃ x ∈ mid, x.2.op = .insertSignedToken record

variable {tr : History ι} {i : ι} {op : Request} {a : Answer} {s s' : World} {r : op.Reply}

/-- A rotation begins anew with no token for its port, and any other step stores at most the token
that it names. -/
theorem StoredSinceRotation.step (h : StoredSinceRotation tr s)
    (hact : act op a s = some (r, s')) :
    StoredSinceRotation (tr ++ [(i, ⟨s, op, a⟩)]) s' := by
  intro j rotation mid sandboxId port hrotation hsince record hrecord hid hport
  rcases since_snoc.mp hsince with ⟨heq, rfl⟩ | ⟨mid', rfl, hsince'⟩
  · -- the rotation itself leaves no token for the port
    obtain rfl : rotation = ⟨s, op, a⟩ := (congrArg Prod.snd heq)
    obtain rfl : op = .deleteSignedTokens (.bySandboxPort sandboxId port) := hrotation
    cases hact
    have hkept := (Table.mem_delete.mp hrecord).2
    simp [SignedTokenQuery.selects, hid, hport] at hkept
  · rcases mem_signedTokens hact hrecord with hold | hnew
    · obtain ⟨x, hx, hstored⟩ := h j rotation mid' sandboxId port hrotation hsince' record hold hid
        hport
      exact ⟨x, List.mem_append_left _ hx, hstored⟩
    · exact ⟨_, List.mem_append_right _ List.mem_cons_self, congrArg Sigma.fst hnew⟩

/-- **One step.** Storing a token under its conditions leaves it alone for its port. -/
theorem OneTokenPerPort.step [DecidableEq ι] {call : PreviewCall} (h : OneTokenPerPort s)
    (hsince : StoredSinceRotation tr s) (hsafe : RotatesAlone tr i ⟨s, op, a⟩)
    (hact : act op a s = some (r, s')) (hrule : call.rule (Pool.transcript backend i tr) op) :
    OneTokenPerPort s' := by
  -- a call that stores a token has rotated, so no other token for the port is there
  have halone : ∀ record, op = .insertSignedToken record → ∀ other ∈ s.signedTokens,
      other.sandboxId = record.sandboxId → ¬ other.port = record.port := by
    rintro record rfl other hother hid hport
    cases call with
    | resolveSignedPreviewToken | validateProxyAccessBySignedToken => exact hrule.elim
    | service call =>
      cases call with
      | getSignedPreviewUrl id port =>
        obtain ⟨-, -, -, -, hrotated, -⟩ := hrule
        obtain ⟨rotation, hmem, hanswered⟩ := Pool.mem_transcript.mp hrotated
        have hrotation : IsRotation record.sandboxId record.port rotation := by
          obtain ⟨w, b, w', rfl, -⟩ := Pool.answered_eq_some.mp hanswered
          rfl
        obtain ⟨mid, hmid⟩ := exists_since hmem
        obtain ⟨x, hx, hstored⟩ := hsince i rotation mid _ _ hrotation hmid other hother hid hport
        exact hsafe record rfl rotation mid hrotation hmid x hx other hstored hid hport hother
      | _ => exact hrule.elim
  intro r₁ hr₁ r₂ hr₂ hid hport
  have hstored : ∀ record ∈ s'.signedTokens,
      record ∈ s.signedTokens ∨ op = .insertSignedToken record :=
    fun record hrecord => (mem_signedTokens hact hrecord).imp_right (congrArg Sigma.fst)
  rcases hstored r₁ hr₁ with h₁ | h₁ <;> rcases hstored r₂ hr₂ with h₂ | h₂
  · exact h r₁ h₁ r₂ h₂ hid hport
  · exact absurd hport (halone r₂ h₂ r₁ h₁ hid)
  · exact absurd hport.symm (halone r₁ h₁ r₂ h₂ hid.symm)
  · exact Request.insertSignedToken.inj (h₁.symm.trans h₂)

end Rotation

/-- **One token for a sandbox port.** However the calls interleave, while no rotation stores its
token next to one that another stored in the meantime, every state has at most one token for each
sandbox id and port. -/
theorem one_token_per_port {ι : Type} [DecidableEq ι] (cfg : AppConfig) (calls : ι → PreviewCall)
    (volumes : Table VolumeEntity volumeKeys) {tr : History ι}
    {c : Pool requests ServiceError (Option RuntimeEntity) World ι}
    (hrun : Previewing cfg calls RotatesAlone volumes tr c) : OneTokenPerPort c.state := by
  have hinv := Pool.Run.history_invariant
    (J := fun tr s => OneTokenPerPort s ∧ StoredSinceRotation tr s)
    (fun i => (calls i).follows cfg) ?_ ?_ hrun
  · exact hinv.1.1
  -- at the start no token is stored
  · refine ⟨fun r hr => absurd hr (Table.not_mem_empty r), ?_⟩
    intro i rotation mid sandboxId port _ _ record hrecord
    exact absurd hrecord (Table.not_mem_empty record)
  -- one step of one call
  · rintro tr s i op a r s' ⟨hone, hsince⟩ - hsafe hact hrule
    exact ⟨hone.step hsince hsafe hact hrule, hsince.step hact⟩

/-- A sandbox and two rotations for its port. -/
def twoRotations : Nat → PreviewCall
  | 0 => .service (.sandbox (.create { name := some "b" }))
  | _ => .service (.getSignedPreviewUrl "b" 8080)

/-- The event stores a token. -/
def storesToken (ev : Event requests World Answer) : Bool :=
  match ev.op with
  | .insertSignedToken _ => true
  | _ => false

/-- A `getSignedPreviewUrl` call has begun and not ended. -/
def IssueInProgress {ι : Type} (calls : ι → PreviewCall) (tr : History ι)
    (c : Pool requests ServiceError (Option RuntimeEntity) World ι) (i : ι) : Prop :=
  (∃ id port, calls i = .service (.getSignedPreviewUrl id port)) ∧ (∃ ev, (i, ev) ∈ tr) ∧
    (c.thread i).outcome = none

/-- Both rotations delete before either stores its token. -/
theorem rotations_leave_two_tokens :
    ¬ ∀ (cfg : AppConfig) (volumes : Table VolumeEntity volumeKeys) (calls : Nat → PreviewCall)
      (tr : History Nat) (c : Pool requests ServiceError (Option RuntimeEntity) World Nat),
      Previewing cfg calls anyStep volumes tr c → (∀ i, ¬ IssueInProgress calls tr c i) →
      OneTokenPerPort c.state := by
  intro hclaim
  obtain ⟨tr, c, hrun, hfound⟩ := Pool.exists_run_of_schedule (h := backend)
    -- the sandbox is created, both calls delete, then both store
    (steps 0 21 ++ steps 1 3 ++ steps 2 3 ++ List.replicate 3 (1, { random := "first" }) ++
      List.replicate 3 (2, { random := "second" }))
    (fun tr (c : Pool requests ServiceError (Option RuntimeEntity) World Nat) =>
      tr.all (fun x => decide (x.1 < 3)) && (c.thread 1).outcome.isSome &&
        (c.thread 2).outcome.isSome && c.state.signedTokens.rows.any fun r₁ =>
          c.state.signedTokens.rows.any fun r₂ =>
            r₁.sandboxId == r₂.sandboxId && r₁.port == r₂.port && r₁.token != r₂.token)
    (show (Pool.schedule backend _ (previewing (smallConfig 31005) twoRotations
      (World.fresh .empty))).any _ = true by decide +kernel)
  simp only [Bool.and_eq_true, List.all_eq_true, decide_eq_true_eq, List.any_eq_true, beq_iff_eq,
    bne_iff_ne] at hfound
  obtain ⟨⟨⟨htags, hfirst⟩, hsecond⟩, r₁, hr₁, r₂, hr₂, ⟨hid, hport⟩, htokens⟩ := hfound
  have hended : ∀ i, ¬ IssueInProgress twoRotations tr c i := by
    rintro i ⟨⟨id, port, hissue⟩, ⟨ev, hev⟩, hnone⟩
    have hi : i < 3 := htags _ hev
    match i, hi with
    | 0, _ => simp [twoRotations] at hissue
    | 1, _ => simp [hnone] at hfirst
    | 2, _ => simp [hnone] at hsecond
  have hone := hclaim (smallConfig 31005) .empty twoRotations tr c hrun hended r₁ hr₁ r₂ hr₂ hid
    hport
  exact htokens (congrArg SignedPreviewTokenEntity.token hone)

/-- A check of `RotatesAlone`: no token was stored since the call began. -/
def storesAlone (pre : History Nat) (i : Nat) (ev : Event requests World Answer) : Bool :=
  !storesToken ev || (pre.dropWhile fun x => x.1 != i).all fun x => !storesToken x.2

/-- What comes after a step of a call is not dropped with what came before its first one. -/
theorem mem_dropWhile_of_mid {before mid : History Nat} {i : Nat} {e : Event requests World Answer}
    {x : Nat × Event requests World Answer} (hx : x ∈ mid) :
    x ∈ (before ++ (i, e) :: mid).dropWhile fun y => y.1 != i := by
  induction before with
  | nil => simp [hx]
  | cons y before ih =>
    rw [List.cons_append, List.dropWhile_cons]
    split_ifs
    · exact ih
    · simp [hx]

/-- The check looks at everything since the call began, so at everything since it rotated. -/
theorem rotatesAlone_of_storesAlone (pre : History Nat) (i : Nat)
    (ev : Event requests World Answer) (h : storesAlone pre i ev = true) :
    RotatesAlone pre i ev := by
  intro record hop rotation mid _ hsince x hx other hother
  obtain ⟨before, rfl⟩ := hsince
  simp only [storesAlone, storesToken, hop, Bool.not_true, Bool.false_or, List.all_eq_true] at h
  -- the call had begun when it rotated, so what came after the rotation is looked at
  have hnot := h x (mem_dropWhile_of_mid hx)
  rw [hother] at hnot
  cases hnot

/-- The first of the two calls stores a token for the port, both return, and only the second one's
token is left. -/
def rotatesInTurn (tr : History Nat)
    (c : Pool requests ServiceError (Option RuntimeEntity) World Nat) : Bool :=
  (tr.any fun x => match x.2.op with
    | .insertSignedToken record =>
      record.token == "first" && record.sandboxId == "b" && record.port == 8080
    | _ => false) &&
    ((c.thread 1).outcome.isSome && (c.thread 2).outcome.isSome) &&
    c.state.signedTokens.rows.any fun record =>
      record.token == "second" && record.sandboxId == "b" && record.port == 8080

/-- Two links for the same port are issued in turn: the first one's token was stored, and the second
one's is the only one now. -/
theorem one_token_per_port_in_turn : ∃ tr c,
    Previewing (smallConfig 31005) twoRotations RotatesAlone .empty tr c ∧
      rotatesInTurn tr c = true ∧ ∃ record ∈ c.state.signedTokens, record.token = "second" ∧
        ∀ other ∈ c.state.signedTokens, other.sandboxId = "b" → other.port = 8080 →
          other = record := by
  obtain ⟨tr, c, hrun, hturn⟩ := Pool.exists_safe_run_of_schedule backend
    (previewing (smallConfig 31005) twoRotations (World.fresh .empty))
    rotatesAlone_of_storesAlone
    -- the sandbox is created, then one call runs to its end before the other begins
    (steps 0 21 ++ List.replicate 6 (1, { random := "first" }) ++
      List.replicate 6 (2, { random := "second" }))
    rotatesInTurn (by decide +kernel)
  have hstored := ((Bool.and_eq_true _ _).mp hturn).2
  obtain ⟨record, hrecord, hsecond⟩ := List.any_eq_true.mp hstored
  simp only [Bool.and_eq_true, beq_iff_eq] at hsecond
  obtain ⟨⟨htoken, hid⟩, hport⟩ := hsecond
  have hone := one_token_per_port (smallConfig 31005) twoRotations .empty hrun
  refine ⟨tr, c, hrun, hturn, record, hrecord, htoken, fun other hother hid' hport' => ?_⟩
  exact hone other hother record hrecord (hid'.trans hid.symm) (hport'.trans hport.symm)

end Microsandbox
