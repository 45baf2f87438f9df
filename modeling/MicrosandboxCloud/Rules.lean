import MicrosandboxCloud.Ssh

/-!
# Microsandbox — one proof rule for each request

What a program run alone may conclude from the reply to a request. The rules for the requests
that only read are one rule, `ensures_read`; every request that writes has its own.
-/

namespace Microsandbox

open Process Data

/-- Requests that leave the world as it is. -/
def Request.Reads : Request → Prop
  | .findRuntime _ | .findPortLease _ _ | .findVolume _ _ | .findSignedToken _ _
  | .findRevokedSession _ | .now | .randomBytes | .start _ _ _ | .stop _ | .exec _ _ _
  | .refreshActivity _ | .writeFiles _ _ | .readFiles _ _ | .getStatus _ | .isHealthy _
  | .waitForHealthy _ => True
  | _ => False

/-- A status may be refused by the handler, and is then no step; every other reading request answers
and changes nothing. -/
theorem act_of_reads {op : Request} {a : Answer} {s s₁ : World} {r : op.Reply}
    (hop : op.Reads) (hact : act op a s = some (r, s₁)) : s₁ = s := by
  cases op with
  | getStatus name =>
    simp only [act] at hact
    split at hact <;> simp_all
  | insertRuntime | saveRuntime | deleteRuntime | insertPortLease | deletePortLeases
  | insertSignedToken | deleteSignedTokens | saveRevokedSession | sessions
  | createDetachedRuntime | remove => exact hop.elim
  | _ =>
    simp only [act, Option.some.injEq, Prod.mk.injEq] at hact
    exact hact.2.symm

/-- The requests that write something else than runtimes, leases and VMs. -/
def Request.WritesRest : Request → Prop
  | .insertSignedToken _ | .deleteSignedTokens _ | .saveRevokedSession _ | .sessions _ => True
  | _ => False

/-- The requests of provisioning keep to runtimes, leases and VMs. -/
theorem act_rest {op : Request} {a : Answer} {s s₁ : World} {r : op.Reply}
    (hop : ¬ op.WritesRest) (hact : act op a s = some (r, s₁)) : s.SameRest s₁ := by
  -- a read changes nothing; what is left are the writes
  by_cases hreads : op.Reads
  · rw [act_of_reads hreads hact]
    exact ⟨rfl, rfl, rfl, rfl⟩
  cases op with
  -- an insertion that is refused changes nothing either
  | insertRuntime draft =>
    simp only [act] at hact
    split at hact <;> cases hact
    · exact World.insertRuntime_rest ‹_›
    · exact ⟨rfl, rfl, rfl, rfl⟩
  | saveRuntime runtime =>
    simp only [act] at hact
    split at hact <;> cases hact
    · exact World.saveRuntime_rest ‹_›
    · exact ⟨rfl, rfl, rfl, rfl⟩
  | insertPortLease lease =>
    simp only [act] at hact
    split at hact <;> cases hact
    · exact World.insertPortLease_rest ‹_›
    · exact ⟨rfl, rfl, rfl, rfl⟩
  | createDetachedRuntime input =>
    cases hact
    exact createVm_rest a input s
  | remove name =>
    simp only [act, Option.some.injEq, Prod.mk.injEq] at hact
    rw [← hact.2]
    split_ifs <;> exact ⟨rfl, rfl, rfl, rfl⟩
  | deleteRuntime id | deletePortLeases id =>
    cases hact
    exact ⟨rfl, rfl, rfl, rfl⟩
  | insertSignedToken | deleteSignedTokens | saveRevokedSession | sessions =>
    exact absurd trivial hop
  | _ => exact absurd trivial hreads

/-- The worlds agree on volumes, runtimes, the ids handed out and VMs. -/
structure World.SameRuntimes (s s' : World) : Prop where
  volumes : s'.volumes = s.volumes
  runtimes : s'.runtimes = s.runtimes
  nextRuntimeId : s'.nextRuntimeId = s.nextRuntimeId
  vms : s'.vms = s.vms

/-- The requests about tokens and sessions keep away from runtimes, ids and VMs. One case for each
of the four. -/
theorem act_writesRest {op : Request} {a : Answer} {s s₁ : World} {r : op.Reply}
    (hop : op.WritesRest) (hact : act op a s = some (r, s₁)) : s.SameRuntimes s₁ := by
  cases op with
  | insertSignedToken record =>
    simp only [act] at hact
    split at hact <;> cases hact <;> exact ⟨rfl, rfl, rfl, rfl⟩
  | deleteSignedTokens query =>
    cases hact
    exact ⟨rfl, rfl, rfl, rfl⟩
  | saveRevokedSession tokenHash =>
    simp only [act] at hact
    split_ifs at hact
    · cases hact
      exact ⟨rfl, rfl, rfl, rfl⟩
    · split at hact <;> cases hact <;> exact ⟨rfl, rfl, rfl, rfl⟩
  | sessions segment =>
    simp only [act] at hact
    split_ifs at hact
    cases hact
    exact ⟨rfl, rfl, rfl, rfl⟩
  | _ => exact hop.elim

/-- No request writes a volume. -/
theorem act_volumes {op : Request} {a : Answer} {s s₁ : World} {r : op.Reply}
    (hact : act op a s = some (r, s₁)) : s₁.volumes = s.volumes := by
  by_cases hop : op.WritesRest
  · exact (act_writesRest hop hact).volumes
  · exact (act_rest hop hact).volumes

/-- Nor does a run. -/
theorem exec_volumes {α : Type} {p : Async α} {s s' : World}
    {tr : List (Event requests World Answer)} {x : Except ServiceError α}
    (hexec : Exec backend p s tr x s') : s'.volumes = s.volumes := by
  induction hexec with
  | pure a s => rfl
  | throw e s => rfl
  | await hact _ ih => rw [ih, act_volumes hact]

/-- Requests that leave the SSH sessions alone. -/
def Request.KeepsSessions : Request → Prop
  | .sessions _ | .saveRevokedSession _ => False
  | _ => True

/-- The map of sessions and the table of revocations change by two requests only. -/
theorem act_sessions {op : Request} {a : Answer} {s s₁ : World} {r : op.Reply}
    (hop : op.KeepsSessions) (hact : act op a s = some (r, s₁)) :
    s₁.sessions = s.sessions ∧ s₁.revokedSessions = s.revokedSessions := by
  by_cases hwrites : op.WritesRest
  · cases op with
    | insertSignedToken record =>
      simp only [act] at hact
      split at hact <;> cases hact <;> exact ⟨rfl, rfl⟩
    | deleteSignedTokens query => cases hact; exact ⟨rfl, rfl⟩
    | saveRevokedSession | sessions => exact hop.elim
    | _ => exact hwrites.elim
  · exact ⟨(act_rest hwrites hact).sessions, (act_rest hwrites hact).revokedSessions⟩

/-- A run of such requests leaves them alone. -/
theorem exec_sessions {α : Type} {p : Async α} {s s' : World}
    {tr : List (Event requests World Answer)} {x : Except ServiceError α}
    (hexec : Exec backend p s tr x s') (hp : p.Uses Request.KeepsSessions) :
    s'.sessions = s.sessions ∧ s'.revokedSessions = s.revokedSessions := by
  have hkeep : Ensures backend (fun _ => True) p s fun _ s' =>
      s'.sessions = s.sessions ∧ s'.revokedSessions = s.revokedSessions := by
    refine Ensures.of_uses hp (fun op a s₀ r s₁ hop hinv hact => ?_) ⟨rfl, rfl⟩
    obtain ⟨hsessions, hrevoked⟩ := act_sessions hop hact
    exact ⟨hsessions.trans hinv.1, hrevoked.trans hinv.2⟩
  exact hkeep.exec hexec

/-! ## What one request can have stored

The frame conditions read backwards: where a row, an id or a token that is there after a request can
have come from. Invariants over interleavings start from these. -/

/-- A row that is stored after a request was stored before, or the request wrote it. -/
theorem mem_runtimes {op : Request} {a : Answer} {s s' : World} {r : op.Reply}
    {row : RuntimeEntity} (hact : act op a s = some (r, s')) (hrow : row ∈ s'.runtimes) :
    row ∈ s.runtimes ∨
      (∃ draft, op = .insertRuntime draft ∧ draft.withId s.nextRuntimeId = row) ∨
      op = .saveRuntime row := by
  by_cases hreads : op.Reads
  · rw [act_of_reads hreads hact] at hrow
    exact Or.inl hrow
  -- requests about tokens and sessions leave the rows alone
  by_cases hrest : op.WritesRest
  · rw [(act_writesRest hrest hact).runtimes] at hrow
    exact Or.inl hrow
  cases op with
  | insertRuntime draft =>
    simp only [act] at hact
    split at hact <;> cases hact
    · rcases (World.mem_insertRuntime ‹_›).mp hrow with hold | rfl
      · exact Or.inl hold
      · exact Or.inr (Or.inl ⟨draft, rfl, rfl⟩)
    · exact Or.inl hrow
  | saveRuntime runtime =>
    simp only [act] at hact
    split at hact <;> cases hact
    · rcases (World.mem_saveRuntime ‹_›).mp hrow with rfl | ⟨hold, -⟩
      · exact Or.inr (Or.inr rfl)
      · exact Or.inl hold
    · exact Or.inl hrow
  | deleteRuntime id =>
    cases hact
    exact Or.inl (Table.mem_delete.mp hrow).1
  | insertPortLease lease =>
    simp only [act] at hact
    split at hact <;> cases hact
    · rw [(World.insertPortLease_spec ‹_›).2.1] at hrow
      exact Or.inl hrow
    · exact Or.inl hrow
  -- the backend has no hand in the rows
  | createDetachedRuntime input =>
    cases hact
    rw [(createVm_tables a input s).1] at hrow
    exact Or.inl hrow
  | remove name =>
    simp only [act, Option.some.injEq, Prod.mk.injEq] at hact
    rw [← hact.2] at hrow
    split_ifs at hrow <;> exact Or.inl hrow
  | deletePortLeases id =>
    cases hact
    exact Or.inl hrow
  | insertSignedToken | deleteSignedTokens | saveRevokedSession | sessions =>
    exact absurd trivial hrest
  | _ => exact absurd trivial hreads

/-- Ids that were handed out stay handed out. -/
theorem act_nextRuntimeId {op : Request} {a : Answer} {s s' : World} {r : op.Reply}
    (hact : act op a s = some (r, s')) : s.nextRuntimeId ≤ s'.nextRuntimeId := by
  by_cases hreads : op.Reads
  · rw [act_of_reads hreads hact]
  by_cases hrest : op.WritesRest
  · rw [(act_writesRest hrest hact).nextRuntimeId]
  cases op with
  | insertRuntime draft =>
    simp only [act] at hact
    split at hact <;> cases hact
    · rename_i hinsert
      unfold World.insertRuntime at hinsert
      split at hinsert <;> cases hinsert
      exact Nat.le_succ _
    · exact le_rfl
  | saveRuntime runtime =>
    simp only [act] at hact
    split at hact <;> cases hact
    · rename_i hsave
      unfold World.saveRuntime at hsave
      split at hsave <;> cases hsave
      -- saving a row with a later id moves the counter too
      exact le_max_left _ _
    · exact le_rfl
  | insertPortLease lease =>
    simp only [act] at hact
    split at hact <;> cases hact
    · rename_i hinsert
      unfold World.insertPortLease at hinsert
      split at hinsert <;> cases hinsert
      exact le_max_left _ _
    · exact le_rfl
  | createDetachedRuntime input =>
    cases hact
    unfold createVm
    split
    · exact le_rfl
    · split_ifs <;> exact le_rfl
  | remove name =>
    cases hact
    split_ifs <;> exact le_rfl
  | deleteRuntime id | deletePortLeases id =>
    cases hact
    exact le_rfl
  | insertSignedToken | deleteSignedTokens | saveRevokedSession | sessions =>
    exact absurd trivial hrest
  | _ => exact absurd trivial hreads

/-- Requests that leave the VMs alone. -/
def Request.LeavesVms : Request → Prop
  | .createDetachedRuntime _ | .remove _ => False
  | _ => True

/-- A VM comes or goes by creating or removing one. -/
theorem act_vms {op : Request} {a : Answer} {s s' : World} {r : op.Reply} (hop : op.LeavesVms)
    (hact : act op a s = some (r, s')) : s'.vms = s.vms := by
  by_cases hreads : op.Reads
  · rw [act_of_reads hreads hact]
  by_cases hrest : op.WritesRest
  · exact (act_writesRest hrest hact).vms
  cases op with
  | insertRuntime draft =>
    simp only [act] at hact
    split at hact <;> cases hact
    · exact (World.insertRuntime_spec ‹_›).2.2
    · rfl
  | saveRuntime runtime =>
    simp only [act] at hact
    split at hact <;> cases hact
    · exact (World.saveRuntime_spec ‹_›).2.2
    · rfl
  | insertPortLease lease =>
    simp only [act] at hact
    split at hact <;> cases hact
    · exact (World.insertPortLease_spec ‹_›).2.2
    · rfl
  | deleteRuntime | deletePortLeases =>
    cases hact
    rfl
  -- the two that do not leave the VMs alone
  | createDetachedRuntime | remove => exact hop.elim
  | insertSignedToken | deleteSignedTokens | saveRevokedSession | sessions =>
    exact absurd trivial hrest
  | _ => exact absurd trivial hreads

/-- A token that is stored after a request was stored before, or the request stored it. -/
theorem mem_signedTokens {op : Request} {a : Answer} {s s' : World} {r : op.Reply}
    {record : SignedPreviewTokenEntity} (hact : act op a s = some (r, s'))
    (hrecord : record ∈ s'.signedTokens) :
    record ∈ s.signedTokens ∨
      (⟨op, r⟩ : Σ op : requests.Op, requests.Reply op) = ⟨.insertSignedToken record, .ok ()⟩ := by
  -- only the requests about tokens and sessions matter
  by_cases hop : op.WritesRest
  · cases op with
    | insertSignedToken record' =>
      simp only [act] at hact
      split at hact <;> cases hact
      · exact ((Table.mem_insert ‹_›).mp hrecord).imp_right fun h => by rw [h]
      · exact Or.inl hrecord
    | deleteSignedTokens query =>
      cases hact
      exact Or.inl (Table.mem_delete.mp hrecord).1
    | saveRevokedSession tokenHash =>
      simp only [act] at hact
      split_ifs at hact
      · cases hact
        exact Or.inl hrecord
      · split at hact <;> cases hact <;> exact Or.inl hrecord
    | sessions segment =>
      simp only [act] at hact
      split_ifs at hact
      cases hact
      exact Or.inl hrecord
    | _ => exact hop.elim
  · rw [(act_rest hop hact).signedTokens] at hrecord
    exact Or.inl hrecord

section Rules

variable {safe : Event requests World Answer → Prop} {α : Type} {s : World}
  {Q : Except ServiceError α → World → Prop}

/-- After a request that reads, the program goes on in the same world with whatever was read. The
rules after this one say more about the reply where it matters. -/
theorem ensures_read {op : Request} {k : op.Reply → Async α} (hop : op.Reads)
    (hk : ∀ r, Ensures backend safe (k r) s Q) : Ensures backend safe (await op >>= k) s Q := by
  refine Ensures.request_bind fun a r s₁ hact _ => ?_
  obtain rfl := act_of_reads hop hact
  exact hk r

/-- A query returns a row that it selects, and `null` only when there is none. -/
theorem ensures_findRuntime {query : RuntimeQuery} {k : Option RuntimeEntity → Async α}
    (hsome : ∀ r ∈ s.runtimes, query.selects r = true → Ensures backend safe (k (some r)) s Q)
    (hnone : (∀ r ∈ s.runtimes, query.selects r = false) → Ensures backend safe (k none) s Q) :
    Ensures backend safe (await (.findRuntime query) >>= k) s Q := by
  refine Ensures.request_bind fun a r s₁ hact _ => ?_
  simp only [backend, act, Option.some.injEq, Prod.mk.injEq] at hact
  obtain ⟨hrow, rfl⟩ := hact
  cases r with
  | none => exact hnone (pickRow_none hrow)
  | some row => exact hsome row (pickRow_some hrow).1 (pickRow_some hrow).2

/-- The new row gets the next id, unless one of the unique keys is taken. -/
theorem ensures_insertRuntime {draft : RuntimeEntity}
    {k : Except ServiceError RuntimeEntity → Async α}
    (hok : ∀ a s₁, s.insertRuntime draft = some s₁ → safe ⟨s, Request.insertRuntime draft, a⟩ →
      Ensures backend safe (k (.ok (draft.withId s.nextRuntimeId))) s₁ Q)
    (herr : s.insertRuntime draft = none →
      Ensures backend safe (k (.error uniqueViolation)) s Q) :
    Ensures backend safe (await (.insertRuntime draft) >>= k) s Q := by
  refine Ensures.request_bind fun a r s₁ hact hsafe => ?_
  simp only [backend, act] at hact
  split at hact
  · rename_i s' hs'
    simp only [Option.some.injEq, Prod.mk.injEq] at hact
    obtain ⟨rfl, rfl⟩ := hact
    exact hok a s' hs' hsafe
  -- another row has the sandbox id, the name or the VM name
  · rename_i hs'
    simp only [Option.some.injEq, Prod.mk.injEq] at hact
    obtain ⟨rfl, rfl⟩ := hact
    exact herr hs'

/-- A save succeeds or breaks a unique constraint, and then nothing was written. -/
theorem ensures_saveRuntime {runtime : RuntimeEntity} {k : Except ServiceError Unit → Async α}
    (hok : ∀ a s₁, s.saveRuntime runtime = some s₁ → safe ⟨s, Request.saveRuntime runtime, a⟩ →
      Ensures backend safe (k (.ok ())) s₁ Q)
    (herr : s.saveRuntime runtime = none →
      Ensures backend safe (k (.error uniqueViolation)) s Q) :
    Ensures backend safe (await (.saveRuntime runtime) >>= k) s Q := by
  refine Ensures.request_bind fun a r s₁ hact hsafe => ?_
  simp only [backend, act] at hact
  split at hact
  · rename_i s' hs'
    simp only [Option.some.injEq, Prod.mk.injEq] at hact
    obtain ⟨rfl, rfl⟩ := hact
    exact hok a s' hs' hsafe
  · rename_i hs'
    simp only [Option.some.injEq, Prod.mk.injEq] at hact
    obtain ⟨rfl, rfl⟩ := hact
    exact herr hs'

/-- A row is deleted by its id, whether it is there or not. -/
theorem ensures_deleteRuntime {id : RuntimeId} {k : Unit → Async α}
    (hk : Ensures backend safe (k ()) (s.deleteRuntime id) Q) :
    Ensures backend safe (await (.deleteRuntime id) >>= k) s Q := by
  refine Ensures.request_bind fun a r s₁ hact _ => ?_
  simp only [backend, act, Option.some.injEq, Prod.mk.injEq] at hact
  obtain ⟨-, rfl⟩ := hact
  exact hk

/-- The port is leased on the host, or free. -/
theorem ensures_findPortLease {host : String} {port : Int}
    {k : Option PortLeaseEntity → Async α}
    (hsome : ∀ l ∈ s.portLeases, l.runtimeHostId = host → l.port = port →
      Ensures backend safe (k (some l)) s Q)
    (hnone : (∀ l ∈ s.portLeases, ¬ (l.runtimeHostId = host ∧ l.port = port)) →
      Ensures backend safe (k none) s Q) :
    Ensures backend safe (await (.findPortLease host port) >>= k) s Q := by
  refine Ensures.request_bind fun a r s₁ hact _ => ?_
  simp only [backend, act, Option.some.injEq, Prod.mk.injEq] at hact
  obtain ⟨hrow, rfl⟩ := hact
  cases r with
  | none => exact hnone fun l hl => by simpa using pickRow_none hrow l hl
  | some l =>
    have hl := pickRow_some hrow
    simp only [Bool.and_eq_true, beq_iff_eq] at hl
    exact hsome l hl.1 hl.2.1 hl.2.2

/-- A lease is inserted, or the port has been taken. -/
theorem ensures_insertPortLease {lease : PortLeaseEntity} {k : Except ServiceError Unit → Async α}
    (hok : ∀ s₁, s.insertPortLease lease = some s₁ → Ensures backend safe (k (.ok ())) s₁ Q)
    (herr : s.insertPortLease lease = none →
      Ensures backend safe (k (.error uniqueViolation)) s Q) :
    Ensures backend safe (await (.insertPortLease lease) >>= k) s Q := by
  refine Ensures.request_bind fun a r s₁ hact _ => ?_
  simp only [backend, act] at hact
  split at hact
  · rename_i s' hs'
    simp only [Option.some.injEq, Prod.mk.injEq] at hact
    obtain ⟨rfl, rfl⟩ := hact
    exact hok s' hs'
  · rename_i hs'
    simp only [Option.some.injEq, Prod.mk.injEq] at hact
    obtain ⟨rfl, rfl⟩ := hact
    exact herr hs'

/-- All leases of a runtime go at once. -/
theorem ensures_deletePortLeases {id : RuntimeId} {k : Unit → Async α}
    (hk : Ensures backend safe (k ()) (s.deletePortLeases id) Q) :
    Ensures backend safe (await (.deletePortLeases id) >>= k) s Q := by
  refine Ensures.request_bind fun a r s₁ hact _ => ?_
  simp only [backend, act, Option.some.injEq, Prod.mk.injEq] at hact
  obtain ⟨-, rfl⟩ := hact
  exact hk

/-- A volume is found by its id or by its name. -/
theorem ensures_findVolume {id name : String} {k : Option VolumeEntity → Async α}
    (hsome : ∀ v ∈ s.volumes, v.id = id ∨ v.name = name → Ensures backend safe (k (some v)) s Q)
    (hnone : (∀ v ∈ s.volumes, v.id ≠ id ∧ v.name ≠ name) → Ensures backend safe (k none) s Q) :
    Ensures backend safe (await (.findVolume id name) >>= k) s Q := by
  refine Ensures.request_bind fun a r s₁ hact _ => ?_
  simp only [backend, act, Option.some.injEq, Prod.mk.injEq] at hact
  obtain ⟨hrow, rfl⟩ := hact
  cases r with
  | none => exact hnone fun v hv => by simpa using pickRow_none hrow v hv
  | some v => exact hsome v (pickRow_some hrow).1 (by simpa using (pickRow_some hrow).2)

/-- A record is found by its token and port. -/
theorem ensures_findSignedToken {token : String} {port : Int}
    {k : Option SignedPreviewTokenEntity → Async α}
    (hsome : ∀ record ∈ s.signedTokens, record.token = token → record.port = port →
      Ensures backend safe (k (some record)) s Q)
    (hnone : Ensures backend safe (k none) s Q) :
    Ensures backend safe (await (.findSignedToken token port) >>= k) s Q := by
  refine Ensures.request_bind fun a r s₁ hact _ => ?_
  simp only [backend, act, Option.some.injEq, Prod.mk.injEq] at hact
  obtain ⟨hrow, rfl⟩ := hact
  cases r with
  | none => exact hnone
  | some record =>
    have hsel := (pickRow_some hrow).2
    simp only [SignedTokenQuery.selects, Bool.and_eq_true, beq_iff_eq] at hsel
    exact hsome record (pickRow_some hrow).1 hsel.1 hsel.2

/-- The clock gives any time that the environment chooses; `safe` may restrict it. -/
theorem ensures_now {k : Int → Async α}
    (hk : ∀ a : Answer, safe ⟨s, Request.now, a⟩ → Ensures backend safe (k a.time) s Q) :
    Ensures backend safe (await .now >>= k) s Q := by
  refine Ensures.request_bind fun a r s₁ hact hsafe => ?_
  simp only [backend, act, Option.some.injEq, Prod.mk.injEq] at hact
  obtain ⟨rfl, rfl⟩ := hact
  exact hk a hsafe

/-- The records that the query selects are gone. -/
theorem ensures_deleteSignedTokens {query : SignedTokenQuery} {k : Unit → Async α}
    (hk : Ensures backend safe (k ())
      { s with signedTokens := s.signedTokens.delete query.selects } Q) :
    Ensures backend safe (await (.deleteSignedTokens query) >>= k) s Q := by
  refine Ensures.request_bind fun a r s₁ hact _ => ?_
  simp only [backend, act, Option.some.injEq, Prod.mk.injEq] at hact
  obtain ⟨-, rfl⟩ := hact
  exact hk

/-- The reply and what has become of the VM are decided by one answer of the environment. -/
theorem ensures_createDetachedRuntime {input : CreateRuntimeInput}
    {k : Except ServiceError Unit → Async α}
    (hk : ∀ a, safe ⟨s, Request.createDetachedRuntime input, a⟩ →
      Ensures backend safe (k (a.outcome ())) (createVm a input s) Q) :
    Ensures backend safe (await (.createDetachedRuntime input) >>= k) s Q := by
  refine Ensures.request_bind fun a r s₁ hact hsafe => ?_
  simp only [backend, act, Option.some.injEq, Prod.mk.injEq] at hact
  obtain ⟨rfl, rfl⟩ := hact
  exact hk a hsafe

/-- Files are in no table, so that only the reply matters. -/
theorem ensures_writeFiles {name : String} {files : List RuntimeFileDto}
    {k : Except ServiceError Unit → Async α}
    (hk : ∀ a : Answer, safe ⟨s, Request.writeFiles name files, a⟩ →
      Ensures backend safe (k (a.outcome ())) s Q) :
    Ensures backend safe (await (.writeFiles name files) >>= k) s Q := by
  refine Ensures.request_bind fun a r s₁ hact hsafe => ?_
  simp only [backend, act, Option.some.injEq, Prod.mk.injEq] at hact
  obtain ⟨rfl, rfl⟩ := hact
  exact hk a hsafe

/-- The VM may be there after a `remove` that returned. -/
theorem ensures_remove {name : String} {k : Except ServiceError Unit → Async α}
    (hk : ∀ a : Answer, safe ⟨s, Request.remove name, a⟩ →
      Ensures backend safe (k (a.outcome ()))
        (if a.removeKeepsVm then s else s.setVm name none) Q) :
    Ensures backend safe (await (.remove name) >>= k) s Q := by
  refine Ensures.request_bind fun a r s₁ hact hsafe => ?_
  simp only [backend, act, Option.some.injEq, Prod.mk.injEq] at hact
  obtain ⟨rfl, rfl⟩ := hact
  exact hk a hsafe

/-- A status is reported only for a VM that exists. -/
theorem ensures_getStatus {name : String} {k : Option String → Async α}
    (hsome : ∀ status, s.vms name ≠ none → Ensures backend safe (k (some status)) s Q)
    (hnone : Ensures backend safe (k none) s Q) :
    Ensures backend safe (await (.getStatus name) >>= k) s Q := by
  refine Ensures.request_bind fun a r s₁ hact _ => ?_
  simp only [backend, act] at hact
  split_ifs at hact with hvm
  simp only [Option.some.injEq, Prod.mk.injEq] at hact
  obtain ⟨hr, rfl⟩ := hact
  cases r with
  | none => exact hnone
  | some status => exact hsome status fun hnovm => hvm ⟨by simp [hr], hnovm⟩

/-- A synchronous computation goes on with its value or throws. -/
theorem ensures_sync {β : Type} {x : Except ServiceError β} {k : β → Async α}
    (hok : ∀ b, x = .ok b → Ensures backend safe (k b) s Q)
    (herr : ∀ e, x = .error e → Q (.error e) s) :
    Ensures backend safe (sync x >>= k) s Q := by
  cases x with
  | ok b => exact hok b rfl
  | error e => exact Ensures.throw (herr e rfl)

/-! ## The registry's writes

The two functions through which the services write rows, with the exception of a refused write
passed on. -/

/-- The row is returned as it was to be saved. -/
theorem ensures_updateRuntime {runtime : RuntimeEntity} {k : RuntimeEntity → Async α}
    (hok : ∀ a s₁, s.saveRuntime runtime = some s₁ → safe ⟨s, Request.saveRuntime runtime, a⟩ →
      Ensures backend safe (k runtime) s₁ Q)
    (herr : s.saveRuntime runtime = none → Q (.error uniqueViolation) s) :
    Ensures backend safe (Registry.updateRuntime runtime >>= k) s Q := by
  unfold Registry.updateRuntime
  rw [Prog.bind_assoc]
  refine ensures_saveRuntime (fun a s₁ hs₁ hsafe => ?_) fun hs => ?_
  · exact hok a s₁ hs₁ hsafe
  · exact Ensures.throw (herr hs)

/-- The row is returned with the id it got. -/
theorem ensures_insertRow {draft : RuntimeEntity} {k : RuntimeEntity → Async α}
    (hok : ∀ a s₁, s.insertRuntime draft = some s₁ → safe ⟨s, Request.insertRuntime draft, a⟩ →
      Ensures backend safe (k (draft.withId s.nextRuntimeId)) s₁ Q)
    (herr : s.insertRuntime draft = none → Q (.error uniqueViolation) s) :
    Ensures backend safe (Registry.saveRuntime draft >>= k) s Q := by
  unfold Registry.saveRuntime
  rw [Prog.bind_assoc]
  refine ensures_insertRuntime (fun a s₁ hs₁ hsafe => ?_) fun hs => ?_
  · exact hok a s₁ hs₁ hsafe
  · exact Ensures.throw (herr hs)

end Rules

end Microsandbox
