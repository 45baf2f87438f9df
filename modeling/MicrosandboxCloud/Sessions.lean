import MicrosandboxCloud.LeaseAccounting
import MicrosandboxCloud.PortExclusivity

/-!
# Microsandbox — where an SSH session leads

A session holds a copy of the host port of the SSH binding its runtime had when it was created.

* **`SshCall`** — the calls on sandboxes and sessions. `SshRun` carries, as a ghost, for which
  runtime row each session was created.
* **`SessionsMatch`** — every live session leads to the current SSH binding of that row.
* **`SshSafe`** — the calls that keep this: no deletion of a sandbox with a live session, no launch
  that moves the SSH entry of one to another position in its ports, and none that runs out of
  ports while extending a runtime.
* **`session_target`** — in runs of such calls, what `validateSession` returns is the SSH port of
  the sandbox the session was created for, and of nothing else.
-/

namespace Microsandbox

open Process Data RuntimeControl Registry

/-! ## Calls

Calls of two controllers, run one at a time. The row for which a session was created is not stored
with it; the run carries it along as a ghost, which no call reads. -/

/-- The calls on sandboxes and on SSH sessions. -/
inductive SshCall where
  | sandbox (call : SandboxCall)
  | createSession (body : SshController.CreateSessionBody)
  | revokeSession (token : String)

/-- What such a call returns. -/
inductive SshCallReply where
  | sandbox (reply : Reply)
  | session (reply : SessionReply)
  | revoked (token : String)

/-- The program of a call. -/
def SshCall.prog (cfg : AppConfig) : SshCall → Async SshCallReply
  | .sandbox call => return .sandbox (← call.prog cfg)
  | .createSession body => return .session (← SshController.createSession cfg body)
  | .revokeSession token => return .revoked (← SshController.revokeSession cfg token)

/-- The random bytes that became a session token. -/
def sessionDrawn (tr : List (Event requests World Answer)) : Option String :=
  tr.findSome? fun ev =>
    match ev.op with
    | .sessions _ => some ev.answer.random
    | _ => none

/-- For which runtime row each session was created, by token hash. -/
abbrev Origins := String → Option RuntimeId

/-- The origins after a call: a session that was entered into the map is of the row its sandbox id
names. -/
def originsAfter (cfg : AppConfig) (c : SshCall) (s : World)
    (tr : List (Event requests World Answer)) (_ : World) (origins : Origins) : Origins :=
  match c, sessionDrawn tr with
  | .createSession body, some random =>
    match normalizeSandboxId body.sandboxId with
    | .error _ => origins
    | .ok id =>
      Function.update origins (cfg.sha256 random) ((SandboxCall.findRow s id).map (·.id))
  | _, _ => origins

/-- The states reached from an empty store by calls that meet `safe`, with the origins of the
sessions. -/
def SshRun (cfg : AppConfig) (safe : SshCall → World → List (Event requests World Answer) → Prop)
    (volumes : Table VolumeEntity volumeKeys) (s : World) (origins : Origins) : Prop :=
  Runs backend (SshCall.prog cfg) (fun c s tr _ => safe c s tr) (originsAfter cfg)
    (World.fresh volumes) (fun _ => none) s origins

/-! ## Sessions and bindings

A session keeps the host port that it was created with. It goes wrong when the binding moves to
another port or another sandbox comes to own the port, so that is what the invariant forbids. -/

/-- Is this the entry that SSH sessions go to? -/
def isSsh (port : RuntimePortBindingRecord) : Bool :=
  port.name == some "ssh" || port.containerPort == 22

/-- A live session of the runtime is in the map. -/
def HasSession (s : World) (row : RuntimeEntity) : Prop :=
  ∃ key entry, s.sessions key = some entry ∧ key ∉ s.revokedSessions ∧
    normalizeSandboxId entry.sandboxId = .ok row.sandboxId

/-- Every live session leads to the current SSH binding of the row it was created for. -/
def SessionsMatch (s : World) (origins : Origins) : Prop :=
  ∀ key entry, s.sessions key = some entry → key ∉ s.revokedSessions →
    ∃ row ∈ s.runtimes, origins key = some row.id ∧
      normalizeSandboxId entry.sandboxId = .ok row.sandboxId ∧
      ∃ binding, findSshBinding row.portBindings = some binding ∧
        binding.hostPort = entry.hostPort

/-- Each runtime's bindings are on different host ports. -/
def DistinctPorts (s : World) : Prop := ∀ r ∈ s.runtimes, (hostPorts r.portBindings).Nodup

/-- The VM creation of the call failed for good. -/
def createFailed (tr : List (Event requests World Answer)) : Bool :=
  tr.any fun ev =>
    match ev.op, ev.answer.failure with
    | .createDetachedRuntime _, some e => !isTransientDetachedSetupError e
    | _, _ => false

/-- A call that keeps sessions on their ports. An extension of a runtime fits into the free ports;
an accepted request that gets as far as its VM leaves the SSH entry of a runtime with a session at
its position in the ports; and no runtime with a session is deleted. -/
def SshSafe (cfg : AppConfig) (c : SshCall) (s : World)
    (tr : List (Event requests World Answer)) : Prop :=
  match c with
  | .sandbox call =>
    ExtensionFits cfg call s tr ∧
    (∀ input, call.request s (drawnText tr) = some input → accepts s input = true →
      createFailed tr = false → ∀ row ∈ s.runtimes, row.sandboxId = input.sandboxId →
        HasSession s row →
        (specPorts cfg input.toSandboxSpecDto).findIdx? isSsh = row.portBindings.findIdx? isSsh) ∧
    (∀ value v, call = .delete value → normalizeSandboxId value = .ok v → vmRemoved tr = true →
      ∀ row ∈ s.runtimes, row.sandboxId = v ∨ row.name = some v → ¬ HasSession s row)
  | _ => True

/-! ## The SSH binding of a launch

Host ports are assigned by position, whatever the entry at the position is for. -/

theorem findSshBinding_eq (ports : List RuntimePortBindingRecord) :
    findSshBinding ports = ports.find? isSsh := rfl

/-- Ports assigned by position: when the SSH entry keeps its position it keeps its host port. -/
theorem sshPort_assignHostPorts {existing ports : List RuntimePortBindingRecord}
    {leased : List Int} {binding : RuntimePortBindingRecord}
    (hindex : ports.findIdx? isSsh = existing.findIdx? isSsh)
    (hfind : findSshBinding existing = some binding) :
    ∃ assigned, findSshBinding (assignHostPorts existing ports leased) = some assigned ∧
      assigned.hostPort = binding.hostPort := by
  induction existing generalizing ports with
  | nil => simp [findSshBinding] at hfind
  | cons first existing ih =>
    cases ports with
    | nil =>
      rw [findSshBinding_eq] at hfind
      -- the runtime has an SSH entry and the request has no ports, so the positions differ
      have hsome : (first :: existing).findIdx? isSsh ≠ none := by
        rw [ne_eq, List.findIdx?_eq_none_iff]
        intro hnone
        have := hnone binding (List.mem_of_find?_eq_some hfind)
        simp [List.find?_some hfind] at this
      exact absurd hindex.symm (by simpa using hsome)
    | cons port ports =>
      rw [findSshBinding_eq] at hfind ⊢
      simp only [List.findIdx?_cons, List.find?_cons] at hindex hfind
      have hsame : isSsh { port with hostPort := first.hostPort } = isSsh port := rfl
      simp only [assignHostPorts, List.find?_cons, hsame]
      -- the first entries are both the SSH entry, or neither is
      cases hfirst : isSsh first <;> cases hport : isSsh port <;>
        simp only [hfirst, hport, if_true, if_false, Bool.false_eq_true] at hindex hfind ⊢
      · exact ih (Option.map_injective (fun _ _ h => Nat.succ.inj h) hindex) hfind
      · cases hrest : existing.findIdx? isSsh <;> simp [hrest] at hindex
      · cases hrest : ports.findIdx? isSsh <;> simp [hrest] at hindex
      · exact ⟨_, rfl, by rw [← Option.some.inj hfind]⟩

/-! ## One call on a sandbox

For each outcome of a call: the rows with a session keep their SSH port, and the bindings of each
row stay on distinct ports. -/

section Sandbox

variable {cfg : AppConfig} {tr : List (Event requests World Answer)} {s s₁ s' : World}
  {input : ProvisionInput} {name : Option String} {spec : RuntimeSpec} {row : RuntimeEntity}

/-- The row is still there, and its SSH binding is on the host port it was on. -/
def KeepsSsh (s' : World) (row : RuntimeEntity) : Prop :=
  ∃ row' ∈ s'.runtimes, row'.id = row.id ∧ row'.sandboxId = row.sandboxId ∧
    ∀ binding, findSshBinding row.portBindings = some binding →
      ∃ binding', findSshBinding row'.portBindings = some binding' ∧
        binding'.hostPort = binding.hostPort

theorem KeepsSsh.of_mem (h : row ∈ s'.runtimes) : KeepsSsh s' row :=
  ⟨row, h, rfl, rfl, fun binding hbinding => ⟨binding, hbinding, rfl⟩⟩

/-- Saving a row with the bindings it had. -/
theorem KeepsSsh.of_resave {row₀ saved : RuntimeEntity} (hrow : row ∈ s.runtimes)
    (hrow₀ : row₀ ∈ s.runtimes) (hsave : s.saveRuntime saved = some s₁) (hid : saved.id = row₀.id)
    (hsandbox : saved.sandboxId = row₀.sandboxId)
    (hbindings : saved.portBindings = row₀.portBindings)
    (hruntimes : s'.runtimes = s₁.runtimes) : KeepsSsh s' row := by
  unfold KeepsSsh
  rw [hruntimes]
  by_cases hsame : row.id = saved.id
  · have heq : row = row₀ := World.eq_of_id hrow hrow₀ (hsame.trans hid)
    rw [heq]
    refine ⟨saved, (World.mem_saveRuntime hsave).mpr (Or.inl rfl), hid, hsandbox, ?_⟩
    rw [hbindings]
    exact fun binding hbinding => ⟨binding, hbinding, rfl⟩
  · exact KeepsSsh.of_mem ((World.mem_saveRuntime hsave).mpr (Or.inr ⟨hrow, hsame⟩))

/-- Where a launch starts, each stored row is there, or it is the row of the launch. -/
theorem RuntimeControl.LaunchStart.kept (h : LaunchStart cfg (· ∈ tr) input name spec s row s₁)
    {r : RuntimeEntity} (hr : r ∈ s.runtimes) :
    (r.id ≠ row.id ∧ r ∈ s₁.runtimes) ∨ (row.id = r.id ∧ r.sandboxId = input.sandboxId ∧
      row.portBindings = r.portBindings) := by
  cases h with
  | unhealthy hrow hid hkeep =>
    by_cases hsame : r.id = row.id
    · rw [World.eq_of_id hr hrow hsame]
      exact Or.inr ⟨rfl, hid, rfl⟩
    · exact Or.inl ⟨hsame, hr⟩
  | @replaced row₀ s₁ hrow hid hreplace hsave =>
    by_cases hsame : r.id = row₀.id
    · rw [World.eq_of_id hr hrow hsame]
      exact Or.inr ⟨rfl, hid, rfl⟩
    · exact Or.inl ⟨hsame, (World.mem_saveRuntime hsave).mpr (Or.inr ⟨hr, hsame⟩)⟩
  | new hnew hvm hinsert hsafe henough hleased =>
    -- a new row has an id of its own
    have hne : r.id ≠ s.nextRuntimeId := (s.runtimes_lt r hr).ne
    rw [hleased.runtimes]
    exact Or.inl ⟨hne, (World.mem_insertRuntime hinsert).mpr (Or.inl hr)⟩

/-- A creation of a VM that failed is a failure of the backend. -/
theorem createFailed_backendFailed (h : createFailed tr = true) : backendFailed tr = true := by
  obtain ⟨ev, hev, hfails⟩ := List.any_eq_true.mp h
  refine List.any_eq_true.mpr ⟨ev, hev, ?_⟩
  split at hfails
  · rename_i hop hfailure
    rw [hop, hfailure]
    exact hfails
  · cases hfails

/-- One case for each way in which provisioning can end. Only the last save of a launch writes new
bindings. -/
theorem RuntimeControl.ProvisionOutcome.keepsSsh {x : Except ServiceError RuntimeSummary}
    (h : ProvisionOutcome cfg (· ∈ tr) input s x s') (hrow : row ∈ s.runtimes)
    (hserved : ∀ summary, x = .ok summary → createFailed tr = false)
    (hindex : accepts s input = true → createFailed tr = false → row.sandboxId = input.sandboxId →
      (specPorts cfg input.toSandboxSpecDto).findIdx? isSsh = row.portBindings.findIdx? isSsh) :
    KeepsSsh s' row := by
  cases h with
  | refused hwhy => exact .of_mem hrow
  | existing hplan hrow₀ hid hforce hkeep hlive hsave =>
    exact .of_resave hrow hrow₀ hsave rfl rfl rfl rfl
  | rolledBack hplan hnew hfew hleases hruntimes hvms => exact .of_mem (hruntimes ▸ hrow)
  | @launched name spec row₁ s₁ s' x hplan hstart houtcome =>
    obtain ⟨hmem₁, hid₁, -⟩ := hstart.row_mem
    -- before the last save the row of the launch has the bindings it had
    have hunsaved : s'.runtimes = s₁.runtimes → KeepsSsh s' row := by
      intro hruntimes
      unfold KeepsSsh
      rw [hruntimes]
      rcases hstart.kept hrow with ⟨-, hkept⟩ | ⟨hid, hsandbox, hbindings⟩
      · exact KeepsSsh.of_mem hkept
      · refine ⟨row₁, hmem₁, hid, hid₁.trans hsandbox.symm, ?_⟩
        rw [hbindings]
        exact fun binding hbinding => ⟨binding, hbinding, rfl⟩
    cases houtcome with
    | outOfPorts hfew hleases hruntimes hvms => exact hunsaved hruntimes
    | @createFailed ports e a s₂ hports hfailure hhard hsafe =>
      exact hunsaved ((createVm_tables a _ s₂).1.trans hports.leased.runtimes)
    | @provisioned ports primary appHealthy sshHealthy lastActiveAt a s₂ s' hports hvm hprimary
        hsave =>
      rcases hstart.kept hrow with ⟨hne, hkept⟩ | ⟨hid, hsandbox, hbindings⟩
      · refine .of_mem ((World.mem_saveRuntime hsave).mpr (Or.inr ⟨?_, hne⟩))
        change row ∈ s₂.runtimes
        rwa [hports.leased.runtimes]
      · refine ⟨provisionedRow name spec row₁ ports primary appHealthy sshHealthy lastActiveAt,
          (World.mem_saveRuntime hsave).mpr (Or.inl rfl), hid, hid₁.trans hsandbox.symm, ?_⟩
        intro binding hbinding
        have haccepts := hstart.accepts hplan
        have hsame := hindex haccepts (hserved _ rfl) hsandbox
        rw [← hplan.ports_eq] at hsame
        change ∃ binding', findSshBinding ports = some binding' ∧ _
        rw [hports.ports_eq, hbindings]
        exact sshPort_assignHostPorts hsame hbinding

/-- A safe call on a sandbox keeps every row that has a live session, with its SSH port. -/
theorem keepsSsh_step {call : SandboxCall} {x : Except ServiceError Reply}
    (hsafe : SshSafe cfg (.sandbox call) s tr) (hexec : Exec backend (call.prog cfg) s tr x s')
    (hrow : row ∈ s.runtimes) (hsession : HasSession s row) : KeepsSsh s' row := by
  obtain ⟨-, hindex, hdelete⟩ := hsafe
  cases call_outcome hexec with
  | refused hrequest => exact .of_mem hrow
  | touched hrow₀ hsave hruntimes hleases hvms hcall =>
    exact .of_resave hrow hrow₀ hsave rfl rfl rfl hruntimes
  | @deleted row₀ s' x hrow₀ hcall hruntimes hleases hvms hremoved =>
    obtain ⟨value, v, rfl, hv, hanswers⟩ := hcall
    refine .of_mem (hruntimes ▸ Table.mem_delete.mpr ⟨hrow, ?_⟩)
    -- a runtime with a live session is not deleted, by the condition
    have hne : row.id ≠ row₀.id := by
      intro hid
      rw [World.eq_of_id hrow hrow₀ hid] at hsession
      exact hdelete value v rfl hv hremoved row₀ hrow₀ hanswers hsession
    simpa using hne
  | @provisioned input x s' hrequest hnormal houtcome =>
    refine houtcome.keepsSsh hrow (fun summary hx => ?_) fun haccepts hcreated hid => ?_
    -- a creation that failed for good has made the call throw
    · by_contra hfailed
      have hfailed := createFailed_backendFailed (by simpa using hfailed)
      obtain ⟨e, he⟩ := error_of_backendFailed hexec hfailed
      rw [hx] at he
      cases he
    · exact hindex input hrequest haccepts hcreated row hrow hid hsession

/-- The host ports that a launch assigns are distinct: the row's own are leased, the others were
free. -/
theorem RuntimeControl.PortsAssigned.nodup {ports : List RuntimePortBindingRecord}
    (h : PortsAssigned cfg s row spec ports s₁) (hinv : BindingsLeased s) (hrow : row ∈ s.runtimes)
    (hnodup : (hostPorts row.portBindings).Nodup) : (hostPorts ports).Nodup := by
  have henough := h.enough
  rw [h.ports_eq, hostPorts_assignHostPorts (by rw [List.length_take]; omega)]
  refine List.nodup_append.mpr ⟨?_, (nodup_freePorts cfg s).sublist (List.take_sublist _ _), ?_⟩
  · exact hnodup.sublist ((List.take_sublist _ _).map _)
  · intro old hold new hnew heq
    obtain ⟨b, hb, rfl⟩ := List.mem_map.mp hold
    have hlease : leaseOf row.id b.hostPort ∈ s.portLeases :=
      hinv row hrow b (List.mem_of_mem_take hb)
    have hfree : isFree s new = true := isFree_of_mem_freePorts (List.mem_of_mem_take hnew)
    exact isFree_iff.mp hfree _ hlease ⟨rfl, heq⟩

/-- One row is written, with bindings on distinct ports. -/
theorem DistinctPorts.of_save (saved : RuntimeEntity) (h : DistinctPorts s)
    (hsaved : (hostPorts saved.portBindings).Nodup)
    (hrows : ∀ r ∈ s'.runtimes, r = saved ∨ r ∈ s.runtimes) : DistinctPorts s' := by
  intro r hr
  rcases hrows r hr with rfl | hr
  · exact hsaved
  · exact h r hr

/-- A launch saves the ports that it has assigned. -/
theorem RuntimeControl.LaunchOutcome.distinctPorts {x : Except ServiceError RuntimeSummary}
    (h : LaunchOutcome cfg (· ∈ tr) name spec row s x s') (hinv : BindingsLeased s)
    (hdistinct : DistinctPorts s) (hrow : row ∈ s.runtimes) : DistinctPorts s' := by
  cases h with
  | outOfPorts hfew hleases hruntimes hvms =>
    intro r hr
    exact hdistinct r (hruntimes ▸ hr)
  | @createFailed ports e a s₂ hports hfailure hhard hsafe =>
    intro r hr
    rw [(createVm_tables a _ s₂).1, hports.leased.runtimes] at hr
    exact hdistinct r hr
  | @provisioned ports primary appHealthy sshHealthy lastActiveAt a s₂ s' hports hvm hprimary
      hsave =>
    -- leased ports are bound by no other row, and were not bound by this one
    have hnodup : (hostPorts ports).Nodup := hports.nodup hinv hrow (hdistinct row hrow)
    refine hdistinct.of_save
      (provisionedRow name spec row ports primary appHealthy sshHealthy lastActiveAt) hnodup ?_
    intro r hr
    refine ((World.mem_saveRuntime hsave).mp hr).imp_right fun hr => ?_
    exact hports.leased.runtimes ▸ hr.1

/-- One case for each way in which a call can end. -/
theorem distinctPorts_step {call : SandboxCall} {x : Except ServiceError Reply}
    (hinv : BindingsLeased s) (hdistinct : DistinctPorts s)
    (hexec : Exec backend (call.prog cfg) s tr x s') : DistinctPorts s' := by
  -- a row that is saved with its bindings keeps them apart
  have hresave : ∀ {row saved : RuntimeEntity} {s₁ : World}, row ∈ s.runtimes →
      s.saveRuntime saved = some s₁ → saved.portBindings = row.portBindings →
      s'.runtimes = s₁.runtimes → DistinctPorts s' := by
    intro row saved s₁ hrow hsave hbindings hruntimes
    refine hdistinct.of_save saved (hbindings ▸ hdistinct row hrow) fun r hr => ?_
    rw [hruntimes] at hr
    exact ((World.mem_saveRuntime hsave).mp hr).imp_right And.left
  cases call_outcome hexec with
  | refused hrequest => exact hdistinct
  | touched hrow hsave hruntimes hleases hvms hcall => exact hresave hrow hsave rfl hruntimes
  | deleted hrow hcall hruntimes hleases hvms hremoved =>
    intro r hr
    rw [hruntimes] at hr
    exact hdistinct r (Table.mem_delete.mp hr).1
  | @provisioned input x s' hrequest hnormal houtcome =>
    cases houtcome with
    | refused hwhy => exact hdistinct
    | existing hplan hrow hid hforce hkeep hlive hsave => exact hresave hrow hsave rfl rfl
    | rolledBack hplan hnew hfew hleases hruntimes hvms =>
      exact fun r hr => hdistinct r (hruntimes ▸ hr)
    | @launched name spec row s₁ s' x hplan hstart houtcome =>
      refine houtcome.distinctPorts (hstart.bindingsLeased hinv) ?_ hstart.row_mem.1
      cases hstart with
      | unhealthy hrow hid hkeep => exact hdistinct
      | @replaced row₀ s₁ hrow hid hreplace hsave =>
        have hnodup : (hostPorts row₀.portBindings).Nodup := hdistinct row₀ hrow
        refine hdistinct.of_save (replacingRow input name spec row₀) hnodup fun r hr => ?_
        exact ((World.mem_saveRuntime hsave).mp hr).imp_right And.left
      | @new vmName authToken primary now a s₁ s₂ hnew hvm hinsert hsafe henough hleased =>
        refine hdistinct.of_save
          ((newRow input.sandboxId vmName authToken name spec primary now).withId s.nextRuntimeId)
          List.nodup_nil fun r hr => ?_
        rw [hleased.runtimes] at hr
        exact ((World.mem_insertRuntime hinsert).mp hr).symm

end Sandbox

/-! ## One call on a session

A creation enters one session for a row that it has looked up, with the port of the binding that it
has found there. A revocation takes one away. -/

section Session

variable {cfg : AppConfig} {tr : List (Event requests World Answer)} {s s' : World}

/-- The world with another session map. -/
def withSessions (s : World) (sessions : SessionMap) : World := { s with sessions := sessions }

/-- The map after a session was entered. -/
def enterSession (cfg : AppConfig) (now : Int) (random : String) (entry : SessionEntry)
    (sessions : SessionMap) : SessionMap :=
  Function.update (SshSession.pruneExpired now sessions) (cfg.sha256 random) (some entry)

/-- What `createSession` does to the map, if it gets there. -/
theorem createSession_outcome {body : SshController.CreateSessionBody}
    {x : Except ServiceError SshCallReply}
    (hexec : Exec backend ((SshCall.createSession body).prog cfg) s tr x s') :
    (s' = s ∧ sessionDrawn tr = none) ∨
    ∃ row ∈ s.runtimes, ∃ binding random now expiresAt,
      normalizeSandboxId body.sandboxId = .ok row.sandboxId ∧
      findSshBinding row.portBindings = some binding ∧ sessionDrawn tr = some random ∧
      s' = withSessions s (enterSession cfg now random
        ⟨body.sandboxId, binding.hostPort, expiresAt⟩ s.sessions) := by
  simp only [SshCall.prog, SshController.createSession, findRuntimeBySandboxId, Prog.bind_assoc]
    at hexec
  cases hid : normalizeSandboxId body.sandboxId with
  | error e =>
    rw [hid] at hexec
    cases hexec
    exact Or.inl ⟨rfl, rfl⟩
  | ok id =>
    rw [hid] at hexec
    simp only [sync, Prog.ofExcept_ok, Prog.pure_bind] at hexec
    cases hexec with
    | @await _ _ ans _ s₁ _ found tr₁ _ hact hrest =>
      simp only [backend, act, Option.some.injEq, Prod.mk.injEq] at hact
      obtain ⟨hfound, rfl⟩ := hact
      cases found with
      -- no row, or no binding for SSH: the call throws and the map is as it was
      | none =>
        cases hrest
        exact Or.inl ⟨rfl, rfl⟩
      | some row =>
        obtain ⟨hrow, hsel⟩ := pickRow_some hfound
        have hrowid : row.sandboxId = id := by simpa [RuntimeQuery.selects] using hsel
        cases hbinding : findSshBinding row.portBindings with
        | none =>
          simp only [Prog.bind, hbinding] at hrest
          cases hrest
          exact Or.inl ⟨rfl, rfl⟩
        | some binding =>
          simp only [Prog.bind, hbinding, SshSession.createSession] at hrest
          cases hrest with
          | @await _ _ ans' _ s₂ _ reply tr₂ _ hact' hrest' =>
            -- whatever the segment answers, nothing comes after it
            have hs' : s' = s₂ := by
              cases reply <;> cases hrest' <;> rfl
            simp only [backend, act] at hact'
            split_ifs at hact' with htime
            simp only [Option.some.injEq, Prod.mk.injEq] at hact'
            refine Or.inr ⟨row, hrow, binding, ans'.random, ans'.time,
              ans'.later + SshSession.expiryMs cfg body.expiryMinutes, by rw [hrowid], hbinding,
              rfl, ?_⟩
            rw [hs', ← hact'.2]
            rfl

/-- Sessions are only taken away or revoked. -/
structure SessionsShrink (s s' : World) : Prop where
  runtimes : s'.runtimes = s.runtimes
  portLeases : s'.portLeases = s.portLeases
  sessions : ∀ key entry, s'.sessions key = some entry → s.sessions key = some entry
  revoked : ∀ key ∈ s.revokedSessions, key ∈ s'.revokedSessions

/-- The map first, the table second. A token that is in the table already is left there. -/
theorem revokeSession_outcome {token : String} {x : Except ServiceError SshCallReply}
    (hexec : Exec backend ((SshCall.revokeSession token).prog cfg) s tr x s') :
    SessionsShrink s s' := by
  have hens : Ensures backend (fun _ => True) ((SshCall.revokeSession token).prog cfg) s
      fun _ s' => SessionsShrink s s' := by
    simp only [SshCall.prog, SshController.revokeSession, SshSession.revokeSession,
      Prog.bind_assoc]
    refine Ensures.request_bind fun a r s₁ hact _ => Ensures.request_bind fun a' r' s₂ hact' _ => ?_
    -- the segment takes the entry away
    have hfirst : SessionsShrink s s₁ := by
      simp only [backend, act] at hact
      split_ifs at hact
      simp only [Option.some.injEq, Prod.mk.injEq] at hact
      rw [← hact.2]
      refine ⟨rfl, rfl, fun key entry hentry => ?_, fun key hkey => hkey⟩
      by_cases hkey : key = cfg.sha256 token
      · simp [SshSession.revokeSegment, hkey] at hentry
      · simpa [SshSession.revokeSegment, Function.update_of_ne hkey] using hentry
    have hsecond : SessionsShrink s s₂ := by
      -- the table may gain a row; the map is as the segment left it
      have hkept : ∀ t : World, t.runtimes = s₁.runtimes → t.portLeases = s₁.portLeases →
          t.sessions = s₁.sessions → (∀ key ∈ s₁.revokedSessions, key ∈ t.revokedSessions) →
          SessionsShrink s t := by
        intro t hruntimes hleases hsessions hrevoked
        exact ⟨hruntimes.trans hfirst.runtimes, hleases.trans hfirst.portLeases,
          fun key entry h => hfirst.sessions key entry (hsessions ▸ h),
          fun key h => hrevoked key (hfirst.revoked key h)⟩
      simp only [backend, act] at hact'
      split_ifs at hact' with hknown
      · simp only [Option.some.injEq, Prod.mk.injEq] at hact'
        exact hact'.2 ▸ hkept s₁ rfl rfl rfl fun _ h => h
      · split at hact' <;> simp only [Option.some.injEq, Prod.mk.injEq] at hact'
        · exact hact'.2 ▸ hkept s₁ rfl rfl rfl fun _ h => h
        · rw [← hact'.2]
          exact hkept _ rfl rfl rfl fun _ h => List.mem_cons_of_mem _ h
    cases r' with
    | ok _ => exact Ensures.pure hsecond
    | error e => exact Ensures.throw hsecond
  exact hens.exec hexec

end Session

/-! ## Every run

Three properties are carried through the runs together. The leases are needed because they alone say
that no two runtimes have one host port. -/

/-- What holds between calls: live sessions lead to SSH bindings, and host ports are exclusive. -/
structure SshInvariant (s : World) (origins : Origins) : Prop where
  leased : BindingsLeased s
  distinct : DistinctPorts s
  sessions : SessionsMatch s origins

section Run

variable {cfg : AppConfig} {tr : List (Event requests World Answer)} {s s' : World}
  {origins : Origins}

/-- A call on a sandbox leaves the sessions and the table alone, so their entries are to be matched
with the rows as they are after it. -/
theorem SshInvariant.sandbox {call : SandboxCall} {x : Except ServiceError Reply}
    (hinv : SshInvariant s origins) (hsafe : SshSafe cfg (.sandbox call) s tr)
    (hexec : Exec backend (call.prog cfg) s tr x s') : SshInvariant s' origins where
  leased := bindingsLeased_step hinv.leased hsafe.1 hexec
  distinct := distinctPorts_step hinv.leased hinv.distinct hexec
  sessions := by
    have hprog : (call.prog cfg).Uses Request.KeepsSessions :=
      prog_of_stages keepsSessions_stageClosed call
    obtain ⟨hsessions, hrevoked⟩ := exec_sessions hexec hprog
    intro key entry hentry hlive
    rw [hsessions] at hentry
    rw [hrevoked] at hlive
    obtain ⟨row, hrow, horigin, hid, binding, hbinding, hport⟩ :=
      hinv.sessions key entry hentry hlive
    -- the row of a live entry has a session, so the call keeps its SSH port
    have hsession : HasSession s row := ⟨key, entry, hentry, hlive, hid⟩
    obtain ⟨row', hrow', hrowid, hsandbox, hkept⟩ := keepsSsh_step hsafe hexec hrow hsession
    obtain ⟨binding', hbinding', hport'⟩ := hkept binding hbinding
    have horigin' : origins key = some row'.id := by rw [horigin, hrowid]
    have hid' : normalizeSandboxId entry.sandboxId = .ok row'.sandboxId := by rw [hid, hsandbox]
    exact ⟨row', hrow', horigin', hid', binding', hbinding', hport'.trans hport⟩

/-- With fewer sessions there is less to match. -/
theorem SshInvariant.shrink (hinv : SshInvariant s origins) (h : SessionsShrink s s') :
    SshInvariant s' origins where
  leased := by
    unfold BindingsLeased
    rw [h.runtimes, h.portLeases]
    exact hinv.leased
  distinct := by
    unfold DistinctPorts
    rw [h.runtimes]
    exact hinv.distinct
  sessions := by
    intro key entry hentry hlive
    rw [h.runtimes]
    exact hinv.sessions key entry (h.sessions key entry hentry) fun hkey =>
      hlive (h.revoked key hkey)

/-- A session that is entered leads to the SSH binding of the row it is for; the others were in
the map before. -/
theorem SshInvariant.enter {row : RuntimeEntity} {binding : RuntimePortBindingRecord}
    {sandboxId random : String} {now expiresAt : Int} (hinv : SshInvariant s origins)
    (hrow : row ∈ s.runtimes) (hid : normalizeSandboxId sandboxId = .ok row.sandboxId)
    (hbinding : findSshBinding row.portBindings = some binding) :
    SshInvariant
      (withSessions s (enterSession cfg now random ⟨sandboxId, binding.hostPort, expiresAt⟩
        s.sessions))
      (Function.update origins (cfg.sha256 random) (some row.id)) where
  leased := hinv.leased
  distinct := hinv.distinct
  sessions := by
    intro key entry hentry hlive
    by_cases hkey : key = cfg.sha256 random
    · subst hkey
      have hnew : entry = ⟨sandboxId, binding.hostPort, expiresAt⟩ := by
        simpa [withSessions, enterSession] using hentry.symm
      rw [hnew]
      exact ⟨row, hrow, Function.update_self _ _ _, hid, binding, hbinding, rfl⟩
    · have hold : s.sessions key = some entry := by
        have hpruned : SshSession.pruneExpired now s.sessions key = some entry := by
          simpa [withSessions, enterSession, Function.update_of_ne hkey] using hentry
        exact (Option.filter_eq_some_iff.mp hpruned).1
      rw [Function.update_of_ne hkey]
      exact hinv.sessions key entry hold hlive

/-- **One call.** -/
theorem sshInvariant_step {c : SshCall} {x : Except ServiceError SshCallReply}
    (hinv : SshInvariant s origins) (hsafe : SshSafe cfg c s tr)
    (hexec : Exec backend (c.prog cfg) s tr x s') :
    SshInvariant s' (originsAfter cfg c s tr s' origins) := by
  cases c with
  | sandbox call =>
    obtain ⟨x₀, hcall⟩ := hexec.of_map
    exact hinv.sandbox hsafe hcall
  -- without a row or an SSH binding nothing is entered
  | createSession body =>
    rcases createSession_outcome hexec with ⟨rfl, hdrawn⟩ |
      ⟨row, hrow, binding, random, now, expiresAt, hid, hbinding, hdrawn, hs'⟩
    · simpa [originsAfter, hdrawn] using hinv
    · have hfind : SandboxCall.findRow s row.sandboxId = some row :=
        findRow_eq_some hrow
      have horigins : originsAfter cfg (.createSession body) s tr s' origins =
          Function.update origins (cfg.sha256 random) (some row.id) := by
        simp only [originsAfter, hdrawn, hid, hfind, Option.map_some]
      rw [horigins, hs']
      exact hinv.enter hrow hid hbinding
  | revokeSession token => exact hinv.shrink (revokeSession_outcome hexec)

/-- What `validateSession` returns is an entry of the map that was not revoked. -/
theorem validateSession_some {token : String} {result : SshValidateResult}
    (hexec : Exec backend (SshSession.validateSession cfg token) s tr (.ok (some result)) s') :
    ∃ entry, s.sessions (cfg.sha256 token) = some entry ∧
      cfg.sha256 token ∉ s.revokedSessions ∧ result.sandboxId = entry.sandboxId ∧
      result.hostPort = entry.hostPort := by
  unfold SshSession.validateSession at hexec
  cases hexec with
  | @await _ _ ans _ s₁ _ revoked tr₁ _ hact hrest =>
    simp only [backend, act, Option.some.injEq, Prod.mk.injEq] at hact
    obtain ⟨hrevoked, rfl⟩ := hact
    cases revoked with
    -- the token was revoked
    | true => cases hrest
    | false =>
      simp only [Prog.bind, Bool.false_eq_true, if_false] at hrest
      cases hrest with
      | @await _ _ ans' _ s₂ _ reply tr₂ _ hact' hrest' =>
        simp only [backend, act] at hact'
        split_ifs at hact' with htime
        simp only [Option.some.injEq, Prod.mk.injEq, SshSession.validateSegment] at hact'
        obtain ⟨hreply, -⟩ := hact'
        cases hentry : s.sessions (cfg.sha256 token) with
        | none =>
          rw [hentry] at hreply
          subst hreply
          cases hrest'
        | some entry =>
          rw [hentry] at hreply
          refine ⟨entry, rfl, by simpa using hrevoked, ?_⟩
          dsimp only at hreply
          -- an entry that has expired is taken away, and the call returns none
          split_ifs at hreply with hexpired
          · subst hreply
            cases hrest'
          · unfold SshSession.toISOString at hreply
            split_ifs at hreply
            · subst hreply
              cases hrest'
              exact ⟨rfl, rfl⟩
            · subst hreply
              cases hrest'

end Run

/-- What a session resolves to is the SSH binding of the row it was created for, and no other
binding has that host port. -/
def LeadsToSsh (s : World) (origin : Option RuntimeId) (result : SshValidateResult) : Prop :=
  ∃ row ∈ s.runtimes, origin = some row.id ∧
    normalizeSandboxId result.sandboxId = .ok row.sandboxId ∧
    ∃ binding, findSshBinding row.portBindings = some binding ∧
      result.hostPort = binding.hostPort ∧
      ∀ other ∈ s.runtimes, ∀ b ∈ other.portBindings, b.hostPort = result.hostPort →
        other = row ∧ b = binding

/-- **SSH session target isolation.** In every run from an empty store of calls that meet
`SshSafe`, a token that `validateSession` accepts leads to the current SSH binding of the runtime
the session was created for, and to no other binding of any runtime. -/
theorem session_target (cfg : AppConfig) (volumes : Table VolumeEntity volumeKeys) {s : World}
    {origins : Origins} (hreach : SshRun cfg (SshSafe cfg) volumes s origins) {token : String}
    {tr : List (Event requests World Answer)} {result : SshValidateResult} {s' : World}
    (hexec : Exec backend (SshSession.validateSession cfg token) s tr (.ok (some result)) s') :
    LeadsToSsh s (origins (cfg.sha256 token)) result := by
  have hinv : SshInvariant s origins := by
    refine Runs.invariant ?_ (fun c s origins tr x s' hinv hsafe hcall => ?_) hreach
    · exact ⟨fun r hr => absurd hr (Table.not_mem_empty r),
        fun r hr => absurd hr (Table.not_mem_empty r), fun key entry hentry => by cases hentry⟩
    · exact sshInvariant_step hinv hsafe hcall
  obtain ⟨entry, hentry, hlive, hid, hport⟩ := validateSession_some hexec
  obtain ⟨row, hrow, horigin, hrowid, binding, hbinding, hbport⟩ :=
    hinv.sessions _ entry hentry hlive
  have hmem : binding ∈ row.portBindings := List.mem_of_find?_eq_some hbinding
  refine ⟨row, hrow, horigin, by rw [hid, hrowid], binding, hbinding, by rw [hport, hbport], ?_⟩
  intro other hother b hb hsame
  have hports : b.hostPort = binding.hostPort := by rw [hsame, hport, hbport]
  -- the lease table says whose port it is, and within the row the ports are distinct
  have hrows : other = row := hinv.leased.exclusive other hother row hrow b hb binding hmem hports
  subst hrows
  exact ⟨rfl, List.inj_on_of_nodup_map (hinv.distinct other hother) hb hmem hports⟩

/-- Evaluating `validateSession` from `s` returns a result that meets `q`. -/
def validates (cfg : AppConfig) (token : String) (q : SshValidateResult → World → Bool)
    (s : World) : Bool :=
  (run backend (SshSession.validateSession cfg token) [] s).any fun r =>
    match r.2.1 with
    | .ok (some result) => q result s
    | _ => false

theorem exists_of_validates {cfg : AppConfig} {token : String}
    {q : SshValidateResult → World → Bool} {s : World} (h : validates cfg token q s = true) :
    ∃ tr result s', Exec backend (SshSession.validateSession cfg token) s tr (.ok (some result)) s'
      ∧ q result s = true := by
  obtain ⟨⟨tr, x, s'⟩, hrun, hq⟩ := (Option.any_eq_true _ _).mp h
  dsimp only at hq
  split at hq
  · rename_i result
    exact ⟨tr, result, s', exec_of_run hrun, hq⟩
  · cases hq

/-- Opening a session for `a` from `s` leads to a state in which its token validates. -/
def opensSession (cfg : AppConfig) (s : World) : Bool :=
  (run backend ((SshCall.createSession { sandboxId := "a" }).prog cfg) [] s).any fun r =>
    r.2.2.runtimes.rows.length == 1 &&
      validates cfg "0123456789abcdef" (fun _ _ => true) r.2.2

/-- A sandbox is created, then a session for it, and the token is used. -/
theorem session_target_fresh : ∃ s origin result, s.runtimes.rows.length = 1 ∧
    LeadsToSsh s origin result := by
  let cfg : AppConfig := smallConfig 31005
  obtain ⟨tr₁, x₁, s₁, hcreate, hp₁⟩ := exists_exec_of_run (h := backend)
    (p := (SshCall.sandbox (.create { name := some "a" })).prog cfg) (s := World.fresh .empty) []
    (fun _ _ s => opensSession cfg s) (by decide +kernel)
  obtain ⟨tr₂, x₂, s₂, hsession, hp₂⟩ := exists_exec_of_run (h := backend)
    (p := (SshCall.createSession { sandboxId := "a" }).prog cfg) (s := s₁) []
    (fun _ _ s => s.runtimes.rows.length == 1 &&
      validates cfg "0123456789abcdef" (fun _ _ => true) s) hp₁
  rw [Bool.and_eq_true, beq_iff_eq] at hp₂
  obtain ⟨tr, result, s', hvalidate, -⟩ := exists_of_validates hp₂.2
  -- the store is empty, so no session is at stake
  have hsafe : SshSafe cfg (.sandbox (.create { name := some "a" })) (World.fresh .empty) tr₁ :=
    ⟨fun input _ _ row hrow => absurd hrow (Table.not_mem_empty row),
      fun input _ _ _ row hrow => absurd hrow (Table.not_mem_empty row),
      fun value v _ _ _ row hrow => absurd hrow (Table.not_mem_empty row)⟩
  have hrun : SshRun cfg (SshSafe cfg) .empty s₂ _ :=
    Runs.call (Runs.call Runs.start hcreate hsafe) hsession trivial
  exact ⟨s₂, _, result, hp₂.1, session_target cfg .empty hrun hvalidate⟩

/-- The host port belongs to a runtime with another id than the result's. -/
def leadsElsewhere (result : SshValidateResult) (s : World) : Bool :=
  s.runtimes.rows.any fun r => r.portBindings.any fun b => b.hostPort == result.hostPort &&
    r.sandboxId != ((normalizeSandboxId result.sandboxId).toOption.getD r.sandboxId)

/-- A port that belongs to another runtime is no port of this one. -/
theorem not_leadsToSsh_of_leadsElsewhere {s : World} {origin : Option RuntimeId}
    {result : SshValidateResult} (h : leadsElsewhere result s = true) :
    ¬ LeadsToSsh s origin result := by
  simp only [leadsElsewhere, List.any_eq_true, Bool.and_eq_true, beq_iff_eq, bne_iff_ne] at h
  obtain ⟨other, hother, b, hb, hport, hne⟩ := h
  rintro ⟨row, hrow, -, hid, binding, -, -, hexclusive⟩
  obtain ⟨rfl, -⟩ := hexclusive other hother b hb hport
  rw [hid] at hne
  exact hne rfl

/-- The sandbox `a` is deleted and `b` created on its ports: the session for `a` now leads into
`b`. -/
theorem session_outlives_sandbox :
    ¬ ∀ (cfg : AppConfig) (volumes : Table VolumeEntity volumeKeys) (s : World)
      (origins : Origins), SshRun cfg (fun _ _ _ => True) volumes s origins →
      ∀ (token : String) (tr : List (Event requests World Answer)) (result : SshValidateResult)
        (s' : World),
        Exec backend (SshSession.validateSession cfg token) s tr (.ok (some result)) s' →
        LeadsToSsh s (origins (cfg.sha256 token)) result := by
  intro hclaim
  let cfg : AppConfig := smallConfig 31005
  let calls : List (SshCall × List Answer) :=
    [(.sandbox (.create { name := some "a" }), []),
     (.createSession { sandboxId := "a" }, []),
     (.sandbox (.delete "a"), []),
     (.sandbox (.create { name := some "b" }), [])]
  have hcalls : (runCalls backend (SshCall.prog cfg) (originsAfter cfg) calls (World.fresh .empty)
      (fun _ => none)).any (fun q => validates cfg "0123456789abcdef" leadsElsewhere q.1) = true := by
    decide +kernel
  obtain ⟨s, origins, hrun, hp⟩ := exists_runs_of_runCalls calls
    (fun s _ => validates cfg "0123456789abcdef" leadsElsewhere s) hcalls
  -- the token of the first sandbox is accepted, and its port is that of the second
  obtain ⟨tr, result, s', hvalidate, helsewhere⟩ := exists_of_validates hp
  exact not_leadsToSsh_of_leadsElsewhere helsewhere
    (hclaim cfg .empty s origins hrun _ tr result s' hvalidate)

end Microsandbox
