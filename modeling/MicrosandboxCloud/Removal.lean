import MicrosandboxCloud.Calls
import MicrosandboxCloud.Process.Refine

/-!
# Microsandbox — removing a VM

The removal that the services await as one request is a chain of backend calls with swallowed
exceptions, a polling loop with a deadline and a fallback to the CLI. Here it is carried out call
by call, over the same world.

* **`MicrosandboxAdapter.remove`** — the chain.
* **`adapter_implements`** — it does what the request of the services' model does.
* **`delete_leaves_no_vm_iff`** — a deletion that returns has taken the VM away exactly when its
  first `Sandbox.get` did not miss a VM that exists.
-/

namespace Microsandbox

open Process Data

/-! ## The backend calls

A removal asks the SDK for a handle, stops the VM, waits, removes it and falls back to the CLI, each
in its own `try`. So each of these is an await of its own, of which the environment decides whether
it fails and what becomes of the VM. -/

/-- What a removal awaits, and every other request of the services as it is. A handle is the name
and the status it was read with. -/
inductive HostRequest where
  | service (op : Request)
  | getSandbox (name : String)
  | stopSandbox (name : String)
  | killSandbox (name : String)
  | removeSandbox (name : String)
  | removeForced (name : String)
  | now
  | delay (ms : Int)

/-- What an await resolves to. A call of the backend may throw, reading the clock and a timer may
not. -/
@[reducible] def HostRequest.Reply : HostRequest → Type
  | .service op => op.Reply
  | .getSandbox _ => Except ServiceError String
  | .stopSandbox _ => Except ServiceError Unit
  | .killSandbox _ => Except ServiceError Unit
  | .removeSandbox _ => Except ServiceError Unit
  | .removeForced _ => Except ServiceError Unit
  | .now => Int
  | .delay _ => Unit

/-- The requests as a signature of programs. -/
abbrev hostRequests : Signature := ⟨HostRequest, HostRequest.Reply⟩

/-- Code that awaits such requests. -/
abbrev HostAsync (α : Type) := Prog hostRequests ServiceError α

/-- One await. -/
abbrev awaitHost (op : HostRequest) : HostAsync op.Reply := Prog.request (σ := hostRequests) op

/-- The world and the clock. -/
structure HostWorld where
  world : World
  clock : Int

/-- The environment's choices. -/
structure HostAnswer extends Fallible ServiceError where
  service : Answer := {}
  /-- the VM is gone after the call, although nothing asked for that or the call threw -/
  lost : Bool := false
  status : String := "stopped"
  /-- how far the clock has moved -/
  elapsed : Nat := 0

instance : Inhabited HostAnswer := ⟨{}⟩

/-- What `Sandbox.get` throws for a name it does not know. -/
def sandboxNotFound : ServiceError := ⟨.error, "sandbox not found"⟩

namespace HostWorld

/-- The VM is gone, or everything is as before. -/
def dropVm (s : HostWorld) (name : String) (gone : Bool) : HostWorld :=
  if gone then { s with world := s.world.setVm name none } else s

/-- The clock moves on. -/
def tick (s : HostWorld) (ms : Nat) : HostWorld := { s with clock := s.clock + ms }

end HostWorld

/-- The meaning of each request. `Sandbox.get` may fail although the sandbox exists; a removal that
does not throw has removed the VM; a timer takes a millisecond at least. -/
def HostRequest.act : (op : HostRequest) → HostAnswer → HostWorld → Option (op.Reply × HostWorld)
  | .service op, a, s =>
    (Microsandbox.act op a.service s.world).map fun result =>
      (result.1, { s with world := result.2 })
  | .getSandbox name, a, s =>
    some (if s.world.vms name = none then .error sandboxNotFound else a.outcome a.status, s)
  | .stopSandbox name, a, s => some (a.outcome (), s.dropVm name a.lost)
  | .killSandbox name, a, s => some (a.outcome (), s.dropVm name a.lost)
  | .removeSandbox name, a, s => some (a.outcome (), s.dropVm name (a.failure.isNone || a.lost))
  | .removeForced name, a, s => some (a.outcome (), s.dropVm name (a.failure.isNone || a.lost))
  | .now, a, s => some ((s.tick a.elapsed).clock, s.tick a.elapsed)
  | .delay _, a, s => some ((), s.tick (a.elapsed + 1))

/-- The host as a handler of requests. -/
def hostBackend : Handler hostRequests HostWorld HostAnswer := ⟨HostRequest.act⟩

/-! ## The code

As the source has it, with its swallowed exceptions: what is caught there is an answer that nobody
looks at here. -/

/-- The settings of the polling loop. -/
structure RemovalConfig where
  runtimeReadyTimeoutMs : Int
  runtimeReadyPollIntervalMs : Int

namespace MicrosandboxAdapter

/-- The handle's status, or `none` where the source has `null` for the handle. -/
def getSandboxHandle (name : String) : HostAsync (Option String) := do
  match ← awaitHost (.getSandbox name) with
  | .ok status => return some status
  | .error _ => return none

/-- The source reads the status from the handle, so this is `getSandboxHandle` again. -/
def getStatus (name : String) : HostAsync (Option String) := getSandboxHandle name

/-- What the model throws when its fuel runs out; the source has no such error. -/
def pollsExhausted : ServiceError := ⟨.error, "polls exhausted"⟩

/-- The loop of `waitForSandboxStop`. The fuel counts its rounds; `waitForSandboxStop_returns` says
that it does not run out. -/
def pollLoop (cfg : RemovalConfig) (name : String) (deadline : Int) : Nat → HostAsync Unit
  | 0 => throw pollsExhausted
  | rounds + 1 => do
    match ← getStatus name with
    | none => return
    | some status =>
      -- `!status` also holds of the empty text
      if status = "" ∨ status = "stopped" then return
      else do
        let now : Int ← awaitHost .now
        if now ≥ deadline then do
          match ← getSandboxHandle name with
          | none => return
          | some _ => do
            let _ ← awaitHost (.killSandbox name)
            return
        else do
          awaitHost (.delay cfg.runtimeReadyPollIntervalMs)
          let now : Int ← awaitHost .now
          if now < deadline then pollLoop cfg name deadline rounds else return

/-- The deadline is computed once. The fuel is one round more than the timeout has milliseconds. -/
def waitForSandboxStop (cfg : RemovalConfig) (name : String) : HostAsync Unit := do
  let now : Int ← awaitHost .now
  pollLoop cfg name (now + cfg.runtimeReadyTimeoutMs) (cfg.runtimeReadyTimeoutMs.toNat + 1)

/-- The removal of a sandbox whose handle was found. -/
def removeFound (cfg : RemovalConfig) (name : String) : HostAsync Unit := do
  let _ ← awaitHost (.stopSandbox name)
  waitForSandboxStop cfg name
  match ← awaitHost (.removeSandbox name) with
  | .ok _ => return
  | .error _ =>
    let removed ← awaitHost (.removeForced name)
    Prog.ofExcept removed

/-- Without a handle nothing is removed, whether the sandbox is missing or `Sandbox.get` has failed
for another reason. -/
def remove (cfg : RemovalConfig) (name : String) : HostAsync Unit := do
  match ← getSandboxHandle name with
  | none => return
  | some _ => removeFound cfg name

end MicrosandboxAdapter

/-- How each request of the services is carried out. -/
def adapter (cfg : RemovalConfig) : (op : Request) → HostAsync op.Reply
  | .remove name => Prog.attempt (MicrosandboxAdapter.remove cfg name)
  | op => awaitHost (.service op)

/-- `RuntimeControl.delete`, down to the backend calls. -/
def deleteSandbox (cfg : RemovalConfig) (sandboxIdOrName : String) : HostAsync String :=
  (RuntimeControl.delete sandboxIdOrName).implement (adapter cfg)

/-! ## What a removal does

Nothing that a removal awaits can change the world but for one VM, and that only by taking it away.
The rest is about when it has been taken away. -/

/-- The world is as before, but for the VM of the name, which may be gone. -/
def VmLeft (name : String) (s s' : HostWorld) : Prop :=
  s'.world = s.world ∨ s'.world = s.world.setVm name none

section VmLeft

variable {name : String} {s s₁ s' : HostWorld}

theorem VmLeft.refl (s : HostWorld) : VmLeft name s s := Or.inl rfl

theorem VmLeft.trans (h : VmLeft name s s₁) (h' : VmLeft name s₁ s') : VmLeft name s s' := by
  rcases h with h | h <;> rcases h' with h' | h'
  · exact Or.inl (h'.trans h)
  · exact Or.inr (h ▸ h')
  · exact Or.inr (h'.trans h)
  · refine Or.inr ?_
    rw [h', h]
    simp [World.setVm]

/-- A call that loses the VM or not. -/
theorem vmLeft_dropVm (s : HostWorld) (gone : Bool) : VmLeft name s (s.dropVm name gone) := by
  cases gone
  · exact Or.inl rfl
  · exact Or.inr rfl

/-- The clock is not a part of the world. -/
theorem vmLeft_tick (s : HostWorld) (ms : Nat) : VmLeft name s (s.tick ms) := Or.inl rfl

/-- Losing a VM takes no time. -/
@[simp] theorem dropVm_clock (s : HostWorld) (gone : Bool) :
    (s.dropVm name gone).clock = s.clock := by
  cases gone <;> rfl

/-- A VM that is lost is not there. -/
theorem dropVm_gone (s : HostWorld) : (s.dropVm name true).world.vms name = none := by
  simp [HostWorld.dropVm, World.setVm]

end VmLeft

namespace MicrosandboxAdapter

variable {cfg : RemovalConfig} {name : String}
  {safe : Event hostRequests HostWorld HostAnswer → Prop}
  {s : HostWorld}

/-- Whether there is a handle may be anything: the call may fail for a sandbox that exists. -/
theorem ensures_getSandboxHandle {α : Type} {k : Option String → HostAsync α}
    {Q : Except ServiceError α → HostWorld → Prop}
    (hk : ∀ handle, Ensures hostBackend safe (k handle) s Q) :
    Ensures hostBackend safe (getSandboxHandle name >>= k) s Q := by
  unfold getSandboxHandle
  rw [Prog.bind_assoc]
  refine Ensures.request_bind fun a r s₁ hact _ => ?_
  cases hact
  split <;> exact hk _

/-- The loop ends before its fuel does, since every round but the last waits. Induction on the
rounds left. -/
theorem pollLoop_spec {deadline : Int} {rounds : Nat} (hfuel : 0 < rounds)
    (hclock : deadline - s.clock < rounds) :
    Ensures hostBackend safe (pollLoop cfg name deadline rounds) s fun x s' =>
      x = .ok () ∧ VmLeft name s s' := by
  induction rounds generalizing s with
  | zero => omega
  | succ rounds ih =>
    refine ensures_getSandboxHandle fun handle => ?_
    cases handle with
    | none => exact Ensures.pure ⟨rfl, .refl s⟩
    | some status =>
      dsimp only
      split_ifs
      · exact Ensures.pure ⟨rfl, .refl s⟩
      refine Ensures.request_bind fun a r s₁ hact _ => ?_
      cases hact
      -- at the deadline the VM is killed, and before it the loop sleeps
      split_ifs with hdeadline
      · refine ensures_getSandboxHandle fun handle => ?_
        cases handle with
        | none => exact Ensures.pure ⟨rfl, vmLeft_tick s _⟩
        | some _ =>
          refine Ensures.request_bind fun a' r' s₂ hact' _ => ?_
          cases hact'
          exact Ensures.pure ⟨rfl, (vmLeft_tick s _).trans (vmLeft_dropVm _ _)⟩
      · refine Ensures.request_bind fun a' r' s₂ hact' _ => ?_
        cases hact'
        refine Ensures.request_bind fun a'' r'' s₃ hact'' _ => ?_
        cases hact''
        have hleft : VmLeft name s (((s.tick a.elapsed).tick (a'.elapsed + 1)).tick a''.elapsed) :=
          Or.inl rfl
        split_ifs with hwait
        · -- the wait has brought the deadline nearer
          refine (ih ?_ ?_).mono fun x s' h => ⟨h.1, hleft.trans h.2⟩
          all_goals
            simp only [HostWorld.tick] at hwait hdeadline ⊢
            omega
        · exact Ensures.pure ⟨rfl, hleft⟩

/-- The wait always returns. -/
theorem waitForSandboxStop_returns :
    Ensures hostBackend safe (waitForSandboxStop cfg name) s fun x s' =>
      x = .ok () ∧ VmLeft name s s' := by
  refine Ensures.request_bind fun a r s₁ hact _ => ?_
  cases hact
  refine (pollLoop_spec (Nat.succ_pos _) ?_).mono fun x s' h => ⟨h.1, (vmLeft_tick s _).trans h.2⟩
  simp only [HostWorld.tick]
  omega

/-- Once its handle was found, a removal that returns has taken the VM away. -/
theorem removeFound_spec : Ensures hostBackend safe (removeFound cfg name) s fun x s' =>
    VmLeft name s s' ∧ ∀ u, x = .ok u → s'.world.vms name = none := by
  refine Ensures.request_bind fun a r s₁ hact _ => ?_
  cases hact
  have hstopped : VmLeft name s (s.dropVm name a.lost) := vmLeft_dropVm s a.lost
  refine Ensures.bind (waitForSandboxStop_returns.mono ?_)
  rintro x s₁ ⟨rfl, hwaited⟩
  have hleft := hstopped.trans hwaited
  refine Ensures.request_bind fun a r s₂ hact _ => ?_
  cases hact
  have hremoved := hleft.trans (vmLeft_dropVm s₁ (a.failure.isNone || a.lost))
  cases hfailure : a.failure with
  -- the removal has taken effect
  | none =>
    rw [hfailure, Option.isNone_none, Bool.true_or] at hremoved
    rw [Fallible.outcome_of_none hfailure, Option.isNone_none, Bool.true_or]
    exact Ensures.pure ⟨hremoved, fun _ _ => dropVm_gone s₁⟩
  -- it failed, and is tried once more by force
  | some e =>
    rw [hfailure] at hremoved
    rw [Fallible.outcome_of_some hfailure]
    refine Ensures.request_bind fun a' r' s₃ hact' _ => ?_
    cases hact'
    refine Ensures.ofExcept ⟨hremoved.trans (vmLeft_dropVm _ _), fun u hu => ?_⟩
    rw [Fallible.failure_of_ok hu, Option.isNone_none, Bool.true_or]
    exact dropVm_gone _

/-- How a removal runs: it returns at once when `Sandbox.get` fails, and else takes the VM away or
throws. -/
theorem remove_exec {tr : List (Event hostRequests HostWorld HostAnswer)}
    {x : Except ServiceError Unit} {s' : HostWorld}
    (hexec : Exec hostBackend (remove cfg name) s tr x s') :
    ∃ a rest, tr = ⟨s, .getSandbox name, a⟩ :: rest ∧ VmLeft name s s' ∧
      (a.failure ≠ none → x = .ok () ∧ s'.world = s.world) ∧
      (a.failure = none ∨ s.world.vms name = none → x = .ok () → s'.world.vms name = none) := by
  unfold remove getSandboxHandle at hexec
  rw [Prog.bind_assoc] at hexec
  cases hexec with
  | @await _ _ a _ s₁ _ r rest _ hact hrest =>
    refine ⟨a, rest, rfl, ?_⟩
    simp only [hostBackend, HostRequest.act, Option.some.injEq, Prod.mk.injEq] at hact
    obtain ⟨rfl, rfl⟩ := hact
    -- without the VM, `Sandbox.get` fails whatever the environment chooses
    cases hvm : s.world.vms name with
    | none =>
      rw [if_pos hvm] at hrest
      cases hrest
      exact ⟨.refl s, fun _ => ⟨rfl, rfl⟩, fun _ _ => hvm⟩
    | some vm =>
      rw [if_neg (by simp [hvm])] at hrest
      cases hfailure : a.failure with
      | none =>
        rw [Fallible.outcome_of_none hfailure] at hrest
        obtain ⟨hleft, hgone⟩ := removeFound_spec.exec hrest
        exact ⟨hleft, fun h => absurd rfl h, fun _ => hgone ()⟩
      | some e =>
        rw [Fallible.outcome_of_some hfailure] at hrest
        cases hrest
        exact ⟨.refl s, fun _ => ⟨rfl, rfl⟩, fun h => by simp at h⟩

end MicrosandboxAdapter

/-! ## The chain is the request

The services await a removal as one request, which leaves the VM or takes it away, and throws or
not. Each run of the chain is one of these, so what was shown of the services is true of the chain.
-/

/-- A request that is passed on does in the world what it does for the services. -/
theorem service_exec {op : Request} {s s' : HostWorld}
    {tr : List (Event hostRequests HostWorld HostAnswer)} {x : Except ServiceError op.Reply}
    (hexec : Exec hostBackend (awaitHost (.service op)) s tr x s') :
    ∃ r a, x = .ok r ∧ backend.act op a s.world = some (r, s'.world) := by
  cases hexec with
  | @await _ _ a _ s₁ _ r rest _ hact hrest =>
    cases hrest
    obtain ⟨⟨r', w⟩, hserved, heq⟩ := Option.map_eq_some_iff.mp hact
    cases heq
    exact ⟨_, a.service, rfl, hserved⟩

/-- The removal, call by call, does what the services' model says of it in one request. -/
theorem adapter_implements (cfg : RemovalConfig) :
    Implements hostBackend backend (adapter cfg) HostWorld.world := by
  intro op s tr x s' hexec
  cases op with
  -- the answer of the one request is read off the run of the chain
  | remove name =>
    obtain ⟨y, rfl, hremove⟩ := Exec.of_attempt hexec
    obtain ⟨-, -, -, hleft, -⟩ := MicrosandboxAdapter.remove_exec hremove
    let failure : Option ServiceError := match y with
      | .ok _ => none
      | .error e => some e
    have hreply : Fallible.outcome { failure := failure } () = y := by
      cases y <;> rfl
    rcases hleft with hkept | hgone
    · refine ⟨y, { failure := failure, removeKeepsVm := true }, rfl, ?_⟩
      rw [hkept, ← hreply]
      rfl
    · refine ⟨y, { failure := failure }, rfl, ?_⟩
      rw [hgone, ← hreply]
      rfl
  | _ => exact service_exec hexec

/-- A deletion, call by call, is a deletion of the services' model. -/
theorem deleteSandbox_refines {cfg : RemovalConfig} {value : String} {s s' : HostWorld}
    {tr : List (Event hostRequests HostWorld HostAnswer)} {x : Except ServiceError String}
    (hexec : Exec hostBackend (deleteSandbox cfg value) s tr x s') :
    ∃ tr', Exec backend (RuntimeControl.delete value) s.world tr' x s'.world :=
  hexec.of_implement (adapter_implements cfg)

/-! ## Requests that do not concern VMs

What `delete` does before and after the removal is passed on to the services, so it makes no call of
`Sandbox.get`. -/

theorem Request.Queries.leavesVms {op : Request} (h : op.Queries) : op.LeavesVms := by
  cases op <;> trivial

/-- A request of the services as it is. -/
def HostRequest.IsService (op : HostRequest) : Prop := ∃ o, op = .service o

/-- What of the services does not concern VMs makes no backend call of a removal. -/
theorem isService_of_leavesVms {α : Type} {p : Async α} {cfg : RemovalConfig}
    (hp : p.Uses Request.LeavesVms) : (p.implement (adapter cfg)).Uses HostRequest.IsService := by
  refine hp.implement fun op hop => ?_
  cases op with
  | remove name => exact hop.elim
  | _ => exact Prog.Uses.request ⟨_, rfl⟩

/-! ## Deleting a sandbox

A deletion marks the row, removes the VM and forgets the row. It is split there, so that the first
`Sandbox.get` of the whole run is known to be that of the removal. -/

/-- `delete` before the removal: the row is loaded and marked. -/
def markDeleting (sandboxIdOrName : String) : Async RuntimeEntity := do
  let runtime ← RuntimeControl.requireRuntime sandboxIdOrName
  Registry.setRuntimeStatus runtime .deleting "delete_requested"

/-- `delete` after the removal: the ports and the row are given back. -/
def forget (runtime : RuntimeEntity) : Async String := do
  Registry.releasePorts runtime.id
  Registry.deleteRuntime runtime
  return runtime.sandboxId

/-- The three parts of `delete`, in the order of the source. -/
theorem delete_eq (value : String) : RuntimeControl.delete value =
    markDeleting value >>= fun runtime => await (.remove runtime.sandboxName) >>= fun removed =>
      sync removed >>= fun _ => forget runtime := by
  simp only [RuntimeControl.delete, markDeleting, forget, Prog.bind_assoc]

section Stages

variable {safe : Event requests World Answer → Prop} {s : World}

/-- The row that is marked has the names of a stored row, and no VM is touched. -/
theorem markDeleting_spec (value : String) :
    Ensures backend safe (markDeleting value) s fun x s' => s'.vms = s.vms ∧
      ∀ row', x = .ok row' → ∃ row ∈ s.runtimes, row'.sandboxId = row.sandboxId ∧
        row'.sandboxName = row.sandboxName := by
  refine ensures_requireRuntime (fun v _ row hrow _ => ?_) fun e => ⟨rfl, fun _ h => by cases h⟩
  rw [← Prog.bind_pure (Registry.setRuntimeStatus row _ _)]
  refine ensures_setRuntimeStatus (fun lastActiveAt s₁ hsave => ?_)
    fun e => ⟨rfl, fun _ h => by cases h⟩
  refine Ensures.pure ⟨(World.saveRuntime_spec hsave).2.2, fun row' h => ?_⟩
  cases h
  exact ⟨row, hrow, rfl, rfl⟩

theorem markDeleting_uses (value : String) : (markDeleting value).Uses Request.LeavesVms := by
  refine ((RuntimeControl.requireRuntime_uses value).mono fun _ h => h.queries.leavesVms).bind
    fun row => ?_
  unfold Registry.setRuntimeStatus
  rw [if_neg (by decide)]
  refine (Prog.Uses.request trivial).bind fun saved => ?_
  exact (Prog.Uses.ofExcept saved).bind fun _ => (Prog.uses_pure _).mpr trivial

/-- Forgetting a row cannot fail and touches no VM. -/
theorem forget_spec (row : RuntimeEntity) :
    Ensures backend safe (forget row) s fun x s' => x = .ok row.sandboxId ∧ s'.vms = s.vms := by
  refine ensures_deletePortLeases ?_
  unfold Registry.deleteRuntime
  simp only [Prog.bind_assoc]
  refine ensures_deleteRuntime (ensures_deletePortLeases (ensures_deleteSignedTokens ?_))
  exact Ensures.pure ⟨rfl, rfl⟩

end Stages

section Delete

variable {cfg : RemovalConfig} {value : String} {s s' : HostWorld}
  {tr : List (Event hostRequests HostWorld HostAnswer)} {x : Except ServiceError String}

/-- The event is a call of `Sandbox.get`. -/
def IsGet (ev : Event hostRequests HostWorld HostAnswer) : Prop := ∃ name, ev.op = .getSandbox name

/-- What is passed on to the services is no call of `Sandbox.get`. -/
theorem not_isGet {ev : Event hostRequests HostWorld HostAnswer} (h : ev.op.IsService) :
    ¬ IsGet ev := by
  rintro ⟨name, hname⟩
  obtain ⟨o, ho⟩ := h
  rw [hname] at ho
  cases ho

/-- A deletion either throws before it comes to the removal, or is what the removal of the row's
VM makes of it. -/
theorem deleteSandbox_exec (hexec : Exec hostBackend (deleteSandbox cfg value) s tr x s') :
    (∃ e, x = .error e ∧ ∀ ev ∈ tr, ¬ IsGet ev) ∨
    ∃ row ∈ s.world.runtimes, ∃ s₁ s₂ pre mid rest y, tr = pre ++ (mid ++ rest) ∧
      (∀ ev ∈ pre, ¬ IsGet ev) ∧ s₁.world.vms = s.world.vms ∧
      Exec hostBackend (MicrosandboxAdapter.remove cfg row.sandboxName) s₁ mid y s₂ ∧
      s'.world.vms = s₂.world.vms ∧ x = y.map fun _ => row.sandboxId := by
  have himpl := adapter_implements cfg
  unfold deleteSandbox at hexec
  rw [delete_eq, Prog.implement_bind] at hexec
  -- marking the row asks the adapter for nothing
  have hquiet : ∀ {tr' : List (Event hostRequests HostWorld HostAnswer)} {y s'},
      Exec hostBackend ((markDeleting value).implement (adapter cfg)) s tr' y s' →
      ∀ ev ∈ tr', ¬ IsGet ev := fun hmark ev hev =>
    not_isGet (hmark.uses (isService_of_leavesVms (markDeleting_uses value)) ev hev)
  rcases hexec.of_bind with ⟨row', s₁, pre, tr₁, rfl, hmark, hrest⟩ | ⟨e, rfl, hmark⟩
  · obtain ⟨tr', hmark'⟩ := hmark.of_implement himpl
    obtain ⟨hvms, hrow⟩ := (markDeleting_spec value).exec hmark'
    obtain ⟨row, hmem, hid, hname⟩ := hrow row' rfl
    refine Or.inr ⟨row, hmem, s₁, ?_⟩
    rw [Prog.implement_request] at hrest
    rcases hrest.of_bind with ⟨y, s₂, mid, rest, rfl, hremove, htail⟩ | ⟨e, -, hremove⟩
    · obtain ⟨y', hy, hremove'⟩ := Exec.of_attempt hremove
      cases hy
      rw [← hname]
      refine ⟨s₂, pre, mid, rest, y, rfl, hquiet hmark, hvms, hremove', ?_⟩
      rw [Prog.implement_bind, Prog.implement_ofExcept] at htail
      cases y with
      | error e =>
        cases htail
        exact ⟨rfl, rfl⟩
      | ok u =>
        obtain ⟨tr'', hforget⟩ := Exec.of_implement (p := forget row') himpl htail
        obtain ⟨hx, hvms'⟩ := (forget_spec row').exec hforget
        exact ⟨hvms', by rw [hx, hid]; rfl⟩
    · obtain ⟨y, hy, -⟩ := Exec.of_attempt hremove
      cases hy
  · exact Or.inl ⟨e, rfl, hquiet hmark⟩

/-- The first event of a kind is one event. -/
theorem first_unique {X : Type} {P : X → Prop} {pre pre' rest rest' : List X} {x x' : X}
    (h : pre ++ x :: rest = pre' ++ x' :: rest') (hpre : ∀ y ∈ pre, ¬ P y)
    (hpre' : ∀ y ∈ pre', ¬ P y) (hx : P x) (hx' : P x') : x = x' := by
  rcases List.append_eq_append_iff.mp h with ⟨mid, rfl, hmid⟩ | ⟨mid, rfl, hmid⟩
  · cases mid with
    | nil => exact (List.cons.inj hmid).1
    | cons y mid =>
      obtain ⟨rfl, -⟩ := List.cons.inj hmid
      exact absurd hx (hpre' x (by simp))
  · cases mid with
    | nil => exact (List.cons.inj hmid).1.symm
    | cons y mid =>
      obtain ⟨rfl, -⟩ := List.cons.inj hmid
      exact absurd hx' (hpre x' (by simp))

/-- The first `Sandbox.get` fails although the sandbox exists. -/
def MissesVm (tr : List (Event hostRequests HostWorld HostAnswer)) : Prop :=
  ∃ pre s name a rest, tr = pre ++ ⟨s, .getSandbox name, a⟩ :: rest ∧ (∀ ev ∈ pre, ¬ IsGet ev) ∧
    a.failure ≠ none ∧ s.world.vms name ≠ none

/-- **Delete leaves no VM behind.** However the backend answers, a deletion that returns has left
no VM under the sandbox's name exactly when its first `Sandbox.get` did not fail for a sandbox that
exists. -/
theorem delete_leaves_no_vm_iff (cfg : RemovalConfig) (value : String) {s s' : HostWorld}
    {tr : List (Event hostRequests HostWorld HostAnswer)} {x : Except ServiceError String}
    (hexec : Exec hostBackend (deleteSandbox cfg value) s tr x s') :
    (∀ sandboxId, x = .ok sandboxId → ∀ row ∈ s.world.runtimes, row.sandboxId = sandboxId →
      s'.world.vms row.sandboxName = none) ↔ ¬ MissesVm tr := by
  rcases deleteSandbox_exec hexec with ⟨e, rfl, hquiet⟩ | ⟨row, hrow, s₁, s₂, pre, mid, rest, y,
    rfl, hquiet, hvms₁, hremove, hvms, rfl⟩
  · refine ⟨fun _ => ?_, fun _ => nofun⟩
    rintro ⟨pre, w, name, a, rest, rfl, -⟩
    exact hquiet ⟨w, .getSandbox name, a⟩ (by simp) ⟨name, rfl⟩
  · obtain ⟨a, mid', rfl, hleft, hmissed, hfound⟩ := MicrosandboxAdapter.remove_exec hremove
    -- the first `Sandbox.get` of the deletion is that of the removal
    have hmisses : MissesVm (pre ++ (⟨s₁, .getSandbox row.sandboxName, a⟩ :: mid' ++ rest)) ↔
        a.failure ≠ none ∧ s₁.world.vms row.sandboxName ≠ none := by
      constructor
      · rintro ⟨pre', w, name, a', rest', htr, hquiet', hfailure, hvm⟩
        have heq := first_unique htr hquiet hquiet' ⟨_, rfl⟩ ⟨_, rfl⟩
        cases heq
        exact ⟨hfailure, hvm⟩
      · rintro ⟨hfailure, hvm⟩
        exact ⟨pre, s₁, row.sandboxName, a, mid' ++ rest, rfl, hquiet, hfailure, hvm⟩
    rw [hmisses]
    constructor
    · rintro hgone ⟨hfailure, hvm⟩
      obtain ⟨rfl, hsame⟩ := hmissed hfailure
      refine hvm ?_
      rw [← hsame, ← hvms]
      exact hgone row.sandboxId rfl row hrow rfl
    · intro hnot sandboxId hx row' hrow' hid
      cases y with
      | error e => cases hx
      | ok u =>
        obtain rfl : row' = row :=
          World.eq_of_sandboxId hrow' hrow (hid.trans (Except.ok.inj hx).symm)
        rw [hvms]
        refine hfound ?_ rfl
        by_contra hboth
        rw [not_or] at hboth
        exact hnot hboth

end Delete

/-! ## Runs

Runs on a world with one sandbox: the CLI removes what the SDK could not, and a failing
`Sandbox.get` leaves everything in place. -/

/-- The settings' defaults. -/
def defaultRemoval : RemovalConfig := ⟨15000, 500⟩

/-- The world after a sandbox was created. -/
def createdWorld : World :=
  match run backend (RuntimeControl.create (smallConfig 31005) { name := some "a" }) []
    (World.fresh .empty) with
  | some (_, _, s) => s
  | none => World.fresh .empty

/-- The deletion returned, and the VM of its sandbox is still there, or is not. -/
def deletedWith (there : Bool) (x : Except ServiceError String) (s' : HostWorld) : Bool :=
  match x with
  | .error _ => false
  | .ok sandboxId => createdWorld.runtimes.rows.any fun row =>
      row.sandboxId == sandboxId && (s'.world.vms row.sandboxName).isSome == there

/-- The handle's own removal fails and the CLI removes the VM. -/
theorem delete_leaves_no_vm_forced : ∃ tr x s',
    Exec hostBackend (deleteSandbox defaultRemoval "a") ⟨createdWorld, 0⟩ tr x s' ∧
      deletedWith false x s' = true ∧
      ((∀ sandboxId, x = .ok sandboxId → ∀ row ∈ createdWorld.runtimes,
        row.sandboxId = sandboxId → s'.world.vms row.sandboxName = none) ↔ ¬ MissesVm tr) := by
  obtain ⟨tr, x, s', hexec, hdeleted⟩ := exists_exec_of_run (h := hostBackend)
    (p := deleteSandbox defaultRemoval "a") (s := ⟨createdWorld, 0⟩)
    [{}, {}, {}, {}, {}, {}, { failure := some ⟨.error, "still running"⟩ }]
    (fun _ x s' => deletedWith false x s') (by decide +kernel)
  exact ⟨tr, x, s', hexec, hdeleted, delete_leaves_no_vm_iff defaultRemoval "a" hexec⟩

/-- `Sandbox.get` fails once, and the deletion returns without having tried to remove the VM. -/
theorem delete_leaves_vm :
    ¬ ∀ (cfg : RemovalConfig) (value : String) (s s' : HostWorld)
      (tr : List (Event hostRequests HostWorld HostAnswer)) (x : Except ServiceError String),
      Exec hostBackend (deleteSandbox cfg value) s tr x s' →
      ∀ sandboxId, x = .ok sandboxId → ∀ row ∈ s.world.runtimes, row.sandboxId = sandboxId →
        s'.world.vms row.sandboxName = none := by
  intro hclaim
  obtain ⟨tr, x, s', hexec, hdeleted⟩ := exists_exec_of_run (h := hostBackend)
    (p := deleteSandbox defaultRemoval "a") (s := ⟨createdWorld, 0⟩)
    [{}, {}, { failure := some ⟨.error, "the sandbox registry is locked"⟩ }]
    (fun _ x s' => deletedWith true x s') (by decide +kernel)
  -- the deletion has returned and the VM of the row is still there
  unfold deletedWith at hdeleted
  split at hdeleted
  · cases hdeleted
  · simp only [List.any_eq_true, Bool.and_eq_true, beq_iff_eq] at hdeleted
    obtain ⟨row, hrow, hid, hvm⟩ := hdeleted
    have hgone := hclaim _ _ _ _ _ _ hexec _ rfl row hrow hid
    rw [hgone] at hvm
    cases hvm

end Microsandbox
