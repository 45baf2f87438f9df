import MicrosandboxCloud.Calls
import MicrosandboxCloud.Removal

/-!
# Microsandbox — when a sandbox is reported running

A launch waits for the ports of the VM: `waitForHealthy` connects to a port again and again until
something accepts, or until time is up.

* **`probing`** — the requests of the services, with `waitForHealthy` opened up.
* **`Connected`**, **`TimedOut`** — a port has accepted a connection; none did in a whole wait.
* **`provisioned_status_holds`** — whatever `create`, `ensure` and `update` are answered, and
  whatever runs beside them, the status they return is what the ports have shown.
* **`waitForHealthy_bounded`** — a wait comes to its end, after no more probes than fit in its time.
-/

namespace Microsandbox

open Process Data Text RuntimeControl

/-! ## The wait

The source probes, and unless that succeeds sleeps and looks at the clock, until the deadline has
passed. The first probe is made whatever the clock says. -/

namespace RuntimeControl

/-- What `socket.connect` accepts. -/
def IsPort (port : Int) : Prop := 0 ≤ port ∧ port ≤ 65535

instance (port : Int) : Decidable (IsPort port) := inferInstanceAs (Decidable (_ ∧ _))

/-- The `RangeError` of `socket.connect`. -/
def badPort (port : Int) : ServiceError :=
  ⟨.error, "Port should be >= 0 and < 65536. Received type number (" ++ toString port ++ ")."⟩

/-- `isHealthy` rejects a port that is none, and otherwise tries to connect to it. -/
def isHealthy (port : Int) : HostAsync Bool :=
  if IsPort port then awaitHost (.service (.isHealthy port)) else throw (badPort port)

/-- What the model throws when its fuel runs out; the source has no such error. -/
def probesExhausted : ServiceError := ⟨.error, "probes exhausted"⟩

/-- The loop of `waitForHealthy`. The fuel counts its rounds; `waitForHealthy_bounded` says that it
does not run out. -/
def probeLoop (cfg : RemovalConfig) (port deadline : Int) : Nat → HostAsync Bool
  | 0 => throw probesExhausted
  | rounds + 1 => do
    let healthy : Bool ← isHealthy port
    if healthy then return true
    else do
      awaitHost (.delay cfg.runtimeReadyPollIntervalMs)
      let now : Int ← awaitHost .now
      if now < deadline then probeLoop cfg port deadline rounds else return false

/-- `waitForHealthy` with any bound on the rounds of its loop. -/
def probeRounds (cfg : RemovalConfig) (port : Int) (rounds : Nat) : HostAsync Bool := do
  let now : Int ← awaitHost .now
  probeLoop cfg port (now + cfg.runtimeReadyTimeoutMs) rounds

/-- The fuel is one round more than the timeout has milliseconds, since each sleep takes at least a
millisecond. -/
def waitForHealthy (cfg : RemovalConfig) (port : Int) : HostAsync Bool :=
  probeRounds cfg port (cfg.runtimeReadyTimeoutMs.toNat + 1)

end RuntimeControl

/-- Every request as it is, but for the probes and the waits. -/
def probing (cfg : RemovalConfig) (rounds : Nat) : (op : Request) → HostAsync op.Reply
  | .waitForHealthy port => probeRounds cfg port rounds
  | .isHealthy port => isHealthy port
  | op => awaitHost (.service op)

/-! ## What a wait has seen

Two statements about the answers that a wait was given, one for each result. They hold of every part
of a transcript that contains the wait. -/

/-- The port has accepted a connection. -/
def Connected (port : Int) (t : Transcript hostRequests) : Prop :=
  ⟨.service (.isHealthy port), true⟩ ∈ t

/-- The port was probed in vain until the clock had passed the deadline. -/
structure ProbedUntil (port deadline : Int) (t : Transcript hostRequests) : Prop where
  probed : ⟨.service (.isHealthy port), false⟩ ∈ t
  failed : ∀ other, ⟨.service (.isHealthy other), true⟩ ∉ t
  late : ∃ now, [⟨.now, now⟩] <:+ t ∧ deadline ≤ now

/-- There was a whole wait for the port in which nothing accepted. -/
def TimedOut (cfg : RemovalConfig) (port : Int) (t : Transcript hostRequests) : Prop :=
  ∃ start w, (⟨.now, start⟩ :: w) <:+: t ∧ ProbedUntil port (start + cfg.runtimeReadyTimeoutMs) w

section Wait

variable {cfg : RemovalConfig} {port deadline : Int} {t : Transcript hostRequests}

/-- What was seen in a part was seen in the whole. -/
theorem Connected.widen {w : Transcript hostRequests} (h : Connected port w) (hpart : w <:+: t) :
    Connected port t := hpart.subset h

/-- A wait in a part is a wait in the whole. -/
theorem TimedOut.widen {w : Transcript hostRequests} (h : TimedOut cfg port w)
    (hpart : w <:+: t) : TimedOut cfg port t := by
  obtain ⟨start, v, hv, huntil⟩ := h
  exact ⟨start, v, hv.trans hpart, huntil⟩

/-- A round in which nothing accepts. -/
theorem probedUntil_round {ms now : Int}
    (h : deadline ≤ now ∧ t = [] ∨ ProbedUntil port deadline t) :
    ProbedUntil port deadline
      (⟨.service (.isHealthy port), false⟩ :: ⟨.delay ms, ()⟩ :: ⟨.now, now⟩ :: t) where
  probed := List.mem_cons_self
  failed other hmem := by
    have hrest : ⟨.service (.isHealthy other), true⟩ ∉ t := by
      rcases h with ⟨-, rfl⟩ | h
      · exact List.not_mem_nil
      · exact h.failed other
    simp at hmem
    exact hrest hmem
  late := by
    rcases h with ⟨hlate, rfl⟩ | h
    · exact ⟨now, List.suffix_append [_, _] _, hlate⟩
    · obtain ⟨now', hlast, hlate⟩ := h.late
      exact ⟨now', hlast.trans (List.suffix_append [_, _, _] t), hlate⟩

/-- A probe that returns has tried to connect. -/
theorem RuntimeControl.isHealthy_ends {healthy : Bool}
    (h : (isHealthy port).Ends t (.ok healthy)) : t = [⟨.service (.isHealthy port), healthy⟩] := by
  unfold isHealthy at h
  split_ifs at h
  · obtain ⟨accepted, t', rfl, hrest⟩ := Prog.ends_await.mp h
    obtain ⟨rfl, hx⟩ := Prog.ends_pure.mp hrest
    cases hx
    rfl
  · cases (Prog.ends_throw.mp h).2

/-- The loop returns whether the port has accepted. Induction on the rounds left. -/
theorem RuntimeControl.probeLoop_ends {rounds : Nat} {healthy : Bool}
    (h : (probeLoop cfg port deadline rounds).Ends t (.ok healthy)) :
    if healthy then Connected port t else ProbedUntil port deadline t := by
  induction rounds generalizing t with
  | zero =>
    obtain ⟨-, hx⟩ := Prog.ends_throw.mp h
    cases hx
  | succ rounds ih =>
    obtain ⟨tprobe, t₁, accepted, rfl, hprobe, hrest⟩ := Prog.Ends.of_bind h
    obtain rfl := isHealthy_ends hprobe
    cases accepted with
    | true =>
      obtain ⟨-, hx⟩ := Prog.ends_pure.mp hrest
      cases hx
      exact List.mem_cons_self
    | false =>
      -- nothing accepts: the loop sleeps, reads the clock and decides whether there is another
      -- round
      obtain ⟨_, t₂, rfl, hslept⟩ := Prog.ends_request.mp hrest
      obtain ⟨now, t₃, rfl, hread⟩ := Prog.ends_request.mp hslept
      split_ifs at hread with hdeadline
      · have hagain := ih hread
        cases healthy with
        | true => exact hagain.widen (List.suffix_append [_, _, _] t₃).isInfix
        | false => exact probedUntil_round (Or.inr hagain)
      · obtain ⟨rfl, hx⟩ := Prog.ends_pure.mp hread
        cases hx
        exact probedUntil_round (Or.inl ⟨Int.not_lt.mp hdeadline, rfl⟩)

/-- A wait that returned `true` has connected to the port. -/
theorem RuntimeControl.connected_of_probeRounds {rounds : Nat}
    (h : (probeRounds cfg port rounds).Ends t (.ok true)) : Connected port t := by
  obtain ⟨now, t', rfl, hrest⟩ := Prog.ends_request.mp h
  exact (probeLoop_ends hrest).widen (List.suffix_append [_] t').isInfix

/-- A wait that returned `false` has probed until its deadline. -/
theorem RuntimeControl.timedOut_of_probeRounds {rounds : Nat}
    (h : (probeRounds cfg port rounds).Ends t (.ok false)) : TimedOut cfg port t := by
  obtain ⟨now, t', rfl, hrest⟩ := Prog.ends_request.mp h
  exact ⟨now, t', List.infix_rfl, probeLoop_ends hrest⟩

end Wait

/-! ## What a call has waited for

The same for whole calls, over transcripts in which a wait is one request still. A call that
provisions either finds a healthy sandbox or creates exactly one VM and waits for its ports. -/

/-- The host port behind the primary port of an answer. -/
def Registry.RuntimeSummary.primaryHostPort (summary : Registry.RuntimeSummary) : Int :=
  match summary.portBindings.find? (fun b => b.containerPort == summary.primaryPort) with
  | some binding => binding.hostPort
  | none => summary.hostPort

/-- The request creates no VM. -/
def Request.CreatesNone (op : Request) : Prop := ∀ vm, op ≠ .createDetachedRuntime vm

theorem Request.Mild.createsNone {op : Request} (h : op.Mild) : op.CreatesNone := by
  rintro vm rfl
  exact h

/-- A program that only looks creates no VM. -/
theorem createsNone_of_looks {α : Type} {p : Async α} (hp : p.Uses Request.Looks) :
    p.Uses Request.CreatesNone :=
  hp.mono fun _ h => h.queries.mild.createsNone

/-- A program of mild requests creates no VM. -/
theorem createsNone_of_mild {α : Type} {p : Async α} (hp : p.Uses Request.Mild) :
    p.Uses Request.CreatesNone :=
  hp.mono fun _ h => h.createsNone

/-- How a provisioning call that returned the summary has gone: the sandbox was there and healthy,
or one VM was created, and the port of the application and that of SSH were waited for. -/
inductive Provisioned (t : Transcript requests) (summary : Registry.RuntimeSummary) : Prop where
  | existing (hnone : ∀ e ∈ t, e.1.CreatesNone) (hstatus : summary.status = .running)
      (hhealthy : ⟨.isHealthy summary.primaryHostPort, true⟩ ∈ t) : Provisioned t summary
  | launched (vm : CreateRuntimeInput) (appHealthy sshHealthy : Bool)
      (hcreated : ∃ r, ⟨.createDetachedRuntime vm, r⟩ ∈ t)
      (honly : ∀ e ∈ t, ∀ other, e.1 = .createDetachedRuntime other → other = vm)
      (hports : vm.ports = summary.portBindings)
      (happ : ⟨.waitForHealthy summary.primaryHostPort, appHealthy⟩ ∈ t)
      (hssh : ∀ binding, vm.ssh = true → findSshBinding vm.ports = some binding →
        ⟨.waitForHealthy binding.hostPort, sshHealthy⟩ ∈ t)
      (hwanted : sshHealthy = false → vm.ssh = true ∧ ∃ b, findSshBinding vm.ports = some b)
      (hstatus : summary.status = if appHealthy && sshHealthy then .running else .error) :
      Provisioned t summary

section Calls

variable {cfg : AppConfig} {input : ProvisionInput} {name : Option String} {spec : RuntimeSpec}
  {row : RuntimeEntity} {t t₁ : Transcript requests} {summary : Registry.RuntimeSummary}

/-- The call did something else first. -/
theorem Provisioned.after (h : Provisioned t summary) (hnone : ∀ e ∈ t₁, e.1.CreatesNone) :
    Provisioned (t₁ ++ t) summary := by
  cases h with
  | existing hnone' hstatus hhealthy =>
    exact .existing (List.forall_mem_append.mpr ⟨hnone, hnone'⟩) hstatus
      (List.mem_append_right _ hhealthy)
  | launched vm appHealthy sshHealthy hcreated honly hports happ hssh hwanted hstatus =>
    obtain ⟨r, hr⟩ := hcreated
    refine .launched vm appHealthy sshHealthy ⟨r, List.mem_append_right _ hr⟩ ?_ hports
      (List.mem_append_right _ happ)
      (fun b hvm hb => List.mem_append_right _ (hssh b hvm hb)) hwanted hstatus
    refine List.forall_mem_append.mpr ⟨fun e he other hop => ?_, honly⟩
    exact absurd hop (hnone e he other)

/-- A program that creates no VM goes first. -/
theorem provisioned_after {β : Type} {p : Async β} {k : β → Async Registry.RuntimeSummary}
    (hp : p.Uses Request.CreatesNone) (h : (p >>= k).Ends t (.ok summary))
    (hk : ∀ t b, (k b).Ends t (.ok summary) → Provisioned t summary) : Provisioned t summary := by
  obtain ⟨t₁, t₂, b, rfl, hfirst, hrest⟩ := Prog.Ends.of_bind h
  exact (hk t₂ b hrest).after (hfirst.uses hp)

/-- A launched sandbox is reached on its first binding: that is the one of its primary port. -/
theorem primaryHostPort_provisionedRow {ports : List RuntimePortBindingRecord}
    {primary : RuntimePortBindingRecord} (h : firstPortBinding ports = .ok primary)
    {appHealthy sshHealthy : Bool} {lastActiveAt : Option Int} :
    (Registry.runtimeStatusSummary (provisionedRow name spec row ports primary appHealthy sshHealthy
      lastActiveAt)).primaryHostPort = primary.hostPort := by
  have hfind : ports.find? (fun b => b.containerPort == primary.containerPort) = some primary := by
    cases ports with
    | nil => cases h
    | cons b rest =>
      cases h
      exact List.find?_cons_of_pos (by simp)
  change (match ports.find? (fun b => b.containerPort == primary.containerPort) with
    | some binding => binding.hostPort
    | none => primary.hostPort) = primary.hostPort
  rw [hfind]

/-- Creating a VM is one request. A transient error of it is swallowed, so the answer does not
matter here. -/
theorem createVm_ends {vm : CreateRuntimeInput} {x : Except ServiceError Unit}
    (h : (RuntimeControl.createVm vm).Ends t x) : ∃ r, t = [⟨.createDetachedRuntime vm, r⟩] := by
  obtain ⟨r, t', rfl, hrest⟩ := Prog.ends_request.mp h
  refine ⟨r, congrArg _ ?_⟩
  cases r with
  | ok u => exact (Prog.ends_pure.mp hrest).1
  | error e =>
    dsimp only at hrest
    split_ifs at hrest
    · exact (Prog.ends_pure.mp hrest).1
    · exact (Prog.ends_throw.mp hrest).1

/-- The health of SSH is what the wait for its port was answered; without SSH, or without a binding
for it, nothing is waited for and the result is `true`. -/
theorem sshHealth_ends {ports : List RuntimePortBindingRecord} {sshHealthy : Bool}
    (h : (sshHealth spec ports).Ends t (.ok sshHealthy)) :
    (∀ b, spec.ssh = true → findSshBinding ports = some b →
      ⟨.waitForHealthy b.hostPort, sshHealthy⟩ ∈ t) ∧
      (sshHealthy = false → spec.ssh = true ∧ ∃ b, findSshBinding ports = some b) := by
  unfold sshHealth at h
  split_ifs at h with hspec
  · cases hfind : findSshBinding ports with
    -- without a binding for SSH the code takes it for healthy
    | none =>
      rw [hfind] at h
      obtain ⟨-, hx⟩ := Prog.ends_pure.mp h
      cases hx
      exact ⟨fun b _ hb => (nomatch hb), fun hfalse => nomatch hfalse⟩
    | some binding =>
      rw [hfind] at h
      obtain ⟨r, t', rfl, hrest⟩ := Prog.ends_await.mp h
      obtain ⟨rfl, hx⟩ := Prog.ends_pure.mp hrest
      cases hx
      refine ⟨fun b _ hb => ?_, fun _ => ⟨hspec, binding, rfl⟩⟩
      cases hb
      exact List.mem_cons_self
  -- SSH is not enabled
  · obtain ⟨-, hx⟩ := Prog.ends_pure.mp h
    cases hx
    exact ⟨fun b hssh _ => absurd hssh hspec, fun hfalse => nomatch hfalse⟩

/-- The clock may be read, and nothing else. -/
theorem nextActivity_createsNone : (nextActivity input row).Uses Request.CreatesNone :=
  createsNone_of_looks (nextActivity_uses input row)

/-- A stored row is returned as it was to be saved. -/
theorem updateRuntime_ends {patched saved : RuntimeEntity}
    (h : (Registry.updateRuntime patched).Ends t (.ok saved)) : saved = patched := by
  obtain ⟨r, t', -, hrest⟩ := Prog.ends_request.mp h
  cases r with
  | ok u =>
    obtain ⟨-, hx⟩ := Prog.ends_pure.mp hrest
    cases hx
    rfl
  | error e =>
    obtain ⟨-, hx⟩ := Prog.ends_throw.mp hrest
    cases hx

/-- The end of a launch: the health of the ports decides on the status. -/
theorem launch_ends (h : (launch cfg input name spec row).Ends t (.ok summary)) :
    Provisioned t summary := by
  unfold launch at h
  refine provisioned_after (createsNone_of_mild ((assignPorts_leases cfg row spec.ports).mono
    fun _ h => h.mild)) h fun t ports h => ?_
  obtain ⟨tvm, trest, _, rfl, hvm, hlaunched⟩ := Prog.Ends.of_bind h
  obtain ⟨created, rfl⟩ := createVm_ends hvm
  cases hprimary : firstPortBinding ports with
  | error e =>
    rw [hprimary] at hlaunched
    cases (Prog.ends_throw.mp hlaunched).2
  | ok primary =>
    rw [hprimary] at hlaunched
    obtain ⟨appHealthy, t₁, rfl, hwaited⟩ := Prog.ends_request.mp hlaunched
    obtain ⟨tssh, t₂, sshHealthy, rfl, hssh, hwaited⟩ := Prog.Ends.of_bind hwaited
    obtain ⟨tactivity, t₃, lastActiveAt, rfl, hactivity, hsaved⟩ := Prog.Ends.of_bind hwaited
    obtain ⟨tsave, t₄, saved, rfl, hsave, hreturned⟩ := Prog.Ends.of_bind hsaved
    obtain ⟨rfl, hx⟩ := Prog.ends_pure.mp hreturned
    cases hx
    obtain rfl := updateRuntime_ends hsave
    obtain ⟨hwaits, hwanted⟩ := sshHealth_ends hssh
    -- nothing after the creation creates another VM
    have hnone : ∀ e ∈ (⟨.waitForHealthy primary.hostPort, appHealthy⟩ : Σ op, requests.Reply op) ::
        (tssh ++ (tactivity ++ (tsave ++ []))), e.1.CreatesNone := by
      simp only [List.append_nil, List.forall_mem_cons, List.forall_mem_append]
      exact ⟨fun vm h => (nomatch h), hssh.uses (createsNone_of_looks (sshHealth_uses spec ports)),
        hactivity.uses nextActivity_createsNone,
        hsave.uses (createsNone_of_mild (Registry.updateRuntime_mild _))⟩
    refine .launched (createInput row spec ports) appHealthy sshHealthy
      ⟨created, List.mem_cons_self⟩ (List.forall_mem_cons.mpr ⟨fun vm h => ?_, fun e he vm h => ?_⟩)
      rfl ?_ (fun b hwants hb => ?_) hwanted rfl
    · exact (Request.createDetachedRuntime.inj h).symm
    · exact absurd h (hnone e he vm)
    · rw [primaryHostPort_provisionedRow hprimary]
      exact List.mem_cons_of_mem _ List.mem_cons_self
    · exact List.mem_cons_of_mem _ (List.mem_cons_of_mem _
        (List.mem_append_left _ (hwaits b hwants hb)))

/-- A sandbox is taken to be healthy when its primary port was probed once and accepted. -/
theorem existingHealthy_ends (h : (existingHealthy row).Ends t (.ok true)) :
    ⟨.isHealthy (primaryHostPort row), true⟩ ∈ t := by
  obtain ⟨status, t', rfl, hrest⟩ := Prog.ends_request.mp h
  split_ifs at hrest
  · obtain ⟨r, t'', rfl, hprobed⟩ := Prog.ends_await.mp hrest
    obtain ⟨rfl, hx⟩ := Prog.ends_pure.mp hprobed
    cases hx
    exact List.mem_cons_of_mem _ List.mem_cons_self
  · cases (Prog.ends_pure.mp hrest).2

/-- The row that is synced keeps its ports, and is running. -/
theorem syncExisting_ends (h : (syncExisting input name spec row).Ends t (.ok summary)) :
    summary.status = .running ∧ summary.primaryHostPort = primaryHostPort row ∧
      ∀ e ∈ t, e.1.CreatesNone := by
  obtain ⟨t₁, t₂, _, rfl, hfiles, hrest⟩ := Prog.Ends.of_bind h
  obtain ⟨t₃, t₄, lastActiveAt, rfl, hactivity, hrest⟩ := Prog.Ends.of_bind hrest
  obtain ⟨t₅, t₆, saved, rfl, hsave, hreturned⟩ := Prog.Ends.of_bind hrest
  obtain ⟨rfl, hx⟩ := Prog.ends_pure.mp hreturned
  cases hx
  obtain rfl := updateRuntime_ends hsave
  -- writing the files asks for no VM
  have hsyncFiles : (syncFiles spec row).Uses Request.CreatesNone := by
    unfold syncFiles
    split_ifs
    · exact Prog.Uses.bind (Prog.Uses.request fun vm h => nomatch h) fun _ => Prog.Uses.ofExcept _
    · exact (Prog.uses_pure ()).mpr trivial
  refine ⟨rfl, rfl, ?_⟩
  simp only [List.append_nil, List.forall_mem_append]
  exact ⟨hfiles.uses hsyncFiles, hactivity.uses nextActivity_createsNone,
    hsave.uses (createsNone_of_mild (Registry.updateRuntime_mild _))⟩

/-- Every way through `provision` that returns a summary. -/
theorem provision_ends (h : (provision cfg input).Ends t (.ok summary)) :
    Provisioned t summary := by
  unfold provision at h
  refine provisioned_after (Prog.Uses.ofExcept _) h fun t name h => ?_
  refine provisioned_after (createsNone_of_looks (checkName_uses name _)) h fun t _ h => ?_
  refine provisioned_after (createsNone_of_looks (Registry.findRuntimeBySandboxId_uses _)) h
    fun t found h => ?_
  refine provisioned_after (createsNone_of_looks (buildSpec_uses cfg _)) h fun t spec h => ?_
  refine provisioned_after (Prog.Uses.ofExcept _) h fun t primary h => ?_
  cases found with
  -- a new row: what comes before its launch asks for no VM
  | none =>
    have hbytes : (await .randomBytes).Uses Request.CreatesNone :=
      createsNone_of_mild (mild_await trivial)
    have hnow : (await .now).Uses Request.CreatesNone := createsNone_of_mild (mild_await trivial)
    refine provisioned_after hbytes h fun t authToken h => ?_
    refine provisioned_after (Prog.Uses.ofExcept _) h fun t vmName h => ?_
    refine provisioned_after hnow h fun t now h => ?_
    refine provisioned_after (createsNone_of_mild (Registry.saveRuntime_mild _)) h
      fun t row h => ?_
    exact provisioned_after (createsNone_of_mild ((leaseForNewRow_leases cfg row _).mono
      fun _ h => h.mild)) h fun t leased h => launch_ends h
  | some row =>
    dsimp only at h
    -- the row is replaced, or kept if it is healthy
    split_ifs at h
    · exact provisioned_after (createsNone_of_mild (Registry.updateRuntime_mild _)) h
        fun t replaced h => launch_ends h
    · obtain ⟨t₁, t₂, healthy, rfl, hhealthy, hrest⟩ := Prog.Ends.of_bind h
      have hnone := hhealthy.uses (createsNone_of_looks (existingHealthy_uses row))
      cases healthy with
      | true =>
        obtain ⟨hstatus, hport, hnone'⟩ := syncExisting_ends hrest
        refine .existing (List.forall_mem_append.mpr ⟨hnone, hnone'⟩) hstatus ?_
        rw [hport]
        exact List.mem_append_left _ (existingHealthy_ends hhealthy)
      | false => exact (launch_ends hrest).after hnone

/-- The calls that provision. -/
theorem call_ends {call : SandboxCall} (hcall : call.provisions = true)
    (h : (call.prog cfg).Ends t (.ok (.summary summary))) : Provisioned t summary := by
  -- the calls wrap the summary
  have hreturned : ∀ {p : Async Registry.RuntimeSummary},
      (p >>= fun r => (Prog.pure (Reply.summary r) : Async Reply)).Ends t (.ok (.summary summary)) →
        p.Ends t (.ok summary) := by
    intro p h
    obtain ⟨t₁, t₂, r, rfl, hp, hpure⟩ := Prog.Ends.of_bind h
    obtain ⟨rfl, hx⟩ := Prog.ends_pure.mp hpure
    cases hx
    rwa [List.append_nil]
  cases call with
  | create body =>
    refine provisioned_after (Prog.Uses.ofExcept _) (hreturned h) fun t name h => ?_
    refine provisioned_after (createsNone_of_looks (checkFreeName_uses name)) h fun t _ h => ?_
    exact provisioned_after (createsNone_of_looks (chooseSandboxId_uses name)) h
      fun t id h => provision_ends h
  | ensure body =>
    exact provisioned_after (createsNone_of_looks (chooseSandboxId_uses _)) (hreturned h)
      fun t id h => provision_ends h
  | update id body =>
    refine provisioned_after (createsNone_of_looks (Registry.findRuntimeBySandboxId_uses id))
      (hreturned h) fun t found h => ?_
    cases found with
    -- without a row the call throws
    | none => cases (Prog.ends_throw.mp h).2
    | some row => exact provision_ends h
  | _ => cases hcall

end Calls

/-! ## The waits, opened up

A call carried out with `probing` has a longer transcript, in which each wait is a stretch of
probes, sleeps and readings of the clock. What was shown of the calls is carried over to it. -/

/-- Carried out by itself, a request is all there is of its transcript. -/
theorem probing_ends {wait : RemovalConfig} {rounds : Nat} {op : Request} {r : op.Reply}
    {w : Transcript hostRequests} (h : (probing wait rounds op).Ends w (.ok r)) :
    (∃ port, op = .waitForHealthy port) ∨ w = [⟨.service op, r⟩] := by
  cases op with
  | waitForHealthy port => exact Or.inl ⟨port, rfl⟩
  | isHealthy port => exact Or.inr (isHealthy_ends h)
  | _ =>
    obtain ⟨r', w', rfl, hrest⟩ := Prog.ends_await.mp h
    obtain ⟨rfl, hx⟩ := Prog.ends_pure.mp hrest
    cases hx
    exact Or.inr rfl

/-- The request to the host creates no VM. -/
def HostRequest.CreatesNone (op : HostRequest) : Prop :=
  ∀ vm, op ≠ .service (.createDetachedRuntime vm)

/-- A wait creates no VM. -/
theorem probeLoop_uses (wait : RemovalConfig) (port deadline : Int) (rounds : Nat) :
    (probeLoop wait port deadline rounds).Uses HostRequest.CreatesNone := by
  induction rounds with
  | zero => exact (Prog.uses_throw _).mpr trivial
  | succ rounds ih =>
    have hprobe : (isHealthy port).Uses HostRequest.CreatesNone := by
      unfold isHealthy
      -- healthy, or another round if there is time
      split_ifs
      · exact Prog.Uses.request fun vm h => nomatch h
      · exact (Prog.uses_throw _).mpr trivial
    refine hprobe.bind fun healthy => ?_
    split_ifs
    · exact (Prog.uses_pure true).mpr trivial
    · refine (Prog.Uses.request fun vm h => nomatch h).bind fun _ => ?_
      refine (Prog.Uses.request fun vm h => nomatch h).bind fun now => ?_
      split_ifs
      · exact ih
      · exact (Prog.uses_pure false).mpr trivial

section Expand

variable {wait : RemovalConfig} {rounds : Nat} {t : Transcript requests}
  {u : Transcript hostRequests}

/-- A wait or a probe that succeeded is a connection in the longer transcript. -/
theorem connected_of_expands (h : Prog.Expands (probing wait rounds) t u) {port : Int}
    (he : ⟨.waitForHealthy port, true⟩ ∈ t ∨ ⟨.isHealthy port, true⟩ ∈ t) : Connected port u := by
  rcases he with he | he
  · obtain ⟨w, hpart, hends⟩ := h.stretch he
    exact (connected_of_probeRounds hends).widen hpart
  · obtain ⟨w, hpart, hends⟩ := h.stretch he
    rcases probing_ends hends with ⟨_, hop⟩ | rfl
    · cases hop
    · exact hpart.subset List.mem_cons_self

/-- A wait that failed is a whole wait in the longer transcript. -/
theorem timedOut_of_expands (h : Prog.Expands (probing wait rounds) t u) {port : Int}
    (he : ⟨.waitForHealthy port, false⟩ ∈ t) : TimedOut wait port u := by
  obtain ⟨w, hpart, hends⟩ := h.stretch he
  exact (timedOut_of_probeRounds hends).widen hpart

/-- The VMs that were created. -/
theorem created_of_expands (h : Prog.Expands (probing wait rounds) t u) {vm : CreateRuntimeInput} :
    (∃ r, ⟨.service (.createDetachedRuntime vm), r⟩ ∈ u) ↔
      ∃ r, ⟨.createDetachedRuntime vm, r⟩ ∈ t := by
  constructor
  · rintro ⟨r, hr⟩
    obtain ⟨⟨op, r'⟩, he, w, hends, hmem⟩ := h.source hr
    rcases probing_ends hends with ⟨port, rfl⟩ | rfl
    · have hnone : (probeRounds wait port rounds).Uses HostRequest.CreatesNone :=
        (Prog.Uses.request fun vm h => nomatch h).bind fun _ => probeLoop_uses _ _ _ _
      exact absurd rfl (hends.uses hnone _ hmem vm)
    · cases List.mem_singleton.mp hmem
      exact ⟨r', he⟩
  · rintro ⟨r, hr⟩
    obtain ⟨w, hpart, hends⟩ := h.stretch hr
    rcases probing_ends hends with ⟨_, hop⟩ | rfl
    · cases hop
    · exact ⟨r, hpart.subset List.mem_cons_self⟩

end Expand

/-- **What is reported of readiness.** Answered in any way, `create`, `ensure` and `update` report a
running sandbox only when they have connected to its primary port, and to its SSH port if they have
asked for a VM with SSH. They report an error only when they have asked for the VM, perhaps with an
error for an answer that is taken for transient, and one of the two ports did not accept in a whole
wait. -/
theorem provisioned_status_holds (cfg : AppConfig) (wait : RemovalConfig) (rounds : Nat)
    {call : SandboxCall} (hcall : call.provisions = true) {t : Transcript hostRequests}
    {summary : Registry.RuntimeSummary}
    (h : ((call.prog cfg).implement (probing wait rounds)).Ends t (.ok (.summary summary))) :
    (summary.status = .running ∧ Connected summary.primaryHostPort t ∧
      ∀ vm created binding, ⟨.service (.createDetachedRuntime vm), created⟩ ∈ t →
        vm.ssh = true → findSshBinding summary.portBindings = some binding →
          Connected binding.hostPort t) ∨
    (summary.status = .error ∧ ∃ vm created,
      ⟨.service (.createDetachedRuntime vm), created⟩ ∈ t ∧ vm.ports = summary.portBindings ∧
        (TimedOut wait summary.primaryHostPort t ∨
          vm.ssh = true ∧ ∃ binding, findSshBinding vm.ports = some binding ∧
            TimedOut wait binding.hostPort t)) := by
  obtain ⟨served, hends, hexpands⟩ := Prog.Ends.of_implement h
  cases call_ends hcall hends with
  -- no VM was created, so nothing is said of SSH
  | existing hnone hstatus hhealthy =>
    refine Or.inl ⟨hstatus, connected_of_expands hexpands (Or.inr hhealthy), ?_⟩
    intro vm created binding hcreated
    obtain ⟨r, hr⟩ := (created_of_expands hexpands).mp ⟨created, hcreated⟩
    exact absurd rfl (hnone _ hr vm)
  | launched vm appHealthy sshHealthy hcreated honly hports happ hssh hwanted hstatus =>
    obtain ⟨created, hmade⟩ := (created_of_expands hexpands).mpr hcreated
    cases appHealthy with
    -- the application did not accept in time
    | false =>
      exact Or.inr ⟨hstatus, vm, created, hmade, hports,
        Or.inl (timedOut_of_expands hexpands happ)⟩
    -- it did, so it is for SSH to decide
    | true =>
      cases sshHealthy with
      | false =>
        obtain ⟨hvm, binding, hbinding⟩ := hwanted rfl
        exact Or.inr ⟨hstatus, vm, created, hmade, hports, Or.inr ⟨hvm, binding, hbinding,
          timedOut_of_expands hexpands (hssh binding hvm hbinding)⟩⟩
      | true =>
        refine Or.inl ⟨hstatus, connected_of_expands hexpands (Or.inl happ), ?_⟩
        intro other created' binding hother hwants hbinding
        obtain ⟨r, hr⟩ := (created_of_expands hexpands).mp ⟨created', hother⟩
        obtain rfl : other = vm := honly _ hr other rfl
        exact connected_of_expands hexpands (Or.inl (hssh binding hwants (hports ▸ hbinding)))

/-- The call has answered with a sandbox in error. -/
def reportsError : Except ServiceError Reply → Bool
  | .ok (.summary summary) => summary.status == .error
  | _ => false

theorem of_reportsError {x : Except ServiceError Reply} (h : reportsError x = true) :
    ∃ summary, x = .ok (.summary summary) ∧ summary.status = .error := by
  unfold reportsError at h
  split at h
  · exact ⟨_, rfl, eq_of_beq h⟩
  · cases h

/-- Nothing accepts in a new sandbox, and the time for it is up after one probe. -/
theorem silent_sandbox_reported : ∃ t summary,
    (((SandboxCall.create { name := some "a" }).prog (smallConfig 31005)).implement
      (probing ⟨0, 500⟩ 1)).Ends t (.ok (.summary summary)) ∧ summary.status = .error ∧
      ∃ vm created, ⟨.service (.createDetachedRuntime vm), created⟩ ∈ t ∧
        vm.ports = summary.portBindings ∧
          (TimedOut ⟨0, 500⟩ summary.primaryHostPort t ∨
            vm.ssh = true ∧ ∃ binding, findSshBinding vm.ports = some binding ∧
              TimedOut ⟨0, 500⟩ binding.hostPort t) := by
  obtain ⟨tr, x, s, hexec, hfound⟩ := exists_exec_of_run (h := hostBackend)
    (p := ((SandboxCall.create { name := some "a" }).prog (smallConfig 31005)).implement
      (probing ⟨0, 500⟩ 1)) (s := ⟨World.fresh .empty, 0⟩)
    (List.replicate 40 { service := { healthy := false } })
    (fun _ x _ => reportsError x) (by decide +kernel)
  obtain ⟨t, hends⟩ := Prog.Ends.of_exec hexec
  obtain ⟨summary, rfl, herror⟩ := of_reportsError hfound
  -- the summary says `error`, so it is not the one of a sandbox that answered
  rcases provisioned_status_holds (smallConfig 31005) ⟨0, 500⟩ 1 rfl hends with
    ⟨hrunning, -⟩ | hreported
  · rw [herror] at hrunning
    cases hrunning
  · exact ⟨t, summary, hends, hreported⟩

/-! ## The end of a wait

The loop has no bound on its rounds but the clock. When sleeps last as long as they are asked to,
each round leaves less time, by the interval and by a millisecond at least. -/

/-- A sleep lasts as long as it was asked to. -/
def sleepsThrough (ev : Event hostRequests HostWorld HostAnswer) : Prop :=
  match ev.op with
  | .delay ms => ms ≤ ev.answer.elapsed + 1
  | _ => True

instance : DecidablePred sleepsThrough := fun ⟨_, op, a⟩ =>
  match op with
  | .delay ms => inferInstanceAs (Decidable (ms ≤ a.elapsed + 1))
  | .service _ | .getSandbox _ | .stopSandbox _ | .killSandbox _ | .removeSandbox _
  | .removeForced _ | .now => isTrue trivial

/-- How many times a port was probed. -/
def probes (tr : List (Event hostRequests HostWorld HostAnswer)) : Nat :=
  tr.countP fun ev => match ev.op with
    | .service (.isHealthy _) => true
    | _ => false

section Bound

variable {cfg : RemovalConfig} {port deadline : Int} {s s' : HostWorld}
  {tr : List (Event hostRequests HostWorld HostAnswer)} {x : Except ServiceError Bool}

theorem probes_round {e₁ e₂ e₃ : Event hostRequests HostWorld HostAnswer} {ms : Int}
    (h₁ : e₁.op = .service (.isHealthy port)) (h₂ : e₂.op = .delay ms) (h₃ : e₃.op = .now) :
    probes (e₁ :: e₂ :: e₃ :: tr) = probes tr + 1 := by
  simp [probes, h₁, h₂, h₃]

/-- Every round but the last leaves less time. Induction on the rounds left. -/
theorem probeLoop_bounded {rounds : Nat} (hport : IsPort port) (hfuel : 0 < rounds)
    (hclock : deadline - s.clock < rounds)
    (hexec : Exec hostBackend (probeLoop cfg port deadline rounds) s tr x s')
    (hsleeps : ∀ ev ∈ tr, sleepsThrough ev) :
    (∃ healthy, x = .ok healthy) ∧ (probes tr = 1 ∨
      (probes tr - 1) * max 1 cfg.runtimeReadyPollIntervalMs < deadline - s.clock) := by
  induction rounds generalizing s tr with
  | zero => omega
  | succ rounds ih =>
    unfold probeLoop isHealthy at hexec
    rw [if_pos hport] at hexec
    cases hexec with
    | @await _ _ probed _ _ _ _ _ _ hact hrest =>
    cases hact
    cases haccepted : probed.service.healthy with
    | true =>
      rw [haccepted] at hrest
      cases hrest
      exact ⟨⟨true, rfl⟩, Or.inl rfl⟩
    | false =>
      rw [haccepted] at hrest
      cases hrest with
      | @await _ _ slept _ _ _ _ _ _ hact hrest =>
      cases hact
      cases hrest with
      | @await _ _ read _ _ _ _ rest _ hact hrest =>
      cases hact
      have hsleep : cfg.runtimeReadyPollIntervalMs ≤ slept.elapsed + 1 :=
        hsleeps _ (List.mem_cons_of_mem _ List.mem_cons_self)
      have hrest : Exec hostBackend
          (if s.clock + ↑(slept.elapsed + 1) + read.elapsed < deadline then
            probeLoop cfg port deadline rounds else Prog.pure false) _ rest x s' := hrest
      split_ifs at hrest with hdeadline
      -- there is another round: it starts later by the sleep, which the remaining fuel covers
      · have hslept : max 1 cfg.runtimeReadyPollIntervalMs ≤ ↑(slept.elapsed + 1) := by
          push_cast
          omega
        have hleft : 0 < rounds := by
          push_cast at hdeadline hclock
          omega
        have hclock' : deadline - ((s.tick (slept.elapsed + 1)).tick read.elapsed).clock < rounds := by
          simp only [HostWorld.tick]
          push_cast at hclock ⊢
          omega
        obtain ⟨hreturns, hbound⟩ := ih hleft hclock' hrest fun ev hev =>
          hsleeps ev (List.mem_of_mem_drop (i := 3) hev)
        refine ⟨hreturns, Or.inr ?_⟩
        rw [probes_round rfl rfl rfl]
        simp only [HostWorld.tick] at hbound
        push_cast at hdeadline hslept hbound ⊢
        rw [Int.add_sub_cancel]
        rcases hbound with hone | hbound
        · rw [hone]
          omega
        · rw [Int.sub_mul, Int.one_mul] at hbound
          omega
      · cases hrest
        exact ⟨⟨false, rfl⟩, Or.inl rfl⟩

/-- **The wait comes to an end.** However the port answers, a wait for it returns, with an answer
and not with an error, once the sleeps last as long as they were asked to. It has probed once, or
less often than its intervals fit in its time. -/
theorem waitForHealthy_bounded (cfg : RemovalConfig) {port : Int} {s s' : HostWorld}
    {tr : List (Event hostRequests HostWorld HostAnswer)} {x : Except ServiceError Bool}
    (hport : IsPort port)
    (hexec : Exec hostBackend (waitForHealthy cfg port) s tr x s')
    (hsleeps : ∀ ev ∈ tr, sleepsThrough ev) :
    (∃ healthy, x = .ok healthy) ∧ (probes tr = 1 ∨
      (probes tr - 1) * max 1 cfg.runtimeReadyPollIntervalMs < cfg.runtimeReadyTimeoutMs) := by
  cases hexec with
  | @await _ _ a _ _ _ _ rest _ hact hrest =>
  cases hact
  -- every round takes a millisecond at least, so the fuel is more than the rounds there is time for
  have hfuel : (s.tick a.elapsed).clock + cfg.runtimeReadyTimeoutMs - (s.tick a.elapsed).clock <
      ↑(cfg.runtimeReadyTimeoutMs.toNat + 1) := by
    push_cast
    omega
  obtain ⟨hreturns, hbound⟩ := probeLoop_bounded hport (Nat.succ_pos _) hfuel hrest fun ev hev =>
    hsleeps ev (List.mem_cons_of_mem _ hev)
  have hprobes : probes (⟨s, .now, a⟩ :: rest) = probes rest := by simp [probes]
  rw [hprobes]
  exact ⟨hreturns, hbound.imp_right fun h => by omega⟩

end Bound

/-- Nothing accepts, and the second sleep ends after the deadline. -/
theorem waitForHealthy_probes_twice : ∃ tr s',
    Exec hostBackend (waitForHealthy ⟨1200, 500⟩ 31000) ⟨World.fresh .empty, 0⟩ tr (.ok false) s' ∧
      probes tr = 2 ∧ (probes tr = 1 ∨ ((probes tr : Int) - 1) * max 1 500 < 1200) := by
  obtain ⟨tr, x, s', hexec, hfound⟩ := exists_exec_of_run (h := hostBackend)
    (p := waitForHealthy ⟨1200, 500⟩ 31000) (s := ⟨World.fresh .empty, 0⟩)
    (List.replicate 12 { service := { healthy := false }, elapsed := 499 })
    (fun tr x _ => (match x with
      | .ok healthy => !healthy
      | .error _ => false) && decide (probes tr = 2 ∧ ∀ ev ∈ tr, sleepsThrough ev))
    (by decide +kernel)
  simp only [Bool.and_eq_true, decide_eq_true_eq] at hfound
  obtain ⟨hresult, hprobes, hsleeps⟩ := hfound
  match x, hresult with
  | .ok false, _ =>
    exact ⟨tr, s', hexec, hprobes,
      (waitForHealthy_bounded ⟨1200, 500⟩ (by decide) hexec hsleeps).2⟩

end Microsandbox
