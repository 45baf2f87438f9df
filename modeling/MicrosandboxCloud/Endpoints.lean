import MicrosandboxCloud.Launch
import MicrosandboxCloud.LiveVm
import MicrosandboxCloud.Sessions
import MicrosandboxCloud.Stored

/-!
# Microsandbox — which host port a container port is on

`provision` puts the ports of a spec on host ports by position, and SSH is found by name or number.

* **`PortsFollow`** — the container ports that a runtime keeps are on the host ports they were on.
* **`hostPorts_follow_iff`** — they are exactly when each of them keeps its position.
* **`SshEndpoint`** — the ports of a spec have one for the SSH daemon, and that is the one
  `provision` checks and a session leads to.
* **`ssh_endpoint_iff`** — so it is exactly when the first entry that passes for SSH is the daemon's.
-/

namespace Microsandbox

open Process Data Text RuntimeControl Registry

/-! ## Host ports by position

`provision` puts the ports of a spec on host ports by their place in the list. A client that has
kept a host port finds the same container port behind it as long as every pair of port and protocol
keeps its place. -/

/-- The bindings are for the same container port and protocol. -/
def SamePair (a b : RuntimePortBindingRecord) : Prop :=
  a.containerPort = b.containerPort ∧ a.protocol = b.protocol

instance : DecidableRel SamePair := fun a b =>
  inferInstanceAs (Decidable (a.containerPort = b.containerPort ∧ a.protocol = b.protocol))

/-- No pair is repeated. -/
abbrev PairsDistinct (ports : List RuntimePortBindingRecord) : Prop :=
  ports.Pairwise fun a b => ¬ SamePair a b

/-- Every pair of both lists keeps its host port, and only a new pair is on another than the host
ports that are kept. -/
structure PortsFollow (old new : List RuntimePortBindingRecord) : Prop where
  kept : ∀ o ∈ old, ∀ b ∈ new, SamePair o b → b.hostPort = o.hostPort
  fresh : ∀ b ∈ new, (∀ o ∈ old, (∃ b' ∈ new, SamePair o b') → b.hostPort ≠ o.hostPort) →
    ∀ o ∈ old, ¬ SamePair o b

theorem portsFollow_iff {old new : List RuntimePortBindingRecord} :
    PortsFollow old new ↔ ∀ o ∈ old, ∀ b ∈ new, SamePair o b → b.hostPort = o.hostPort := by
  refine ⟨PortsFollow.kept, fun hkept => ⟨hkept, fun b hb hother o ho hpair => ?_⟩⟩
  exact hother o ho ⟨b, hb, hpair⟩ (hkept o ho b hb hpair)

/-- The host ports that the ports of a spec are put on, in order: those of the row's bindings, and
then the free ones. -/
def nextHostPorts (cfg : AppConfig) (s : World) (row : RuntimeEntity) : List Int :=
  hostPorts row.portBindings ++ freePorts cfg s

/-- Every pair of the row that is among `ports` is at the position it was at, or that position has
the same host port all the same. -/
def PairsStay (cfg : AppConfig) (s : World) (row : RuntimeEntity)
    (ports : List RuntimePortBindingRecord) : Prop :=
  ∀ (i j : Nat) p o, ports[i]? = some p → row.portBindings[j]? = some o → SamePair o p →
    i = j ∨ (nextHostPorts cfg s row)[i]? = some o.hostPort

/-- `new` are the ports on the host ports `hosts`, by position. -/
structure PutOn (hosts : List Int) (ports new : List RuntimePortBindingRecord) : Prop where
  length : new.length = ports.length
  pair : ∀ (i : Nat) p b, ports[i]? = some p → new[i]? = some b → SamePair p b
  hostPort : ∀ (i : Nat) b, new[i]? = some b → hosts[i]? = some b.hostPort

section Positions

variable {cfg : AppConfig} {s : World} {row : RuntimeEntity}
  {ports new existing : List RuntimePortBindingRecord}

theorem SamePair.trans {a b c : RuntimePortBindingRecord} (h : SamePair a b) (h' : SamePair b c) :
    SamePair a c :=
  ⟨h.1.trans h'.1, h.2.trans h'.2⟩

theorem SamePair.symm {a b : RuntimePortBindingRecord} (h : SamePair a b) : SamePair b a :=
  ⟨h.1.symm, h.2.symm⟩

/-- A place that was bound keeps its host port. -/
theorem nextHostPorts_of_binding {j : Nat} {o : RuntimePortBindingRecord}
    (h : row.portBindings[j]? = some o) : (nextHostPorts cfg s row)[j]? = some o.hostPort := by
  have hlt : j < (hostPorts row.portBindings).length := by
    rw [hostPorts, List.length_map]
    exact (List.getElem?_eq_some_iff.mp h).1
  rw [nextHostPorts, List.getElem?_append_left hlt, hostPorts, List.getElem?_map, h]
  rfl

/-- Where the new bindings are the ports put on the next host ports, they follow exactly when the
pairs stay. -/
theorem PutOn.follow_iff (h : PutOn (nextHostPorts cfg s row) ports new) :
    PortsFollow row.portBindings new ↔ PairsStay cfg s row ports := by
  rw [portsFollow_iff]
  constructor
  -- a kept pair is on its host port, so the position gives that one
  · intro hkept i j p o hp ho hpair
    have hi : i < new.length := h.length ▸ (List.getElem?_eq_some_iff.mp hp).1
    obtain ⟨b, hb⟩ : ∃ b, new[i]? = some b := ⟨new[i], List.getElem?_eq_getElem hi⟩
    right
    rw [h.hostPort i b hb]
    exact congrArg some (hkept o (List.mem_of_getElem? ho) b (List.mem_of_getElem? hb)
      (hpair.trans (h.pair i p b hp hb)))
  -- the pair of a binding that was there is at some position of the new ports
  · intro hstay o ho b hb hpair
    obtain ⟨i, hi⟩ := List.getElem?_of_mem hb
    obtain ⟨j, hj⟩ := List.getElem?_of_mem ho
    have hlt : i < ports.length := h.length ▸ (List.getElem?_eq_some_iff.mp hi).1
    obtain ⟨p, hp⟩ : ∃ p, ports[i]? = some p := ⟨ports[i], List.getElem?_eq_getElem hlt⟩
    have hnext := h.hostPort i b hi
    rcases hstay i j p o hp hj (hpair.trans (h.pair i p b hp hi).symm) with rfl | hsame
    · rw [nextHostPorts_of_binding hj] at hnext
      exact (Option.some.inj hnext).symm
    · rw [hsame] at hnext
      exact (Option.some.inj hnext).symm

/-- What a launch assigns. Induction on the bindings the row has. -/
theorem assignHostPorts_getElem? {leased : List Int} {i : Nat} {b : RuntimePortBindingRecord}
    (henough : ports.length - existing.length ≤ leased.length)
    (hb : (assignHostPorts existing ports leased)[i]? = some b) :
    (hostPorts existing ++ leased)[i]? = some b.hostPort ∧
      ∀ p, ports[i]? = some p → SamePair p b := by
  induction existing generalizing ports i with
  | nil =>
    -- no bindings are left: the remaining ports go on the leased ones in order
    change (setHostPorts ports leased)[i]? = some b at hb
    change leased[i]? = some b.hostPort ∧ _
    induction ports generalizing leased i with
    | nil =>
      cases leased <;> simp [setHostPorts] at hb
    | cons port ports ih =>
      cases leased with
      | nil => simp at henough
      | cons hostPort leased =>
        cases i with
        | zero =>
          cases hb
          refine ⟨rfl, fun p hp => ?_⟩
          cases hp
          exact ⟨rfl, rfl⟩
        | succ i => exact ih (by simpa using henough) hb
  | cons binding existing ih =>
    cases ports with
    | nil => simp [assignHostPorts] at hb
    | cons port ports =>
      cases i with
      | zero =>
        cases hb
        refine ⟨rfl, fun p hp => ?_⟩
        cases hp
        exact ⟨rfl, rfl⟩
      | succ i => exact ih (by simpa using henough) hb

/-- A launch puts the spec on the host ports by position, whichever branch it takes. -/
theorem RuntimeControl.PortsAssigned.putOn {spec : RuntimeSpec} {s₁ : World}
    (h : PortsAssigned cfg s row spec new s₁) : PutOn (nextHostPorts cfg s row) spec.ports new := by
  have henough := h.enough
  have hlength : spec.ports.length - row.portBindings.length ≤
      ((freePorts cfg s).take (spec.ports.length - row.portBindings.length)).length := by
    rw [List.length_take]
    omega
  refine ⟨h.length, fun i p b hp hb => ?_, fun i b hb => ?_⟩
  · rw [h.ports_eq] at hb
    exact (assignHostPorts_getElem? hlength hb).2 p hp
  · rw [h.ports_eq] at hb
    have hnext := (assignHostPorts_getElem? hlength hb).1
    -- only as many ports are leased as the bindings fall short
    have hprefix : hostPorts row.portBindings ++
        (freePorts cfg s).take (spec.ports.length - row.portBindings.length) <+:
          nextHostPorts cfg s row :=
      (List.prefix_append_right_inj _).mpr (List.take_prefix _ _)
    obtain ⟨rest, hrest⟩ := hprefix
    rw [← hrest, List.getElem?_append_left (List.getElem?_eq_some_iff.mp hnext).1]
    exact hnext

/-- A row that is left as it is has its bindings where the spec's ports would be put. -/
theorem RuntimeControl.Unchanged.putOn {spec : RuntimeSpec} {name : Option String}
    (h : Unchanged row spec name) :
    PutOn (nextHostPorts cfg s row) spec.ports row.portBindings := by
  refine ⟨h.ports_length, fun i p b hp hb => ?_, fun i b hb => nextHostPorts_of_binding hb⟩
  obtain ⟨hport, rfl⟩ := List.getElem?_eq_some_iff.mp hp
  obtain ⟨hlt, rfl⟩ := List.getElem?_eq_some_iff.mp hb
  have hsame := h.ports.get hlt (h.ports.length_eq ▸ hlt)
  constructor
  · simpa [onRowPorts] using hsame.containerPort.symm
  · simpa [onRowPorts] using hsame.protocol.symm

theorem PairsDistinct.index_eq (h : PairsDistinct ports) {i j : Nat}
    {p q : RuntimePortBindingRecord} (hp : ports[i]? = some p) (hq : ports[j]? = some q)
    (hpair : SamePair p q) : i = j := by
  obtain ⟨hi, rfl⟩ := List.getElem?_eq_some_iff.mp hp
  obtain ⟨hj, rfl⟩ := List.getElem?_eq_some_iff.mp hq
  rcases Nat.lt_trichotomy i j with hlt | heq | hlt
  · exact absurd hpair (List.pairwise_iff_getElem.mp h i j hi hj hlt)
  · exact heq
  · exact absurd hpair.symm (List.pairwise_iff_getElem.mp h j i hj hi hlt)

/-- The same pairs in the same order stay where they are. -/
theorem pairsStay_of_same (hsame : List.Forall₂ SamePair ports row.portBindings)
    (hdistinct : PairsDistinct ports) : PairsStay cfg s row ports := by
  intro i j p o hp ho hpair
  obtain ⟨hj, rfl⟩ := List.getElem?_eq_some_iff.mp ho
  have hport : j < ports.length := by
    rw [hsame.length_eq]
    exact hj
  left
  exact hdistinct.index_eq hp (List.getElem?_eq_getElem hport)
    (hpair.symm.trans (hsame.get hport hj).symm)

end Positions

section Reprovision

variable {cfg : AppConfig} {tr : List (Event requests World Answer)} {s s' : World}
  {input : ProvisionInput} {row : RuntimeEntity}

/-- The host ports depend on the stored bindings and the leases only. -/
theorem nextHostPorts_congr {s₁ : World} {row₁ : RuntimeEntity}
    (hleases : s₁.portLeases = s.portLeases) (hbindings : row₁.portBindings = row.portBindings) :
    nextHostPorts cfg s₁ row₁ = nextHostPorts cfg s row := by
  rw [nextHostPorts, nextHostPorts, hbindings, freePorts_congr cfg hleases]

/-- A provisioning call that returns leaves a runtime with the ports of the spec on the next host
ports. -/
theorem RuntimeControl.ProvisionOutcome.putOn {x : Except ServiceError RuntimeSummary}
    (h : ProvisionOutcome cfg (· ∈ tr) input s x s') (hrow : row ∈ s.runtimes)
    (hid : row.sandboxId = input.sandboxId) {summary : RuntimeSummary} (hx : x = .ok summary) :
    ∃ row' ∈ s'.runtimes, row'.id = row.id ∧
      PutOn (nextHostPorts cfg s row) (specPorts cfg input.toSandboxSpecDto) row'.portBindings := by
  cases h with
  | refused hwhy => cases hx
  | rolledBack hplan hnew hfew hleases hruntimes hvms => cases hx
  | @existing name spec row₀ lastActiveAt s' hplan hrow₀ hid₀ hforce hkeep hlive hsave =>
    obtain rfl : row₀ = row := World.eq_of_sandboxId hrow₀ hrow (hid₀.trans hid.symm)
    refine ⟨_, (World.mem_saveRuntime hsave).mpr (Or.inl rfl), rfl, ?_⟩
    rw [← hplan.ports_eq]
    exact (requiresRecreate_eq_false hkeep).putOn
  | @launched name spec row₁ s₁ s' x hplan hstart houtcome =>
    -- what a replacement saves before the launch leaves the bindings and the leases as they are
    have hstarted : row₁.id = row.id ∧ nextHostPorts cfg s₁ row₁ = nextHostPorts cfg s row := by
      cases hstart with
      | unhealthy hrow₁ hid₁ hkeep =>
        obtain rfl : row₁ = row := World.eq_of_sandboxId hrow₁ hrow (hid₁.trans hid.symm)
        exact ⟨rfl, rfl⟩
      | @replaced row₀ s₁ hrow₀ hid₀ hreplace hsave =>
        obtain rfl : row₀ = row := World.eq_of_sandboxId hrow₀ hrow (hid₀.trans hid.symm)
        exact ⟨rfl, nextHostPorts_congr (World.saveRuntime_spec hsave).2.1 rfl⟩
      | new hnew hvm hinsert hsafe henough hleased => exact absurd hid (hnew row hrow)
    cases houtcome with
    | outOfPorts hfew hleases hruntimes hvms => cases hx
    | createFailed hports hfailure hhard hsafe => cases hx
    | provisioned hports hsafe hprimary hsave =>
      refine ⟨_, (World.mem_saveRuntime hsave).mpr (Or.inl rfl), hstarted.1, ?_⟩
      rw [← hstarted.2, ← hplan.ports_eq]
      exact hports.putOn

/-- **Host ports follow container ports.** After a provisioning call that returns, the container
ports that the runtime keeps are on the host ports they were on exactly when each keeps its
position. -/
theorem hostPorts_follow_iff (cfg : AppConfig) {c : SandboxCall} {reply : Reply}
    (hrequest : c.request s (drawnText tr) = some input) (hrow : row ∈ s.runtimes)
    (hid : row.sandboxId = input.sandboxId)
    (hexec : Exec backend (c.prog cfg) s tr (.ok reply) s') :
    (∃ row' ∈ s'.runtimes, row'.id = row.id ∧ PortsFollow row.portBindings row'.portBindings) ↔
      PairsStay cfg s row (specPorts cfg input.toSandboxSpecDto) := by
  generalize hx : (Except.ok reply : Except ServiceError Reply) = x at hexec
  cases call_outcome hexec with
  | refused hnone => simp [hnone] at hrequest
  | touched hrow hsave hruntimes hleases hvms hcall =>
    simp [SandboxCall.request_eq_none hcall] at hrequest
  | deleted hrow hcall hruntimes hleases hvms hremoved =>
    obtain ⟨value, v, rfl, -⟩ := hcall
    simp [SandboxCall.request] at hrequest
  | @provisioned input' x s' hrequest' hnormal houtcome =>
    obtain rfl : input = input' := Option.some.inj (hrequest.symm.trans hrequest')
    cases x with
    | error e => cases hx
    | ok summary =>
      -- the row that the call saved last
      obtain ⟨row', hrow', hsame, hput⟩ := houtcome.putOn hrow hid rfl
      rw [← hput.follow_iff]
      constructor
      -- one row has the id of the runtime
      · rintro ⟨row'', hrow'', hsame', hfollow⟩
        rwa [World.eq_of_id hrow' hrow'' (hsame.trans hsame'.symm)]
      · exact fun hfollow => ⟨row', hrow', hsame, hfollow⟩

end Reprovision

/-- Evaluating the call from `s`, whose only row it asks for, returns having created a VM, and `q`
holds of that row, the request and the state it leaves. -/
def reprovisions (cfg : AppConfig) (c : SandboxCall)
    (q : RuntimeEntity → ProvisionInput → World → Bool) (s : World) : Bool :=
  (run backend (c.prog cfg) [] s).any fun r =>
    match r.2.1, c.request s (drawnText r.1), s.runtimes.rows with
    | .ok _, some input, [row] =>
      row.sandboxId == input.sandboxId && createsVm r.1 && q row input r.2.2
    | _, _, _ => false

/-- What evaluation finds is a run of the call. -/
theorem exists_of_reprovisions {cfg : AppConfig} {c : SandboxCall}
    {q : RuntimeEntity → ProvisionInput → World → Bool} {s : World}
    (h : reprovisions cfg c q s = true) : ∃ tr input reply row s',
      c.request s (drawnText tr) = some input ∧ row ∈ s.runtimes ∧
      row.sandboxId = input.sandboxId ∧ createsVm tr = true ∧
      Exec backend (c.prog cfg) s tr (.ok reply) s' ∧ q row input s' = true := by
  obtain ⟨⟨tr, x, s'⟩, hrun, hq⟩ := (Option.any_eq_true _ _).mp h
  dsimp only at hq
  split at hq
  · rename_i reply input row hrequest hrows
    rw [Bool.and_eq_true, Bool.and_eq_true, beq_iff_eq] at hq
    have hrow : row ∈ s.runtimes := by
      show row ∈ s.runtimes.rows
      rw [hrows]
      exact List.mem_singleton_self row
    exact ⟨tr, input, reply, row, s', hrequest, hrow, hq.1.1, hq.1.2, exec_of_run hrun, hq.2⟩
  · cases hq

/-- The sandbox `a` is asked for with another image: its two ports stay where they are. -/
theorem hostPorts_follow_image : ∃ (row : RuntimeEntity) (s' : World), row.portBindings.length = 2 ∧
    ∃ row' ∈ s'.runtimes, row'.id = row.id ∧ PortsFollow row.portBindings row'.portBindings := by
  let cfg : AppConfig := smallConfig 31005
  let again : SandboxCall :=
    .ensure { sandboxId := some "a", name := some "a", image := some "other:latest" }
  obtain ⟨s, -, hp⟩ := exists_reachable cfg .empty [(.create { name := some "a" }, [])]
    (reprovisions cfg again fun row input _ => row.portBindings.length == 2 &&
      decide (PairsDistinct (specPorts cfg input.toSandboxSpecDto)) &&
      decide (List.Forall₂ SamePair (specPorts cfg input.toSandboxSpecDto) row.portBindings))
    (by decide +kernel)
  obtain ⟨tr, input, reply, row, s', hrequest, hrow, hid, -, hexec, hq⟩ := exists_of_reprovisions hp
  rw [Bool.and_eq_true, Bool.and_eq_true, beq_iff_eq, decide_eq_true_eq, decide_eq_true_eq] at hq
  obtain ⟨⟨hlength, hdistinct⟩, hsame⟩ := hq
  exact ⟨row, s', hlength, (hostPorts_follow_iff cfg hrequest hrow hid hexec).mpr
    (pairsStay_of_same hsame hdistinct)⟩

/-- Some pair of the row is on another host port in the state left. -/
def movesPort (row : RuntimeEntity) (s' : World) : Bool :=
  s'.runtimes.rows.all fun r => r.id != row.id ||
    row.portBindings.any fun o =>
      r.portBindings.any fun b => decide (SamePair o b) && b.hostPort != o.hostPort

/-- A pair that evaluation finds on another host port has moved. -/
theorem not_portsFollow_of_movesPort {row row' : RuntimeEntity} {s' : World}
    (h : movesPort row s' = true) (hrow' : row' ∈ s'.runtimes) (hid : row'.id = row.id) :
    ¬ PortsFollow row.portBindings row'.portBindings := by
  intro hfollow
  have hmoved := List.all_eq_true.mp h row' hrow'
  rw [hid] at hmoved
  simp only [bne_self_eq_false, Bool.false_or, List.any_eq_true, Bool.and_eq_true,
    decide_eq_true_eq, bne_iff_ne] at hmoved
  obtain ⟨o, ho, b, hb, hpair, hne⟩ := hmoved
  exact hne (hfollow.kept o ho b hb hpair)

/-- The sandbox `a` with port 8080 gets port 9090 in front of it: 8080 is now on the host port
that led to SSH. -/
theorem new_port_shifts_the_others :
    ¬ ∀ (cfg : AppConfig) (volumes : Table VolumeEntity volumeKeys) (s : World),
      Reachable cfg anyCall volumes s → ∀ (c : SandboxCall)
        (tr : List (Event requests World Answer)) (input : ProvisionInput) (reply : Reply)
        (row : RuntimeEntity) (s' : World), row ∈ s.runtimes → row.portBindings ≠ [] →
        PairsDistinct row.portBindings → c.request s (drawnText tr) = some input →
        row.sandboxId = input.sandboxId →
        PairsDistinct (specPorts cfg input.toSandboxSpecDto) → createsVm tr = true →
        Exec backend (c.prog cfg) s tr (.ok reply) s' →
        ∃ row' ∈ s'.runtimes, row'.id = row.id ∧
          PortsFollow row.portBindings row'.portBindings := by
  intro hclaim
  let cfg : AppConfig := smallConfig 31005
  let again : SandboxCall := .update "a"
    { ports := some [{ containerPort := 9090 }, { containerPort := 8080 }] }
  obtain ⟨s, hreach, hp⟩ := exists_reachable cfg .empty [(.create { name := some "a" }, [])]
    (reprovisions cfg again fun row input s' => !row.portBindings.isEmpty &&
      decide (PairsDistinct row.portBindings) &&
      decide (PairsDistinct (specPorts cfg input.toSandboxSpecDto)) && movesPort row s')
    (by decide +kernel)
  obtain ⟨tr, input, reply, row, s', hrequest, hrow, hid, hvm, hexec, hq⟩ :=
    exists_of_reprovisions hp
  rw [Bool.and_eq_true, Bool.and_eq_true, Bool.and_eq_true, decide_eq_true_eq, decide_eq_true_eq,
    Bool.not_eq_true', List.isEmpty_eq_false_iff] at hq
  obtain ⟨⟨⟨hbound, hold⟩, hnew⟩, hmoves⟩ := hq
  obtain ⟨row', hrow', hsame, hfollow⟩ := hclaim cfg .empty s hreach again tr input reply row s'
    hrow hbound hold hrequest hid hnew hvm hexec
  exact not_portsFollow_of_movesPort hmoves hrow' hsame hfollow

/-! ## The port of the SSH daemon

The daemon listens on port 22 of the VM. `createSession` goes by the first binding with the name
`ssh` or the number 22, so that it finds the daemon exactly when this is the daemon's. -/

/-- The port that the launch script gives to `inject-sshd`. -/
def OnDaemon (p : RuntimePortBindingRecord) : Prop :=
  p.containerPort = MicrosandboxAdapter.sshdPort ∧ p.protocol = .tcp

/-- The binding is for the port of a spec, on whatever host port. -/
structure BindsPort (port binding : RuntimePortBindingRecord) : Prop where
  name : binding.name = port.name
  containerPort : binding.containerPort = port.containerPort
  protocol : binding.protocol = port.protocol

/-- The entries that the ports of a spec come from. -/
def portEntries (cfg : AppConfig) (input : SandboxSpecDto) : List RuntimePortDto :=
  if (input.ports.getD []).isEmpty then [defaultPort cfg input.primaryPort]
  else input.ports.getD []

/-- Does the entry pass for the one of SSH? -/
def passesForSsh (entry : RuntimePortDto) : Bool :=
  trimmed entry.name == some "ssh" || entry.containerPort == 22

/-- The first entry that passes for SSH, if there is one, is the daemon's. -/
def FirstIsDaemon (cfg : AppConfig) (input : SandboxSpecDto) : Prop :=
  ∀ entry, (portEntries cfg input).find? passesForSsh = some entry →
    entry.containerPort = 22 ∧ entry.protocol ≠ some .udp

/-- The spec of the request has a port for the SSH daemon, and wherever its ports are bound, that is
the one `provision` checks and a session leads to. -/
structure SshEndpoint (cfg : AppConfig) (input : SandboxSpecDto) : Prop where
  bound : ∀ records inputs, ∃ p ∈ (specOf cfg input records inputs).ports, OnDaemon p
  checked : ∀ records inputs ports, List.Forall₂ BindsPort (specPorts cfg input) ports →
    ∃ b ∈ ports, OnDaemon b ∧ findSshBinding ports = some b ∧
      sshHealth (specOf cfg input records inputs) ports = await (.waitForHealthy b.hostPort)
  session : ∀ {s s' : World} {row : RuntimeEntity} {body : SshController.CreateSessionBody}
    {tr : List (Event requests World Answer)} {x : Except ServiceError SshCallReply}
    {random : String}, row ∈ s.runtimes →
    List.Forall₂ BindsPort (specPorts cfg input) row.portBindings →
    normalizeSandboxId body.sandboxId = .ok row.sandboxId →
    Exec backend ((SshCall.createSession body).prog cfg) s tr x s' →
    sessionDrawn tr = some random →
    ∃ b ∈ row.portBindings, OnDaemon b ∧ ∃ expiresAt,
      s'.sessions (cfg.sha256 random) = some ⟨body.sandboxId, b.hostPort, expiresAt⟩

/-- The row that a provisioning run leaves binds the ports of its request. -/
theorem RuntimeControl.ProvisionOutcome.bindsPorts {cfg : AppConfig}
    {safe : Event requests World Answer → Prop} {input : ProvisionInput} {s s' : World}
    {summary : RuntimeSummary} (h : ProvisionOutcome cfg safe input s (.ok summary) s') :
    ∃ row ∈ s'.runtimes, summary = runtimeStatusSummary row ∧ row.sandboxId = input.sandboxId ∧
      List.Forall₂ BindsPort (specPorts cfg input.toSandboxSpecDto) row.portBindings := by
  obtain ⟨name, spec, row, hplan, hrow, hsummary, hid, hkeep⟩ := h.stored
  have hsame := requiresRecreate_eq_false hkeep
  refine ⟨row, hrow, hsummary, hid, ?_⟩
  rw [← hplan.ports_eq]
  refine List.forall₂_iff_get.mpr ⟨hsame.ports_length.symm, fun i hi hi' => ?_⟩
  have hport := hsame.ports.get hi' (hsame.ports.length_eq ▸ hi')
  constructor
  · simpa [onRowPorts] using hport.name
  · simpa [onRowPorts] using hport.containerPort
  · simpa [onRowPorts] using hport.protocol

section Ssh

variable {cfg : AppConfig} {input : SandboxSpecDto} {ports bindings : List RuntimePortBindingRecord}

theorem BindsPort.refl (p : RuntimePortBindingRecord) : BindsPort p p := ⟨rfl, rfl, rfl⟩

/-- Binding changes the host port only, so the daemon stays where it was. -/
theorem BindsPort.onDaemon {p b : RuntimePortBindingRecord} (h : BindsPort p b)
    (hp : OnDaemon p) : OnDaemon b :=
  ⟨h.containerPort.trans hp.1, h.protocol.trans hp.2⟩

/-- And so does what counts as a binding for SSH. -/
theorem BindsPort.isSsh_eq {p b : RuntimePortBindingRecord} (h : BindsPort p b) :
    isSsh b = isSsh p := by
  rw [isSsh, isSsh, h.name, h.containerPort]

/-- Wherever the ports are bound, SSH is the binding of the port that SSH is among them. -/
theorem findSshBinding_bindings (h : List.Forall₂ BindsPort ports bindings)
    {p : RuntimePortBindingRecord} (hp : findSshBinding ports = some p) :
    ∃ b ∈ bindings, findSshBinding bindings = some b ∧ BindsPort p b := by
  rw [findSshBinding_eq] at hp
  induction h with
  | nil => cases hp
  | @cons port binding ports bindings hport hrest ih =>
    rw [List.find?_cons] at hp
    -- a binding is for SSH exactly if its port is, so both searches stop at the same place
    cases hssh : isSsh port with
    | true =>
      rw [hssh] at hp
      cases hp
      refine ⟨binding, List.mem_cons_self, ?_, hport⟩
      rw [findSshBinding_eq, List.find?_cons, hport.isSsh_eq, hssh]
    | false =>
      rw [hssh] at hp
      obtain ⟨b, hb, hfind, hbinds⟩ := ih hp
      refine ⟨b, List.mem_cons_of_mem _ hb, ?_, hbinds⟩
      rw [findSshBinding_eq, List.find?_cons, hport.isSsh_eq, hssh]
      exact hfind

/-- The port of a spec that an entry becomes. -/
def entryPort (entry : RuntimePortDto) : RuntimePortBindingRecord where
  name := trimmed entry.name
  containerPort := entry.containerPort
  hostPort := 0
  protocol := entry.protocol.getD .tcp

/-- The ports of a request are its own, or the primary one. -/
theorem resolvePorts_eq (cfg : AppConfig) (input : SandboxSpecDto) :
    resolvePorts cfg input.ports input.primaryPort = (portEntries cfg input).map entryPort := rfl

/-- With SSH enabled, a spec's SSH port is its first entry that passes for SSH, or the one that
`buildSpec` adds. -/
theorem findSshBinding_specPorts (cfg : AppConfig) (hssh : sshEnabled input = true) :
    findSshBinding (specPorts cfg input) =
      some ((((portEntries cfg input).find? passesForSsh).map entryPort).getD sshPort) := by
  have hfind : ((portEntries cfg input).map entryPort).find? isSsh =
      ((portEntries cfg input).find? passesForSsh).map entryPort := by
    rw [List.find?_map]
    rfl
  have hzero : ∀ ports : List RuntimePortBindingRecord,
      (ports.map fun port => { port with hostPort := 0 }).find? isSsh =
        (ports.find? isSsh).map fun port => { port with hostPort := 0 } := by
    intro ports
    rw [List.find?_map]
    rfl
  rw [findSshBinding_eq, specPorts, resolvePorts_eq, hssh, Bool.true_and, hzero]
  cases hentry : (portEntries cfg input).find? passesForSsh with
  | some entry =>
    rw [hentry, Option.map_some] at hfind
    have hadded : (((portEntries cfg input).map entryPort) ++ [sshPort]).find? isSsh =
        some (entryPort entry) := by
      rw [List.find?_append, hfind]
      rfl
    split_ifs
    · rw [hadded]
      rfl
    · rw [hfind]
      rfl
  | none =>
    -- no entry is on port 22, so the port of SSH is added
    have hnone : ((portEntries cfg input).map entryPort).any (fun p => p.containerPort == 22) =
        false := by
      rw [List.any_eq_false]
      intro p hp
      obtain ⟨entry, hmem, rfl⟩ := List.mem_map.mp hp
      have hpass := List.find?_eq_none.mp hentry entry hmem
      rw [passesForSsh, Bool.or_eq_true, not_or] at hpass
      exact hpass.2
    rw [hentry, Option.map_none] at hfind
    rw [hnone, if_pos (by rfl), List.find?_append, hfind]
    rfl

/-- A port of a request is the daemon's when it has the number 22 and is not `udp`. -/
theorem onDaemon_entryPort {entry : RuntimePortDto} : OnDaemon (entryPort entry) ↔
    entry.containerPort = 22 ∧ entry.protocol ≠ some .udp := by
  refine and_congr_right fun _ => ?_
  show entry.protocol.getD .tcp = .tcp ↔ _
  cases hprotocol : entry.protocol with
  | none => simp
  | some protocol => cases protocol <;> simp

/-- **SSH endpoint.** With SSH enabled, the spec of a request has a port for the daemon, and that
port is checked and put into sessions, exactly when the first entry that passes for SSH is the
daemon's. -/
theorem ssh_endpoint_iff (cfg : AppConfig) {input : SandboxSpecDto}
    (hssh : sshEnabled input = true) : SshEndpoint cfg input ↔ FirstIsDaemon cfg input := by
  have hfound := findSshBinding_specPorts cfg hssh
  constructor
  · intro hendpoint entry hentry
    obtain ⟨b, hb, hdaemon, hfind, -⟩ := hendpoint.checked [] [] (specPorts cfg input)
      (List.forall₂_same.mpr fun p _ => BindsPort.refl p)
    rw [hfound, hentry] at hfind
    cases hfind
    exact onDaemon_entryPort.mp hdaemon
  · intro hfirst
    obtain ⟨p, hp, hdaemon⟩ : ∃ p, findSshBinding (specPorts cfg input) = some p ∧ OnDaemon p := by
      refine ⟨_, hfound, ?_⟩
      cases hentry : (portEntries cfg input).find? passesForSsh with
      | none => exact ⟨rfl, rfl⟩
      | some entry => exact onDaemon_entryPort.mpr (hfirst entry hentry)
    -- bindings of the ports pass for SSH as the ports do, whatever host ports they are on
    refine ⟨fun records inputs => ⟨p, List.mem_of_find?_eq_some hp, hdaemon⟩, ?_, ?_⟩
    · intro records inputs ports hports
      obtain ⟨b, hb, hfind, hbinds⟩ := findSshBinding_bindings hports hp
      refine ⟨b, hb, hbinds.onDaemon hdaemon, hfind, ?_⟩
      have henabled : (specOf cfg input records inputs).ssh = true := hssh
      rw [sshHealth, henabled, if_pos (by rfl), hfind]
    · intro s s' row body tr x random hrow hports hid hexec hdrawn
      obtain ⟨b, hb, hfind, hbinds⟩ := findSshBinding_bindings hports hp
      refine ⟨b, hb, hbinds.onDaemon hdaemon, ?_⟩
      rcases createSession_outcome hexec with ⟨-, hnone⟩ |
        ⟨row', hrow', binding, random', now, expiresAt, hid', hbinding, hdrawn', rfl⟩
      · rw [hnone] at hdrawn
        cases hdrawn
      · have hsame : row'.sandboxId = row.sandboxId := Except.ok.inj (hid'.symm.trans hid)
        obtain rfl : row' = row := World.eq_of_sandboxId hrow' hrow hsame
        rw [hbinding] at hfind
        cases hfind
        cases Option.some.inj (hdrawn'.symm.trans hdrawn)
        exact ⟨expiresAt, Function.update_self _ _ _⟩

end Ssh

/-- A request that says nothing gets the daemon's port. -/
theorem ssh_endpoint_default : SshEndpoint (smallConfig 31005) {} := by
  apply (ssh_endpoint_iff (smallConfig 31005) (by rfl)).mpr
  intro entry hentry
  have hnone : (portEntries (smallConfig 31005) {}).find? passesForSsh = none := by
    decide +kernel
  rw [hnone] at hentry
  cases hentry

/-- Port 22 over udp keeps the port of SSH from being added. -/
theorem udp_port_displaces_ssh : ¬ ∀ (cfg : AppConfig) (input : SandboxSpecDto),
    sshEnabled input = true → SshEndpoint cfg input := by
  intro hclaim
  let input : SandboxSpecDto :=
    { ports := some [{ containerPort := 8080 }, { containerPort := 22, protocol := some .udp }] }
  obtain ⟨p, hp, hport, hprotocol⟩ := (hclaim (smallConfig 31005) input (by rfl)).bound [] []
  have hudp : ∀ p ∈ specPorts (smallConfig 31005) input,
      p.containerPort = 22 → p.protocol ≠ .tcp := by
    decide +kernel
  exact hudp p hp hport hprotocol

end Microsandbox
