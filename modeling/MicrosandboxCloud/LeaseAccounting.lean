import Mathlib.Data.List.Nodup
import Mathlib.Data.List.Perm.Subperm
import MicrosandboxCloud.Calls

/-!
# Microsandbox — port leases held against port bindings stored

The leases of a runtime should be its bindings, no more and no less.

* **`LeasesMatch`** — the ports leased to a runtime are the host ports of its stored bindings.
* **`LeaseRun`** — runs that carry, as a ghost, how many ports the latest request for each
  runtime asked for.
* **`LeaseSafe`** — the requests after which the accounts are right. A request that makes a new
  runtime leases its ports twice, so it is right only when the second round fails; a request for
  a stored runtime neither shrinks it nor finds leases of an earlier, failed one.
* **`leases_accounted`** — in runs of such requests the leases match after each provisioning call
  that returns, and no runtime ever holds more leases than ports were last asked for.
-/

namespace Microsandbox

open Process Data RuntimeControl Registry

/-! ## Accounts

Two accounts of the ports of a runtime: the leases in the table, and the host ports in the bindings
of its row. The claim is that after every call they are the same, and never more than what was last
asked for. -/

/-- The ports leased to a runtime. -/
def leasedPorts (s : World) (id : RuntimeId) : List Int :=
  (s.portLeases.rows.filter fun l => l.runtimeId == id).map (·.port)

/-- How many leases a runtime holds. -/
def held (s : World) (id : RuntimeId) : Nat := (leasedPorts s id).length

/-- The host ports of some bindings. -/
def hostPorts (bindings : List RuntimePortBindingRecord) : List Int := bindings.map (·.hostPort)

/-- The ports leased to the runtime are the host ports of its stored bindings. -/
def LeasesMatch (s : World) (row : RuntimeEntity) : Prop :=
  ∀ port, port ∈ leasedPorts s row.id ↔ port ∈ hostPorts row.portBindings

/-- The ports leased to the runtime are the host ports of its first `count` bindings. -/
def FirstLeased (s : World) (row : RuntimeEntity) (count : Nat) : Prop :=
  ∀ port, port ∈ leasedPorts s row.id ↔ port ∈ hostPorts (row.portBindings.take count)

/-- No runtime holds more leases than `latest` says. -/
def NeverMore (s : World) (latest : RuntimeId → Nat) : Prop :=
  ∀ row ∈ s.runtimes, held s row.id ≤ latest row.id

/-- All leases are on the local host. -/
def OnLocalHost (s : World) : Prop := ∀ l ∈ s.portLeases, l.runtimeHostId = localHostId

/-- How many ports a request asks for. -/
def portCount (cfg : AppConfig) (input : ProvisionInput) : Nat :=
  (specPorts cfg input.toSandboxSpecDto).length

/-! ## Runs and their condition

A run notes with each accepted request how many ports it has asked for. The condition on a step says
what an accepted request has to find, so that neither the second round of leases of a new runtime
nor a launch of a bound one leaves leases over. -/

/-- Note how many ports a request has asked for, for the runtime it is for. -/
def noteRequest (cfg : AppConfig) (input : ProvisionInput) (s : World)
    (latest : RuntimeId → Nat) : RuntimeId → Nat :=
  match SandboxCall.findRow s input.sandboxId with
  | none => latest
  | some row => Function.update latest row.id (portCount cfg input)

/-- The latest requested number of ports, after a call. -/
def latestAfter (cfg : AppConfig) (c : SandboxCall) (s : World)
    (tr : List (Event requests World Answer)) (s' : World) (latest : RuntimeId → Nat) :
    RuntimeId → Nat :=
  match c.request s (drawnText tr) with
  | none => latest
  | some input =>
    if accepts s input then noteRequest cfg input s' latest else latest

/-- The states reached from an empty store by calls that meet `safe`, with the number of ports
last requested for each runtime. -/
def LeaseRun (cfg : AppConfig)
    (safe : SandboxCall → World → List (Event requests World Answer) → Prop)
    (volumes : Table VolumeEntity volumeKeys) (s : World) (latest : RuntimeId → Nat) : Prop :=
  Runs backend (SandboxCall.prog cfg) (fun c s tr _ => safe c s tr) (latestAfter cfg)
    (World.fresh volumes) (fun _ => 0) s latest

/-- Another runtime answers to the name that the request asks for. -/
def nameShared (s : World) (input : ProvisionInput) : Bool :=
  match normalizeName input.name with
  | .ok (some n) => s.runtimes.rows.any fun r =>
    (r.sandboxId == n || r.name == some n) && r.sandboxId != input.sandboxId
  | _ => false

/-- What a launch of `row` has to find when its further ports are free: leases that are its first
bindings; or, if the backend fails the call, no more leases than the request asks for. -/
def LaunchFits (cfg : AppConfig) (s : World) (row : RuntimeEntity) (count : Nat) (failed : Bool) :
    Prop :=
  count - row.portBindings.length ≤ (freePorts cfg s).length →
    if failed then held s row.id + (count - row.portBindings.length) ≤ count
    else FirstLeased s row count

/-- What an accepted request has to find. Without a runtime, too few free ports for the second
round of leases; with one, what its launch has to find. When its further ports are not free all
leases go, unless the name check, which may find another runtime, ends the call first. -/
def LeasesFit (cfg : AppConfig) (s : World) (input : ProvisionInput) (failed : Bool) : Prop :=
  match SandboxCall.findRow s input.sandboxId with
  | none => (freePorts cfg s).length < 2 * portCount cfg input
  | some row => LaunchFits cfg s row (portCount cfg input) failed ∧
    ((freePorts cfg s).length < portCount cfg input - row.portBindings.length →
      nameShared s input = true → held s row.id ≤ portCount cfg input)

/-- Every accepted request finds accounts that it leaves right. -/
def LeaseSafe (cfg : AppConfig) (c : SandboxCall) (s : World)
    (tr : List (Event requests World Answer)) : Prop :=
  ∀ input, c.request s (drawnText tr) = some input → accepts s input = true →
    LeasesFit cfg s input (backendFailed tr)

/-! ## Leases of one runtime

How the account of one runtime changes with the writes to the table, and that the accounts of the
others do not. -/

section Leases

variable {s s₁ s' : World} {id : RuntimeId} {ports : List Int}

theorem leasedPorts_congr (h : s'.portLeases = s.portLeases) (id : RuntimeId) :
    leasedPorts s' id = leasedPorts s id := by
  simp [leasedPorts, h]

theorem held_congr (h : s'.portLeases = s.portLeases) (id : RuntimeId) :
    held s' id = held s id := by
  simp [held, leasedPorts_congr h]

/-- What is leased is added at the end. -/
theorem Registry.Leased.leasedPorts_self (h : Leased s id ports s₁) :
    leasedPorts s₁ id = leasedPorts s id ++ ports := by
  have hall : ∀ ports : List Int,
      ((ports.map (leaseOf id)).filter fun l => l.runtimeId == id) = ports.map (leaseOf id) :=
    fun ports => List.filter_eq_self.mpr (by simp [leaseOf])
  simp only [leasedPorts, h.portLeases, List.filter_append, List.map_append, hall, List.map_map]
  simp [Function.comp_def, leaseOf]

theorem Registry.Leased.leasedPorts_other (h : Leased s id ports s₁) {other : RuntimeId}
    (hne : other ≠ id) : leasedPorts s₁ other = leasedPorts s other := by
  have hnone : ((ports.map (leaseOf id)).filter fun l => l.runtimeId == other) = [] :=
    List.filter_eq_nil_iff.mpr (by simp [leaseOf, Ne.symm hne])
  simp [leasedPorts, h.portLeases, hnone]

theorem leasedPorts_delete_self
    (h : s'.portLeases = s.portLeases.delete fun l => l.runtimeId == id) :
    leasedPorts s' id = [] := by
  simp [leasedPorts, h, Table.delete, List.filter_filter]

theorem leasedPorts_delete_other
    (h : s'.portLeases = s.portLeases.delete fun l => l.runtimeId == id) {other : RuntimeId}
    (hne : other ≠ id) : leasedPorts s' other = leasedPorts s other := by
  simp only [leasedPorts, h, Table.delete, List.filter_filter]
  congr 1
  refine List.filter_congr fun l _ => ?_
  by_cases hl : l.runtimeId = other
  · simp [hl, hne]
  · simp [hl]

/-- On one host no port is leased twice. -/
theorem nodup_leasedPorts (h : OnLocalHost s) (id : RuntimeId) : (leasedPorts s id).Nodup := by
  refine List.Nodup.map_on (fun a ha b hb hport => ?_) ?_
  · have ha' : a ∈ s.portLeases := (List.mem_filter.mp ha).1
    have hb' : b ∈ s.portLeases := (List.mem_filter.mp hb).1
    exact Table.eq_of_clash ha' hb' ⟨(h a ha').trans (h b hb').symm, hport⟩
  · refine List.Nodup.filter _ (s.portLeases.distinct.imp fun {a b} hclash heq => hclash ?_)
    exact heq ▸ ⟨rfl, rfl⟩

/-- A runtime whose leased ports are among `ports` holds at most that many leases. -/
theorem held_le (h : OnLocalHost s) (hsub : ∀ port ∈ leasedPorts s id, port ∈ ports) :
    held s id ≤ ports.length :=
  ((nodup_leasedPorts h id).subperm hsub).length_le

/-- A runtime whose first bindings are leased holds no more leases than these. -/
theorem FirstLeased.held_le {row : RuntimeEntity} {count : Nat} (h : FirstLeased s row count)
    (hlocal : OnLocalHost s) : held s row.id ≤ count := by
  refine (Microsandbox.held_le hlocal fun port hport => (h port).mp hport).trans ?_
  rw [hostPorts, List.length_map, List.length_take]
  exact Nat.min_le_left _ _

/-- The same leases are on the same host. -/
theorem OnLocalHost.of_eq (h : OnLocalHost s) (hleases : s'.portLeases = s.portLeases) :
    OnLocalHost s' := by
  rwa [OnLocalHost, hleases]

theorem OnLocalHost.of_delete {p : PortLeaseEntity → Bool} (h : OnLocalHost s)
    (hleases : s'.portLeases = s.portLeases.delete p) : OnLocalHost s' := by
  intro l hl
  rw [hleases] at hl
  exact h l (Table.mem_delete.mp hl).1

theorem OnLocalHost.of_leased (h : OnLocalHost s) (hleased : Leased s id ports s₁) :
    OnLocalHost s₁ := by
  intro l hl
  rcases hleased.mem.mp hl with hl | ⟨port, -, rfl⟩
  · exact h l hl
  · rfl

end Leases

/-! ## Host ports of a launch

The bindings that a launch saves have the host ports of the stored bindings, and after them the
newly leased ports. -/

/-- New bindings have the leased ports as their host ports, in order. -/
theorem hostPorts_setHostPorts {ports : List RuntimePortBindingRecord} {leased : List Int}
    (h : leased.length = ports.length) : hostPorts (setHostPorts ports leased) = leased := by
  induction ports generalizing leased with
  | nil => simpa [setHostPorts, hostPorts, eq_comm] using h
  | cons port ports ih =>
    cases leased with
    | nil => simp at h
    | cons hostPort leased =>
      have := ih (show leased.length = ports.length by simpa using h)
      simpa [setHostPorts, hostPorts] using this

/-- The row's host ports come first, then the leased ones. -/
theorem hostPorts_assignHostPorts {existing ports : List RuntimePortBindingRecord}
    {leased : List Int} (h : leased.length = ports.length - existing.length) :
    hostPorts (assignHostPorts existing ports leased) =
      hostPorts (existing.take ports.length) ++ leased := by
  induction existing generalizing ports with
  | nil =>
    have := hostPorts_setHostPorts (show leased.length = ports.length by simpa using h)
    simpa [hostPorts, assignHostPorts] using this
  | cons binding existing ih =>
    cases ports with
    | nil =>
      have : leased = [] := List.length_eq_zero_iff.mp (by simpa using h)
      simp [assignHostPorts, hostPorts, this]
    | cons port ports =>
      have := ih (show leased.length = ports.length - existing.length by simpa using h)
      simpa [assignHostPorts, hostPorts] using this

/-! ## One call

What a call does to the accounts, by the ways in which provisioning can end. A launch is looked at
first, since all ways to a running VM end in one. -/

section Step

variable {cfg : AppConfig} {tr : List (Event requests World Answer)} {s s₁ s' : World}
  {input : ProvisionInput} {name : Option String} {spec : RuntimeSpec} {row : RuntimeEntity}

/-- An accepted request has a name that is free or its own, or none. -/
theorem accepts_name (h : accepts s input = true) :
    ∃ name, normalizeName input.name = .ok name ∧ ∀ n, name = some n →
      ∀ r ∈ s.runtimes, r.name = some n → r.sandboxId = input.sandboxId := by
  unfold accepts at h
  rw [Bool.and_eq_true] at h
  cases hname : normalizeName input.name with
  | error e => simp [hname] at h
  | ok name =>
    refine ⟨name, rfl, ?_⟩
    rintro n rfl r hr hrname
    have hrows := h.1
    simp only [hname, Option.all_some, Bool.and_eq_true, List.all_eq_true] at hrows
    simpa [hrname] using hrows.2 r hr

theorem accepts_mounts (h : accepts s input = true) {mount : RuntimeVolumeMountDto}
    (hmount : mount ∈ input.volumes.getD []) (e : ServiceError) : ¬ MountRefused s mount e := by
  unfold accepts at h
  rw [Bool.and_eq_true, List.all_eq_true] at h
  have hm := h.2 mount hmount
  rw [Bool.and_eq_true, beq_iff_eq] at hm
  rintro (⟨hsubpath, -⟩ | ⟨hnone, -⟩)
  · exact hsubpath hm.1
  · have hvolume := hm.2
    split at hvolume
    · rename_i n hn
      obtain ⟨volume, hmem, href⟩ := List.any_eq_true.mp hvolume
      exact hnone volume hmem ⟨n, hn, by simpa using href⟩
    · simp at hvolume

/-- An accepted request is refused only by an ambiguous name, or when files cannot be written to a
runtime that has as many bindings as the request asks for. -/
theorem RuntimeControl.Refusal.of_accepts {e : ServiceError} (h : Refusal cfg (· ∈ tr) input s e)
    (haccepts : accepts s input = true) : nameShared s input = true ∨
      ∃ row ∈ s.runtimes, row.sandboxId = input.sandboxId ∧
        row.portBindings.length = portCount cfg input := by
  -- an accepted request has a name that can be normalised, and mounts that resolve
  obtain ⟨name, hname, hown⟩ := accepts_name haccepts
  cases h with
  | badName he => simp [hname] at he
  | @nameTaken n r hn hr huse hother =>
    left
    simp only [nameShared, hn, List.any_eq_true, Bool.and_eq_true, Bool.or_eq_true, beq_iff_eq,
      bne_iff_ne]
    exact ⟨r, hr, huse, hother⟩
  | badMount hmount hrefused => exact absurd hrefused (accepts_mounts haccepts hmount e)
  | @nameStored n r hn hr hstored hother =>
    rw [hname, Except.ok.injEq] at hn
    exact absurd (hown n hn r hr hstored) hother
  | @filesFailed name spec row e a hplan hrow hid hkeep hfailure hsafe =>
    refine Or.inr ⟨row, hrow, hid, ?_⟩
    rw [(requiresRecreate_eq_false hkeep).ports_length, hplan.ports_eq, portCount]

/-! The launch -/

/-- What a call does to the accounts of the runtime it is for, and of the others. -/
structure Accounts (cfg : AppConfig) (input : ProvisionInput) (s : World)
    (x : Except ServiceError RuntimeSummary) (s' : World) : Prop where
  onLocalHost : OnLocalHost s'
  others : ∀ r ∈ s'.runtimes, r.sandboxId ≠ input.sandboxId →
    ∃ r₀ ∈ s.runtimes, r₀.sandboxId ≠ input.sandboxId ∧ r₀.id = r.id ∧
      held s' r.id = held s r.id
  own : ∀ r ∈ s'.runtimes, r.sandboxId = input.sandboxId → held s' r.id ≤ portCount cfg input
  matched : ∀ summary, x = .ok summary →
    ∃ r ∈ s'.runtimes, r.id = summary.runtimeId ∧ LeasesMatch s' r

/-- The bindings of a launch are leased when the row's first bindings were. -/
theorem RuntimeControl.PortsAssigned.leasesMatch {ports : List RuntimePortBindingRecord}
    (h : PortsAssigned cfg s row spec ports s₁) (hfirst : FirstLeased s row spec.ports.length)
    (port : Int) : port ∈ leasedPorts s₁ row.id ↔ port ∈ hostPorts ports := by
  have henough := h.enough
  rw [h.leased.leasedPorts_self, h.ports_eq,
    hostPorts_assignHostPorts (by rw [List.length_take]; omega), List.mem_append, List.mem_append,
    hfirst port]

/-- A launch leases what is missing from the bindings. -/
theorem RuntimeControl.PortsAssigned.held {ports : List RuntimePortBindingRecord}
    (h : PortsAssigned cfg s row spec ports s₁) :
    held s₁ row.id = held s row.id + (spec.ports.length - row.portBindings.length) := by
  have henough := h.enough
  simp only [Microsandbox.held, h.leased.leasedPorts_self, List.length_append, List.length_take]
  omega

theorem RuntimeControl.PortsAssigned.others {ports : List RuntimePortBindingRecord}
    (h : PortsAssigned cfg s row spec ports s₁) {id : RuntimeId} (hne : id ≠ row.id) :
    Microsandbox.held s₁ id = Microsandbox.held s id := by
  simp [Microsandbox.held, h.leased.leasedPorts_other hne]

/-- One case for each end of a launch: the ports are there or they are not, the backend answers or
fails. -/
theorem RuntimeControl.LaunchOutcome.accounts {x : Except ServiceError RuntimeSummary}
    (h : LaunchOutcome cfg (· ∈ tr) name spec row s x s') (hrow : row ∈ s.runtimes)
    (hid : row.sandboxId = input.sandboxId) (hlocal : OnLocalHost s)
    (hcount : spec.ports.length = portCount cfg input)
    (hfits : LaunchFits cfg s row (portCount cfg input) (backendFailed tr))
    (hserved : ∀ summary, x = .ok summary → backendFailed tr = false) :
    Accounts cfg input s x s' := by
  rw [← hcount] at hfits
  have hrowid : ∀ r ∈ s.runtimes, r.sandboxId = input.sandboxId → r.id = row.id :=
    fun r hr hrid => congrArg RuntimeEntity.id (World.eq_of_sandboxId hr hrow (hrid.trans hid.symm))
  have hother : ∀ r : RuntimeEntity, r ∈ s.runtimes → r.sandboxId ≠ input.sandboxId →
      r.id ≠ row.id := fun r hr hne hrid => hne ((World.eq_of_id hr hrow hrid) ▸ hid)
  cases h with
  | outOfPorts hfew hleases hruntimes hvms =>
    -- `leasePorts` released all ports of the row
    refine ⟨hlocal.of_delete hleases, fun r hr hne => ?_, fun r hr hrid => ?_, by simp⟩
    · rw [hruntimes] at hr
      exact ⟨r, hr, hne, rfl, by simp [held, leasedPorts_delete_other hleases (hother r hr hne)]⟩
    · rw [hruntimes] at hr
      simp [held, hrowid r hr hrid, leasedPorts_delete_self hleases]
  | @createFailed ports e a s₁ hports hfailure hhard hsafe =>
    -- the new leases stay with the row, whose bindings were not saved
    have hfailed : backendFailed tr = true :=
      List.any_eq_true.mpr ⟨_, hsafe, by simp [hfailure, hhard]⟩
    have hheld := hfits hports.enough
    rw [hfailed, if_pos rfl] at hheld
    obtain ⟨hruntimes, hleases⟩ := createVm_tables a (createInput row spec ports) s₁
    refine ⟨(hlocal.of_leased hports.leased).of_eq hleases, fun r hr hne => ?_,
      fun r hr hrid => ?_, by simp⟩
    · rw [hruntimes, hports.leased.runtimes] at hr
      exact ⟨r, hr, hne, rfl, (held_congr hleases _).trans (hports.others (hother r hr hne))⟩
    · rw [hruntimes, hports.leased.runtimes] at hr
      rw [held_congr hleases, hrowid r hr hrid, hports.held, ← hcount]
      exact hheld
  | @provisioned ports primary appHealthy sshHealthy lastActiveAt a s₁ s' hports hvm hprimary
      hsave =>
    have hleases : s'.portLeases = s₁.portLeases := (World.saveRuntime_spec hsave).2.1
    have hlocal' : OnLocalHost s' := (hlocal.of_leased hports.leased).of_eq hleases
    have hfirst := hfits hports.enough
    rw [hserved _ rfl, if_neg Bool.false_ne_true] at hfirst
    have hsaved : provisionedRow name spec row ports primary appHealthy sshHealthy lastActiveAt ∈
        s'.runtimes := (World.mem_saveRuntime hsave).mpr (Or.inl rfl)
    have hmatch : LeasesMatch s'
        (provisionedRow name spec row ports primary appHealthy sshHealthy lastActiveAt) := by
      intro port
      change port ∈ leasedPorts s' row.id ↔ port ∈ hostPorts ports
      rw [leasedPorts_congr hleases]
      exact hports.leasesMatch hfirst port
    refine ⟨hlocal', fun r hr hne => ?_, fun r hr hrid => ?_, ?_⟩
    · rcases (World.mem_saveRuntime hsave).mp hr with rfl | ⟨hr, hrne⟩
      · exact absurd hid hne
      · change r ∈ s₁.runtimes at hr
        rw [hports.leased.runtimes] at hr
        exact ⟨r, hr, hne, rfl, (held_congr hleases _).trans (hports.others hrne)⟩
    · rw [World.eq_of_sandboxId hr hsaved (hrid.trans hid.symm), ← hcount, ← hports.length]
      refine (held_le hlocal' fun port hport => (hmatch port).mp hport).trans ?_
      simp [hostPorts, provisionedRow]
    · intro summary hsummary
      refine ⟨_, hsaved, ?_, hmatch⟩
      rw [← Except.ok.inj hsummary]
      rfl

/-! Provisioning -/

/-- Taking the first ones out leaves the rest. The ports are different. -/
theorem filter_notMem_take {l : List Int} (hl : l.Nodup) (count : Nat) :
    (l.filter fun port => port ∉ l.take count) = l.drop count := by
  conv_lhs => rw [← List.take_append_drop count l, List.filter_append]
  rw [List.take_append_drop]
  have htake : ((l.take count).filter fun port => port ∉ l.take count) = [] :=
    List.filter_eq_nil_iff.mpr fun port hport => by simp [hport]
  have hdrop : ((l.drop count).filter fun port => port ∉ l.take count) = l.drop count := by
    refine List.filter_eq_self.mpr fun port hport => ?_
    have hdisjoint := List.disjoint_take_drop hl (le_refl count)
    simpa using fun hmem => hdisjoint hmem hport
  rw [htake, hdrop, List.nil_append]

/-- What was leased is no longer free. -/
theorem freePorts_leased {id : RuntimeId} {count : Nat}
    (h : Leased s id ((freePorts cfg s).take count) s₁) :
    freePorts cfg s₁ = (freePorts cfg s).drop count := by
  -- a port is free afterwards if it was free and was not taken
  have hfree : ∀ port, isFree s₁ port =
      (isFree s port && decide (port ∉ (freePorts cfg s).take count)) := by
    intro port
    rw [Bool.eq_iff_iff, Bool.and_eq_true, isFree_iff, isFree_iff, decide_eq_true_eq]
    constructor
    · intro hall
      refine ⟨fun l hl => hall l (h.mem.mpr (Or.inl hl)), fun hmem => ?_⟩
      exact hall _ (h.mem.mpr (Or.inr ⟨port, hmem, rfl⟩)) ⟨rfl, rfl⟩
    · rintro ⟨hold, hnew⟩ l hl
      rcases h.mem.mp hl with hl | ⟨port', hport', rfl⟩
      · exact hold l hl
      · rintro ⟨-, rfl⟩
        exact hnew hport'
  have hfilter : freePorts cfg s₁ =
      (freePorts cfg s).filter fun port => port ∉ (freePorts cfg s).take count := by
    conv_lhs => unfold freePorts
    conv_rhs => arg 2; unfold freePorts
    rw [List.filter_filter]
    exact List.filter_congr fun port _ => by rw [hfree, Bool.and_comm]
  rw [hfilter, filter_notMem_take (nodup_freePorts cfg s)]

/-- No row is found under an id that no row has. -/
theorem findRow_eq_none (h : ∀ r ∈ s.runtimes, r.sandboxId ≠ input.sandboxId) :
    SandboxCall.findRow s input.sandboxId = none :=
  List.find?_eq_none.mpr fun r hr => by simpa using h r hr

/-- A launch starts from fitting accounts. Of a new row, whose ports are leased once already, too
few ports are free. -/
theorem RuntimeControl.LaunchStart.fits {failed : Bool}
    (hcount : spec.ports.length = portCount cfg input)
    (h : LaunchStart cfg (· ∈ tr) input name spec s row s₁)
    (hfit : LeasesFit cfg s input failed) : LaunchFits cfg s₁ row (portCount cfg input) failed := by
  unfold LeasesFit at hfit
  cases h with
  | unhealthy hrow hid hkeep =>
    rw [← hid, findRow_eq_some hrow] at hfit
    exact hfit.1
  | @replaced row₀ s₁ hrow hid hreplace hsave =>
    rw [← hid, findRow_eq_some hrow] at hfit
    have hleases : s₁.portLeases = s.portLeases := (World.saveRuntime_spec hsave).2.1
    unfold LaunchFits FirstLeased
    rw [freePorts_congr cfg hleases, held_congr hleases, leasedPorts_congr hleases]
    exact hfit.1
  | @new vmName authToken primary now a s₁ s₂ hnew hvm hinsert hsafe henough hleased =>
    rw [findRow_eq_none hnew] at hfit
    have hleases := (World.insertRuntime_spec hinsert).2.1
    have hfree₁ : freePorts cfg s₁ = freePorts cfg s := freePorts_congr cfg hleases
    have hfree := freePorts_leased (hfree₁.symm ▸ hleased)
    -- the new row has no bindings, so the launch leases as many ports again
    intro hneed
    rw [hfree, hfree₁, List.length_drop] at hneed
    simp only [RuntimeEntity.withId_portBindings, newRow, List.length_nil] at hneed
    omega

/-- Where a launch starts, nothing has changed for the other runtimes. -/
theorem RuntimeControl.LaunchStart.others (h : LaunchStart cfg (· ∈ tr) input name spec s row s₁)
    (hlocal : OnLocalHost s) : OnLocalHost s₁ ∧ ∀ r ∈ s₁.runtimes, r.sandboxId ≠ input.sandboxId →
      r ∈ s.runtimes ∧ held s₁ r.id = held s r.id := by
  cases h with
  | unhealthy hrow hid hkeep => exact ⟨hlocal, fun r hr _ => ⟨hr, rfl⟩⟩
  | replaced hrow hid hreplace hsave =>
    have hleases := (World.saveRuntime_spec hsave).2.1
    refine ⟨hlocal.of_eq hleases, fun r hr hne => ⟨?_, held_congr hleases _⟩⟩
    -- the row that was saved is the one of the request
    rcases (World.mem_saveRuntime hsave).mp hr with rfl | ⟨hr, -⟩
    · exact absurd hid hne
    · exact hr
  | @new vmName authToken primary now a s₁ s₂ hnew hvm hinsert hsafe henough hleased =>
    have hleases := (World.insertRuntime_spec hinsert).2.1
    refine ⟨(hlocal.of_eq hleases).of_leased hleased, fun r hr hne => ?_⟩
    rw [hleased.runtimes] at hr
    rcases (World.mem_insertRuntime hinsert).mp hr with hr | rfl
    -- ids are not handed out twice
    · have hother : r.id ≠ s.nextRuntimeId := (s.runtimes_lt r hr).ne
      exact ⟨hr, by simp [held, hleased.leasedPorts_other hother, leasedPorts_congr hleases]⟩
    · exact absurd rfl hne

/-- **One provisioning.** -/
theorem RuntimeControl.ProvisionOutcome.accounts {x : Except ServiceError RuntimeSummary}
    (h : ProvisionOutcome cfg (· ∈ tr) input s x s') (hlocal : OnLocalHost s)
    (haccepts : accepts s input = true) (hfit : LeasesFit cfg s input (backendFailed tr))
    (hserved : ∀ summary, x = .ok summary → backendFailed tr = false) :
    Accounts cfg input s x s' := by
  cases h with
  | refused hwhy =>
    refine ⟨hlocal, fun r hr hne => ⟨r, hr, hne, rfl, rfl⟩, fun r hr hrid => ?_, by simp⟩
    unfold LeasesFit at hfit
    rw [← hrid, findRow_eq_some hr] at hfit
    -- nothing was leased, so the leases must have been few enough before
    rcases Nat.lt_or_ge (freePorts cfg s).length (portCount cfg input - r.portBindings.length)
      with hfew | henough
    · rcases hwhy.of_accepts haccepts with hshared | ⟨row, hrow, hid, hlen⟩
      · exact hfit.2 hfew hshared
      · obtain rfl := World.eq_of_sandboxId hrow hr (hid.trans hrid.symm)
        omega
    · have hfirst := hfit.1 henough
      cases hfailed : backendFailed tr with
      | true =>
        rw [hfailed, if_pos rfl] at hfirst
        omega
      | false =>
        rw [hfailed, if_neg Bool.false_ne_true] at hfirst
        exact hfirst.held_le hlocal
  | @existing name spec row lastActiveAt s' hplan hrow hid hforce hkeep hlive hsave =>
    -- the runtime is kept, so it has as many bindings as ports are asked for
    have hleases := (World.saveRuntime_spec hsave).2.1
    have hlen := (requiresRecreate_eq_false hkeep).ports_length
    rw [hplan.ports_eq] at hlen
    change row.portBindings.length = portCount cfg input at hlen
    unfold LeasesFit at hfit
    rw [← hid, findRow_eq_some hrow] at hfit
    have hfirst := hfit.1 (by omega)
    rw [hserved _ rfl, if_neg Bool.false_ne_true] at hfirst
    have hsaved : syncedRow name spec row lastActiveAt ∈ s'.runtimes :=
      (World.mem_saveRuntime hsave).mpr (Or.inl rfl)
    refine ⟨hlocal.of_eq hleases, fun r hr hne => ?_, fun r hr hrid => ?_, ?_⟩
    · rcases (World.mem_saveRuntime hsave).mp hr with rfl | ⟨hr, -⟩
      · exact absurd hid hne
      · exact ⟨r, hr, hne, rfl, held_congr hleases _⟩
    · rw [World.eq_of_sandboxId hr hsaved (hrid.trans hid.symm), held_congr hleases]
      exact hfirst.held_le hlocal
    · intro summary hsummary
      refine ⟨_, hsaved, by rw [← Except.ok.inj hsummary]; rfl, fun port => ?_⟩
      rw [leasedPorts_congr hleases]
      refine (hfirst port).trans ?_
      rw [← hlen, List.take_length]
      rfl
  | rolledBack hplan hnew hfew hleases hruntimes hvms =>
    refine ⟨hlocal.of_eq hleases, fun r hr hne => ?_, fun r hr hrid => ?_, by simp⟩
    · rw [hruntimes] at hr
      exact ⟨r, hr, hne, rfl, held_congr hleases _⟩
    · rw [hruntimes] at hr
      exact absurd hrid (hnew r hr)
  | launched hplan hstart houtcome =>
    obtain ⟨hlocal₁, hothers⟩ := hstart.others hlocal
    obtain ⟨hrow, hid, -⟩ := hstart.row_mem
    have hcount := congrArg List.length hplan.ports_eq
    have haccounts := houtcome.accounts hrow hid hlocal₁ hcount (hstart.fits hcount hfit) hserved
    refine ⟨haccounts.onLocalHost, fun r hr hne => ?_, haccounts.own, haccounts.matched⟩
    obtain ⟨r₁, hr₁, hne₁, hid₁, hheld₁⟩ := haccounts.others r hr hne
    obtain ⟨hr₀, hheld₀⟩ := hothers r₁ hr₁ hne₁
    exact ⟨r₁, hr₀, hne₁, hid₁, hheld₁.trans (hid₁ ▸ hheld₀)⟩

/-- What holds of one runtime and of the others holds of all. -/
theorem NeverMore.of_accounts {latest : RuntimeId → Nat} {x : Except ServiceError RuntimeSummary}
    (hnever : NeverMore s latest) (h : Accounts cfg input s x s') :
    NeverMore s' (noteRequest cfg input s' latest) := by
  intro r hr
  unfold noteRequest
  -- the runtime of the request counts its own ports; for all others nothing was noted
  by_cases hrid : r.sandboxId = input.sandboxId
  · rw [← hrid, findRow_eq_some hr]
    simpa using h.own r hr hrid
  · obtain ⟨r₀, hr₀, -, hid₀, hheld⟩ := h.others r hr hrid
    have hle : held s' r.id ≤ latest r.id := by
      rw [hheld, ← hid₀]
      exact hnever r₀ hr₀
    cases hrow : SandboxCall.findRow s' input.sandboxId with
    | none => exact hle
    | some row =>
      have hmem : row ∈ s'.runtimes := List.mem_of_find?_eq_some hrow
      have hrowid : row.sandboxId = input.sandboxId := by simpa using List.find?_some hrow
      have hne : r.id ≠ row.id := fun hid => hrid (World.eq_of_id hr hmem hid ▸ hrowid)
      simpa [Function.update_of_ne hne] using hle

/-- **One call.** A call that meets `LeaseSafe` keeps the accounts, and leaves them matched for the
runtime it provisioned. -/
theorem accounts_step {latest : RuntimeId → Nat} {c : SandboxCall} {x : Except ServiceError Reply}
    (hlocal : OnLocalHost s) (hnever : NeverMore s latest) (hsafe : LeaseSafe cfg c s tr)
    (hexec : Exec backend (c.prog cfg) s tr x s') :
    OnLocalHost s' ∧ NeverMore s' (latestAfter cfg c s tr s' latest) ∧
      (c.provisions = true → ∀ summary, x = .ok (.summary summary) →
        ∃ r ∈ s'.runtimes, r.id = summary.runtimeId ∧ LeasesMatch s' r) := by
  unfold latestAfter
  cases call_outcome hexec with
  | refused hrequest =>
    rw [hrequest]
    exact ⟨hlocal, hnever, by simp⟩
  | @touched row status reason lastActiveAt s₁ s' x hrow hsave hruntimes hleases hvms hcall =>
    rw [SandboxCall.request_eq_none hcall]
    refine ⟨hlocal.of_eq hleases, fun r hr => ?_, by simp [hcall]⟩
    rw [held_congr hleases]
    rw [hruntimes, World.mem_saveRuntime hsave] at hr
    rcases hr with rfl | ⟨hr, -⟩
    · exact hnever row hrow
    · exact hnever r hr
  | @deleted row s' x hrow hcall hruntimes hleases hvms hremoved =>
    obtain ⟨value, v, rfl, -⟩ := hcall
    refine ⟨hlocal.of_delete hleases, fun r hr => ?_, by simp [SandboxCall.provisions]⟩
    rw [hruntimes] at hr
    obtain ⟨hr, hid⟩ := Table.mem_delete.mp hr
    rw [held, leasedPorts_delete_other hleases (by simpa using hid)]
    exact hnever r hr
  | @provisioned input x s' hrequest hnormal houtcome =>
    simp only [hrequest]
    -- a summary is returned only when the VM was created
    have hserved : ∀ summary, x = .ok summary → backendFailed tr = false := by
      rintro summary rfl
      by_contra hfailed
      obtain ⟨e, he⟩ := error_of_backendFailed hexec (by simpa using hfailed)
      cases he
    cases haccepts : accepts s input with
    | true =>
      have haccounts := houtcome.accounts hlocal haccepts (hsafe input hrequest haccepts) hserved
      rw [if_pos rfl]
      refine ⟨haccounts.onLocalHost, hnever.of_accounts haccounts, fun _ summary hsummary => ?_⟩
      cases x with
      | error e => cases hsummary
      | ok summary' =>
        cases hsummary
        exact haccounts.matched summary rfl
    | false =>
      obtain ⟨⟨e, rfl⟩, rfl⟩ := houtcome.of_not_accepts haccepts
      exact ⟨hlocal, by simpa using hnever, by simp [Except.map]⟩

end Step

/-! ## Every run

`accounts_step` is the step lemma, and the run theorem is the induction over it from an empty store.
-/

/-- **No leaked leases.** In every run from an empty store whose accepted requests find fitting
accounts, no runtime ever holds more leases than the number of ports it was last asked to have, and
after a call that provisions a runtime and returns, its leases are the host ports of its stored
bindings. Calls that fail are part of such runs. -/
theorem leases_accounted (cfg : AppConfig) (volumes : Table VolumeEntity volumeKeys) {s : World}
    {latest : RuntimeId → Nat} (hreach : LeaseRun cfg (LeaseSafe cfg) volumes s latest) :
    NeverMore s latest ∧ ∀ c tr summary s', c.provisions = true → LeaseSafe cfg c s tr →
      Exec backend (c.prog cfg) s tr (.ok (.summary summary)) s' →
      ∃ r ∈ s'.runtimes, r.id = summary.runtimeId ∧ LeasesMatch s' r := by
  obtain ⟨hlocal, hnever⟩ : OnLocalHost s ∧ NeverMore s latest := by
    refine Runs.invariant (I := fun s latest => OnLocalHost s ∧ NeverMore s latest)
      ⟨fun l hl => absurd hl (Table.not_mem_empty l), fun r hr => absurd hr (Table.not_mem_empty r)⟩
      (fun c s latest tr x s' hinv hsafe hexec => ?_) hreach
    obtain ⟨hlocal', hnever', -⟩ := accounts_step hinv.1 hinv.2 hsafe hexec
    exact ⟨hlocal', hnever'⟩
  refine ⟨hnever, fun c tr summary s' hc hsafe hexec => ?_⟩
  exact (accounts_step hlocal hnever hsafe hexec).2.2 hc summary rfl

/-- What evaluation finds at the end of some calls holds of a run. -/
theorem exists_leaseRun (cfg : AppConfig) (volumes : Table VolumeEntity volumeKeys)
    (calls : List (SandboxCall × List Answer)) (p : World → (RuntimeId → Nat) → Bool)
    (hrun : (runCalls backend (SandboxCall.prog cfg) (latestAfter cfg) calls (World.fresh volumes)
      fun _ => 0).any (fun q => p q.1 q.2) = true) :
    ∃ s latest, LeaseRun cfg anyCall volumes s latest ∧ p s latest = true :=
  exists_runs_of_runCalls calls p hrun

/-- A check of `LeaseSafe`. It asks for free ports where the further ones are to be leased, and does
not look at what a failing backend leaves. -/
def leasesFit (cfg : AppConfig) (c : SandboxCall) (s : World)
    (tr : List (Event requests World Answer)) : Bool :=
  (c.request s (drawnText tr)).all fun input =>
    match SandboxCall.findRow s input.sandboxId with
    | none => decide ((freePorts cfg s).length < 2 * portCount cfg input)
    | some row => !backendFailed tr &&
        leasedPorts s row.id == hostPorts (row.portBindings.take (portCount cfg input)) &&
        decide (portCount cfg input - row.portBindings.length ≤ (freePorts cfg s).length)

theorem leaseSafe_of_leasesFit (cfg : AppConfig) (c : SandboxCall) (s : World)
    (tr : List (Event requests World Answer)) (h : leasesFit cfg c s tr = true) :
    LeaseSafe cfg c s tr := by
  intro input hrequest _
  rw [leasesFit, hrequest, Option.all_some] at h
  unfold LeasesFit
  -- for a new row the range has to have ports for both rounds
  cases hrow : SandboxCall.findRow s input.sandboxId with
  | none =>
    rw [hrow] at h
    exact of_decide_eq_true h
  | some row =>
    rw [hrow] at h
    simp only [Bool.and_eq_true, Bool.not_eq_true', beq_iff_eq, decide_eq_true_eq] at h
    obtain ⟨⟨hserved, hleased⟩, hfree⟩ := h
    refine ⟨fun _ => ?_, fun hfew => absurd hfew (Nat.not_lt.mpr hfree)⟩
    rw [hserved]
    intro port
    rw [hleased]

/-- The same for calls that the check finds safe. -/
theorem exists_safe_leaseRun (cfg : AppConfig) (volumes : Table VolumeEntity volumeKeys)
    (calls : List (SandboxCall × List Answer)) (p : World → (RuntimeId → Nat) → Bool)
    (hrun : (runChecked backend (SandboxCall.prog cfg) (fun c s tr _ => leasesFit cfg c s tr)
      (latestAfter cfg) calls (World.fresh volumes) fun _ => 0).any (fun q => p q.1 q.2) = true) :
    ∃ s latest, LeaseRun cfg (LeaseSafe cfg) volumes s latest ∧ p s latest = true :=
  exists_runs_of_runChecked (fun c s tr _ => leaseSafe_of_leasesFit cfg c s tr) calls p hrun

/-- The next call returns, the runtime holds as many leases as it was asked to have ports, and these
are two. -/
def servesTwoPorts (cfg : AppConfig) (c : SandboxCall) (s : World) (latest : RuntimeId → Nat) :
    Bool :=
  (run backend (c.prog cfg) [] s).any fun q =>
    match q.2.1 with
    | .ok (.summary summary) => leasesFit cfg c s q.1 && q.2.2.runtimes.rows.all fun r =>
        r.id == summary.runtimeId && (hostPorts r.portBindings).length == 2 &&
          (held q.2.2 r.id == 2 && latestAfter cfg c s q.1 q.2.2 latest r.id == 2)
    | _ => false

theorem exists_of_servesTwoPorts {cfg : AppConfig} {c : SandboxCall} {s : World}
    {latest : RuntimeId → Nat} (h : servesTwoPorts cfg c s latest = true) :
    ∃ tr summary s', Exec backend (c.prog cfg) s tr (.ok (.summary summary)) s' ∧
      LeaseSafe cfg c s tr ∧ ∀ r ∈ s'.runtimes, r.id = summary.runtimeId →
        (hostPorts r.portBindings).length = 2 ∧ held s' r.id = 2 ∧
          latestAfter cfg c s tr s' latest r.id = 2 := by
  obtain ⟨⟨tr, x, s'⟩, hrun, hq⟩ := (Option.any_eq_true _ _).mp h
  dsimp only at hq
  split at hq
  · rename_i summary
    rw [Bool.and_eq_true] at hq
    refine ⟨tr, summary, s', exec_of_run hrun, leaseSafe_of_leasesFit _ _ _ _ hq.1, ?_⟩
    intro r hr _
    have hall := List.all_eq_true.mp hq.2 r hr
    simp only [Bool.and_eq_true, beq_iff_eq] at hall
    exact ⟨hall.1.2, hall.2⟩
  · cases hq

/-- Three ports are in the range. The creation of `a` leases two of them and fails to lease two more,
so all are given back; asked for again, `a` gets two ports and is bound to both. -/
theorem leases_accounted_retry : ∃ s latest tr summary s' r,
    LeaseRun (smallConfig 31002) (LeaseSafe (smallConfig 31002)) .empty s latest ∧
      Exec backend ((SandboxCall.ensure { sandboxId := some "a" }).prog (smallConfig 31002)) s tr
        (.ok (.summary summary)) s' ∧
      r ∈ s'.runtimes ∧ r.id = summary.runtimeId ∧ LeasesMatch s' r ∧
        (hostPorts r.portBindings).length = 2 ∧
      ∃ latest', NeverMore s' latest' ∧ held s' r.id = 2 ∧ latest' r.id = 2 := by
  obtain ⟨s, latest, hreach, hserves⟩ := exists_safe_leaseRun (smallConfig 31002) .empty
    [(.create { name := some "a" }, [])]
    (servesTwoPorts (smallConfig 31002) (.ensure { sandboxId := some "a" })) (by decide +kernel)
  obtain ⟨tr, summary, s', hexec, hsafe, htwo⟩ := exists_of_servesTwoPorts hserves
  obtain ⟨r, hr, hid, hmatch⟩ :=
    (leases_accounted (smallConfig 31002) .empty hreach).2 _ tr summary s' rfl hsafe hexec
  -- the run goes on with the call, so the bound holds after it too
  have hreach' : LeaseRun (smallConfig 31002) (LeaseSafe (smallConfig 31002)) .empty s' _ :=
    hreach.call hexec hsafe
  obtain ⟨hbound, hheld, hlatest⟩ := htwo r hr hid
  exact ⟨s, latest, tr, summary, s', r, hreach, hexec, hr, hid, hmatch, hbound, _,
    (leases_accounted (smallConfig 31002) .empty hreach').1, hheld, hlatest⟩

/-- Some runtime holds more leases than it was last asked to have ports. -/
def holdsMore (s : World) (latest : RuntimeId → Nat) : Bool :=
  s.runtimes.rows.any fun r => latest r.id < held s r.id

/-- One creation that returns leaves the new runtime with its two ports and two more. -/
theorem create_leaks :
    ¬ ∀ (cfg : AppConfig) (volumes : Table VolumeEntity volumeKeys) (s : World)
        (latest : RuntimeId → Nat), LeaseRun cfg anyCall volumes s latest →
      NeverMore s latest ∧ ∀ c tr summary s', c.provisions = true → anyCall c s tr →
        Exec backend (c.prog cfg) s tr (.ok (.summary summary)) s' →
        ∃ r ∈ s'.runtimes, r.id = summary.runtimeId ∧ LeasesMatch s' r := by
  intro hclaim
  obtain ⟨s, latest, hreach, hmore⟩ := exists_leaseRun (smallConfig 31005) .empty
    [(.create { name := some "a" }, [])] holdsMore (by decide +kernel)
  obtain ⟨r, hr, hlt⟩ := List.any_eq_true.mp hmore
  have hle := (hclaim _ _ s latest hreach).1 r hr
  simp only [decide_eq_true_eq] at hlt
  omega

end Microsandbox
