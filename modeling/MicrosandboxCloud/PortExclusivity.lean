import MicrosandboxCloud.Calls

/-!
# Microsandbox — every bound host port is leased

The invariant that makes host ports exclusive spans two tables: each host port in a stored
runtime's bindings is leased to that runtime. Since the lease table is unique in the port, no two
runtimes share one.

The rollback of `leasePorts` gives back *all* leases of the runtime, also those of the bindings it
already has. So the invariant holds as long as no accepted request asks a bound runtime for more
additional ports than are free (`ExtensionFits`), and `extension_breaks_leases` is a run in which
one does.
-/

namespace Microsandbox

open Process Data RuntimeControl Registry

/-! ## The invariant

That no two runtimes are bound to one host port is not kept by any constraint on the bindings, which
are JSON. It follows from the leases, of which there is one for a port, as long as each binding is
leased to its runtime. This is the invariant. -/

/-- Every bound host port is leased to its runtime. -/
def BindingsLeased (s : World) : Prop :=
  ∀ r ∈ s.runtimes, ∀ b ∈ r.portBindings, leaseOf r.id b.hostPort ∈ s.portLeases

/-- No two stored runtimes have bindings with the same host port. -/
def HostPortsExclusive (s : World) : Prop :=
  ∀ r₁ ∈ s.runtimes, ∀ r₂ ∈ s.runtimes, ∀ b₁ ∈ r₁.portBindings, ∀ b₂ ∈ r₂.portBindings,
    b₁.hostPort = b₂.hostPort → r₁ = r₂

/-- The lease table decides whose port it is. -/
theorem BindingsLeased.exclusive {s : World} (h : BindingsLeased s) : HostPortsExclusive s := by
  intro r₁ hr₁ r₂ hr₂ b₁ hb₁ b₂ hb₂ hport
  have hlease : leaseOf r₁.id b₁.hostPort = leaseOf r₂.id b₂.hostPort :=
    Table.eq_of_clash (h r₁ hr₁ b₁ hb₁) (h r₂ hr₂ b₂ hb₂) ⟨rfl, hport⟩
  exact World.eq_of_id hr₁ hr₂ (congrArg PortLeaseEntity.runtimeId hlease)

/-- When an accepted request asks a bound runtime for further ports, that many are free. -/
def ExtensionFits (cfg : AppConfig) (c : SandboxCall) (s : World)
    (tr : List (Event requests World Answer)) : Prop :=
  ∀ input, c.request s (drawnText tr) = some input → accepts s input = true →
    ∀ row ∈ s.runtimes, row.sandboxId = input.sandboxId → row.portBindings ≠ [] →
      (specPorts cfg input.toSandboxSpecDto).length - row.portBindings.length ≤
        (freePorts cfg s).length

/-! ## One step

A launch binds ports that were bound before or are newly leased. The rollback of a leasing is the
one thing that takes leases from a bound runtime: `ExtensionFits` keeps it out. -/

theorem mem_setHostPorts {ports : List RuntimePortBindingRecord} {leased : List Int}
    {b : RuntimePortBindingRecord} (hlen : ports.length ≤ leased.length)
    (h : b ∈ setHostPorts ports leased) : b.hostPort ∈ leased := by
  induction ports generalizing leased with
  | nil => cases leased <;> simp [setHostPorts] at h
  | cons port ports ih =>
    cases leased with
    | nil => simp at hlen
    | cons hostPort leased =>
      rcases List.mem_cons.mp h with rfl | h
      · exact List.mem_cons_self
      · exact List.mem_cons_of_mem _ (ih (by simpa using hlen) h)

/-- An assigned host port was bound before or is newly leased. -/
theorem mem_assignHostPorts {existing ports : List RuntimePortBindingRecord} {leased : List Int}
    {b : RuntimePortBindingRecord} (hlen : ports.length - existing.length ≤ leased.length)
    (h : b ∈ assignHostPorts existing ports leased) :
    (∃ b₀ ∈ existing, b.hostPort = b₀.hostPort) ∨ b.hostPort ∈ leased := by
  induction existing generalizing ports with
  | nil => exact Or.inr (mem_setHostPorts (by simpa using hlen) h)
  | cons binding existing ih =>
    cases ports with
    | nil => simp [assignHostPorts] at h
    | cons port ports =>
      rcases List.mem_cons.mp h with rfl | h
      · exact Or.inl ⟨binding, List.mem_cons_self, rfl⟩
      · refine (ih (by simpa using hlen) h).imp_left ?_
        rintro ⟨b₀, hb₀, hport⟩
        exact ⟨b₀, List.mem_cons_of_mem _ hb₀, hport⟩

section Step

variable {cfg : AppConfig} {safe : Event requests World Answer → Prop} {s s₁ s' : World}
  {row : RuntimeEntity} {spec : RuntimeSpec}

/-- The host ports a launch assigns are leased to the row. -/
theorem RuntimeControl.PortsAssigned.leases {ports : List RuntimePortBindingRecord}
    (h : PortsAssigned cfg s row spec ports s₁) (hinv : BindingsLeased s) (hrow : row ∈ s.runtimes)
    {b : RuntimePortBindingRecord} (hb : b ∈ ports) :
    leaseOf row.id b.hostPort ∈ s₁.portLeases := by
  have henough := h.enough
  rw [h.ports_eq] at hb
  rw [h.leased.mem]
  rcases mem_assignHostPorts (by rw [List.length_take]; omega) hb with ⟨b₀, hb₀, hport⟩ | hmem
  · exact Or.inl (hport ▸ hinv row hrow b₀ hb₀)
  · exact Or.inr ⟨_, hmem, rfl⟩

/-- Writing a row with the bindings it had, and taking no lease away, keeps the invariant. -/
theorem BindingsLeased.of_save (saved : RuntimeEntity) (hinv : BindingsLeased s)
    (hruntimes : ∀ r ∈ s'.runtimes, r ∈ s.runtimes ∨ r = saved)
    (hsaved : ∀ b ∈ saved.portBindings, leaseOf saved.id b.hostPort ∈ s'.portLeases)
    (hleases : ∀ l ∈ s.portLeases, l ∈ s'.portLeases) : BindingsLeased s' := by
  intro r hr b hb
  rcases hruntimes r hr with hr | rfl
  · exact hleases _ (hinv r hr b hb)
  · exact hsaved b hb

/-- Saving a row with its bindings as they were keeps the invariant. -/
theorem BindingsLeased.of_sameBindings {saved : RuntimeEntity} (hinv : BindingsLeased s)
    (hrow : row ∈ s.runtimes) (hsave : s.saveRuntime saved = some s₁)
    (hid : saved.id = row.id) (hbindings : saved.portBindings = row.portBindings)
    (hruntimes : s'.runtimes = s₁.runtimes) (hleases : s'.portLeases = s.portLeases) :
    BindingsLeased s' := by
  refine hinv.of_save saved (fun r hr => ?_) (fun b hb => ?_) fun l hl => ?_
  · rw [hruntimes, World.mem_saveRuntime hsave] at hr
    exact hr.symm.imp_left And.left
  · rw [hbindings] at hb
    rw [hid, hleases]
    exact hinv row hrow b hb
  · rwa [hleases]

/-- Where a launch starts the invariant holds, and a bound row is the one stored before. -/
theorem RuntimeControl.LaunchStart.bindingsLeased {input : ProvisionInput} {name : Option String}
    (h : LaunchStart cfg safe input name spec s row s₁) (hinv : BindingsLeased s) :
    BindingsLeased s₁ := by
  cases h with
  | unhealthy hrow hid hkeep => exact hinv
  | replaced hrow hid hreplace hsave =>
    exact hinv.of_sameBindings hrow hsave rfl rfl rfl (World.saveRuntime_spec hsave).2.1
  | new hnew hvm hinsert hsafe henough hleased =>
    obtain ⟨-, hleases, -⟩ := World.insertRuntime_spec hinsert
    refine hinv.of_save _ (fun r hr => (World.mem_insertRuntime hinsert).mp (hleased.runtimes ▸ hr))
      (fun b hb => ?_) fun l hl => ?_
    · simp [newRow] at hb
    · exact hleased.mem.mpr (Or.inl (hleases ▸ hl))

/-- A bound row from which a launch starts finds as many free ports as the request did. -/
theorem RuntimeControl.LaunchStart.enough {input : ProvisionInput} {name : Option String}
    (hstart : LaunchStart cfg safe input name spec s row s₁) (hbound : row.portBindings ≠ [])
    (hfits : ∀ row₀ ∈ s.runtimes, row₀.sandboxId = input.sandboxId → row₀.portBindings ≠ [] →
      spec.ports.length - row₀.portBindings.length ≤ (freePorts cfg s).length) :
    spec.ports.length - row.portBindings.length ≤ (freePorts cfg s₁).length := by
  cases hstart with
  | unhealthy hrow hid hkeep => exact hfits row hrow hid hbound
  | @replaced row₀ s₁ hrow hid hreplace hsave =>
    rw [freePorts_congr cfg (World.saveRuntime_spec hsave).2.1]
    exact hfits row₀ hrow hid hbound
  | new => exact absurd rfl hbound

/-- One case for each end of a launch. -/
theorem RuntimeControl.LaunchOutcome.bindingsLeased {name : Option String}
    {x : Except ServiceError RuntimeSummary}
    (h : LaunchOutcome cfg safe name spec row s x s') (hinv : BindingsLeased s)
    (hrow : row ∈ s.runtimes)
    (hfits : row.portBindings ≠ [] →
      spec.ports.length - row.portBindings.length ≤ (freePorts cfg s).length) :
    BindingsLeased s' := by
  cases h with
  | outOfPorts hfew hleases hruntimes hvms =>
    have hunbound : row.portBindings = [] := by
      by_contra hbound
      have := hfits hbound
      omega
    intro r hr b hb
    rw [hruntimes] at hr
    rw [hleases]
    refine Table.mem_delete.mpr ⟨hinv r hr b hb, ?_⟩
    -- the leases that went were those of an unbound row
    have hne : r.id ≠ row.id := by
      intro hid
      rw [World.eq_of_id hr hrow hid, hunbound] at hb
      simp at hb
    simpa [leaseOf] using hne
  | @createFailed ports e a s₁ hports hfailure hhard hsafe =>
    intro r hr b hb
    obtain ⟨hruntimes, hleases⟩ := createVm_tables a (createInput row spec ports) s₁
    rw [hruntimes, hports.leased.runtimes] at hr
    rw [hleases]
    exact hports.leased.mem.mpr (Or.inl (hinv r hr b hb))
  | @provisioned ports primary appHealthy sshHealthy lastActiveAt a s₁ s' hports hvm hprimary
      hsave =>
    have hleases : s'.portLeases = s₁.portLeases := (World.saveRuntime_spec hsave).2.1
    refine hinv.of_save
      (provisionedRow name spec row ports primary appHealthy sshHealthy lastActiveAt)
      (fun r hr => ?_) (fun b hb => ?_) fun l hl => ?_
    · refine ((World.mem_saveRuntime hsave).mp hr).symm.imp_left fun h => ?_
      have hmem : r ∈ s₁.runtimes := h.1
      rwa [hports.leased.runtimes] at hmem
    · rw [hleases]
      exact hports.leases hinv hrow hb
    · rw [hleases]
      exact hports.leased.mem.mpr (Or.inl hl)

/-- **One call.** A call that meets `ExtensionFits` keeps every bound host port leased. -/
theorem bindingsLeased_step {c : SandboxCall} {tr : List (Event requests World Answer)}
    {x : Except ServiceError Reply} (hinv : BindingsLeased s) (hfits : ExtensionFits cfg c s tr)
    (hexec : Exec backend (c.prog cfg) s tr x s') : BindingsLeased s' := by
  cases call_outcome hexec with
  | refused hrequest => exact hinv
  | touched hrow hsave hruntimes hleases hvms hcall =>
    exact hinv.of_sameBindings hrow hsave rfl rfl hruntimes hleases
  | @deleted row s' x hrow hcall hruntimes hleases hvms hremoved =>
    -- the leases of the deleted row go, and no other row has its id
    intro r hr b hb
    rw [hruntimes] at hr
    rw [hleases]
    obtain ⟨hr, hid⟩ := Table.mem_delete.mp hr
    exact Table.mem_delete.mpr ⟨hinv r hr b hb, hid⟩
  | provisioned hrequest hnormal houtcome =>
    cases houtcome with
    | refused hwhy => exact hinv
    | existing hplan hrow hid hforce hkeep hlive hsave =>
      exact hinv.of_sameBindings hrow hsave rfl rfl rfl (World.saveRuntime_spec hsave).2.1
    | rolledBack hplan hnew hfew hleases hruntimes hvms =>
      intro r hr b hb
      rw [hruntimes] at hr
      rw [hleases]
      exact hinv r hr b hb
    | launched hplan hstart houtcome =>
      -- what is bound anew has been leased, if the extension fits
      refine houtcome.bindingsLeased (hstart.bindingsLeased hinv) hstart.row_mem.1 fun hbound => ?_
      refine hstart.enough hbound fun row₀ hrow₀ hid₀ hbound₀ => ?_
      rw [hplan.ports_eq]
      exact hfits _ hrequest (LaunchStart.accepts hplan hstart) row₀ hrow₀ hid₀ hbound₀

end Step

/-! ## Every run

The step lemma and the induction from an empty store, and a run in which an extension does not fit.
-/

/-- **Host-port exclusivity.** In every run from an empty store in which accepted requests extend
bound runtimes only within the free ports, every bound host port is leased to its runtime after
each call, and no two runtimes share one. -/
theorem hostPorts_exclusive (cfg : AppConfig) (volumes : Table VolumeEntity volumeKeys)
    {s : World} (hreach : Reachable cfg (ExtensionFits cfg) volumes s) :
    BindingsLeased s ∧ HostPortsExclusive s := by
  have hinv : BindingsLeased s :=
    hreach.invariant (fun r hr => absurd hr (Table.not_mem_empty r))
      fun c s tr x s' hinv hfits hexec => bindingsLeased_step hinv hfits hexec
  exact ⟨hinv, hinv.exclusive⟩

/-- A check of `ExtensionFits`. -/
def extensionFits (cfg : AppConfig) (c : SandboxCall) (s : World)
    (tr : List (Event requests World Answer)) : Bool :=
  (c.request s (drawnText tr)).all fun input => s.runtimes.rows.all fun row =>
    row.sandboxId != input.sandboxId ||
      decide ((specPorts cfg input.toSandboxSpecDto).length - row.portBindings.length ≤
        (freePorts cfg s).length)

theorem extensionFits_of_check (cfg : AppConfig) (c : SandboxCall) (s : World)
    (tr : List (Event requests World Answer)) (h : extensionFits cfg c s tr = true) :
    ExtensionFits cfg c s tr := by
  intro input hrequest _ row hrow hid _
  rw [extensionFits, hrequest, Option.all_some] at h
  have hfits := List.all_eq_true.mp h row hrow
  rw [hid, bne_self_eq_false, Bool.false_or] at hfits
  exact of_decide_eq_true hfits

/-- The runtimes `a` and `b` are bound, to three ports and to two. -/
def boundToFive (s : World) : Bool :=
  s.runtimes.rows.any fun r₁ => s.runtimes.rows.any fun r₂ =>
    (r₁.sandboxId == "a" && r₁.portBindings.length == 3) &&
      (r₂.sandboxId == "b" && r₂.portBindings.length == 2)

/-- Two sandboxes are created, and one of them is extended by a port. -/
theorem hostPorts_exclusive_extended : ∃ s, Reachable (smallConfig 31015)
      (ExtensionFits (smallConfig 31015)) .empty s ∧ BindingsLeased s ∧
    ∃ r₁ ∈ s.runtimes, ∃ r₂ ∈ s.runtimes, r₁.portBindings.length = 3 ∧
      r₂.portBindings.length = 2 ∧
        ∀ b₁ ∈ r₁.portBindings, ∀ b₂ ∈ r₂.portBindings, b₁.hostPort ≠ b₂.hostPort := by
  obtain ⟨s, hreach, hbound⟩ := exists_safe_reachable (smallConfig 31015) .empty
    (extensionFits_of_check (smallConfig 31015))
    [(.create { name := some "a" }, []), (.create { name := some "b" }, []),
     (.ensure
        { sandboxId := some "a"
          name := some "a"
          ports := some [{ containerPort := 8080 }, { containerPort := 8081 },
            { containerPort := 22 }] }, [])]
    boundToFive (by decide +kernel)
  simp only [boundToFive, List.any_eq_true, Bool.and_eq_true, beq_iff_eq] at hbound
  obtain ⟨r₁, hr₁, r₂, hr₂, ⟨hid₁, hlen₁⟩, hid₂, hlen₂⟩ := hbound
  obtain ⟨hleased, hexclusive⟩ := hostPorts_exclusive (smallConfig 31015) .empty hreach
  refine ⟨s, hreach, hleased, r₁, hr₁, r₂, hr₂, hlen₁, hlen₂, fun b₁ hb₁ b₂ hb₂ hport => ?_⟩
  -- were a host port shared, the two rows would be one
  have hsame := hexclusive r₁ hr₁ r₂ hr₂ b₁ hb₁ b₂ hb₂ hport
  rw [hsame, hid₂] at hid₁
  exact absurd hid₁ (by decide)

/-- Two stored runtimes share a host port. -/
def sharesHostPort (s : World) : Bool :=
  s.runtimes.rows.any fun r₁ => s.runtimes.rows.any fun r₂ => r₁.id != r₂.id &&
    r₁.portBindings.any fun b₁ => r₂.portBindings.any fun b₂ => b₁.hostPort == b₂.hostPort

/-- A host port that evaluation finds twice is not exclusive. -/
theorem not_exclusive_of_sharesHostPort {s : World} (h : sharesHostPort s = true) :
    ¬ HostPortsExclusive s := by
  simp only [sharesHostPort, List.any_eq_true, Bool.and_eq_true, bne_iff_ne, beq_iff_eq] at h
  obtain ⟨r₁, hr₁, r₂, hr₂, hne, b₁, hb₁, b₂, hb₂, hport⟩ := h
  exact fun hexcl => hne (congrArg RuntimeEntity.id (hexcl r₁ hr₁ r₂ hr₂ b₁ hb₁ b₂ hb₂ hport))

/-- With six ports in the range: `a` is created on two of them, asks for three more when two are
free, and loses its leases; `b` is then created on the ports `a` is still bound to. -/
theorem extension_breaks_leases :
    ¬ ∀ (cfg : AppConfig) (volumes : Table VolumeEntity volumeKeys) (s : World),
      Reachable cfg anyCall volumes s → BindingsLeased s ∧ HostPortsExclusive s := by
  intro hclaim
  obtain ⟨s, hreach, hshares⟩ := exists_reachable (smallConfig 31005) .empty
    [(.create { name := some "a" }, []),
     (.ensure
        { sandboxId := some "a"
          name := some "a"
          ports := some [{ containerPort := 8080 }, { containerPort := 8081 },
            { containerPort := 8082 }, { containerPort := 8083 }] }, []),
     (.create { name := some "b" }, [])]
    sharesHostPort (by decide +kernel)
  exact not_exclusive_of_sharesHostPort hshares (hclaim _ _ s hreach).2

end Microsandbox
