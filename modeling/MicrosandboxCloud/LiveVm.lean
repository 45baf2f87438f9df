import MicrosandboxCloud.Calls

/-!
# Microsandbox — the stored spec and the live VM

`provision` takes a healthy VM for the requested one when its row needs no re-creation. That is
right as long as the row says what the VM was created from.

* **`Describes`** — a row says what a VM was created from.
* **`Agrees`** — every bound row whose VM is live describes it, and no two rows share a VM name.
* **`VmSafe`** — the calls that keep this. A replacement writes the new spec into the row before it
  touches the VM; when it then runs out of ports, or the VM creation fails for good and leaves the
  old VM, the row must have said the same before.
* **`live_vm_agrees`** — in runs of such calls, a call that returns without creating a VM leaves one
  that was created from what the call asks for.
-/

namespace Microsandbox

open Process Data Text RuntimeControl Registry

/-! ## Rows and VMs

The columns of a row that say how its VM was created. The VM is known by the input of its creation,
so that a row describes its VM when the columns and the input agree. -/

/-- The mounts given to the backend are those of the records. -/
def MountsOf (volumes : Table VolumeEntity volumeKeys) (records : List RuntimeVolumeMountRecord)
    (inputs : List MountInput) : Prop :=
  List.Forall₂ (fun record input => ∃ volume ∈ volumes, volume.id = record.volumeId ∧
    input = ⟨volume.backendName, record.mountPath, record.readOnly⟩) records inputs

/-- The row says what the VM was created from. -/
structure Describes (volumes : Table VolumeEntity volumeKeys) (row : RuntimeEntity)
    (vm : CreateRuntimeInput) : Prop where
  image : vm.image = row.image
  command : vm.command = row.command
  command_ne : row.command ≠ some []
  env : vm.env = row.environment.getD []
  secrets : vm.secrets = row.secrets.getD []
  workingDir : vm.workingDir = row.workingDir
  ports : vm.ports = row.portBindings
  mounts : MountsOf volumes (row.mounts.getD []) vm.mounts
  cpu : vm.cpu = row.cpu
  memoryMiB : vm.memoryMiB = row.memoryMiB
  diskGiB : vm.diskGiB = row.diskGiB
  autoStopMinutes : vm.autoStopMinutes = row.autoStopMinutes

/-- The VM was created from the spec, on whatever ports. -/
structure RunsSpec (vm : CreateRuntimeInput) (spec : RuntimeSpec) : Prop where
  image : vm.image = spec.image
  command : vm.command = spec.command
  env : vm.env = spec.env
  secrets : vm.secrets = spec.secrets
  workingDir : vm.workingDir = spec.workingDir
  mounts : vm.mounts = spec.mountInputs
  cpu : vm.cpu = spec.cpu
  memoryMiB : vm.memoryMiB = spec.memoryMiB
  diskGiB : vm.diskGiB = spec.diskGiB
  autoStopMinutes : vm.autoStopMinutes = spec.autoStopMinutes

/-- The VM publishes the ports of the spec, in order, on the host ports of the row. -/
def PublishesPorts (vm : CreateRuntimeInput) (spec : RuntimeSpec) (row : RuntimeEntity) : Prop :=
  List.Forall₂ (fun published port => published.name = port.name ∧
    published.containerPort = port.containerPort ∧ published.protocol = port.protocol)
    vm.ports spec.ports ∧ vm.ports = row.portBindings

/-- Every bound row whose VM is live describes it, and no two rows share a VM name. -/
structure Agrees (s : World) : Prop where
  describes : ∀ r ∈ s.runtimes, r.portBindings ≠ [] → ∀ vm, s.vms r.sandboxName = some vm →
    Describes s.volumes r vm
  distinct : ∀ r₁ ∈ s.runtimes, ∀ r₂ ∈ s.runtimes, r₁.sandboxName = r₂.sandboxName → r₁ = r₂

/-! ## The condition

A row can come to say something else than its VM when a replacement is saved and the creation fails
after it, or for want of ports before it. `VmSafe` is the condition on such calls: what is left must
have been created from the request. A new runtime also has to get a VM name of its own. -/

/-- The call failed for good to create a VM, and the earlier one stayed. -/
def vmLeft (tr : List (Event requests World Answer)) : Bool :=
  tr.any fun ev =>
    match ev.op, ev.answer.failure with
    | .createDetachedRuntime _, some e =>
      !isTransientDetachedSetupError e && !ev.answer.createLosesVm
    | _, _ => false

/-- When an accepted request for a bound runtime ends without a new VM, for want of ports or
because the creation failed, the VM left is none or one that was created from what the request
asks for. And a request that adds a runtime gives its VM a name that no stored runtime has. -/
def VmSafe (cfg : AppConfig) (c : SandboxCall) (s : World)
    (tr : List (Event requests World Answer)) : Prop :=
  ∀ input, c.request s (drawnText tr) = some input → accepts s input = true →
    (∀ row ∈ s.runtimes, row.sandboxId = input.sandboxId → row.portBindings ≠ [] →
      ∀ vm, s.vms row.sandboxName = some vm →
        ((freePorts cfg s).length <
            (specPorts cfg input.toSandboxSpecDto).length - row.portBindings.length ∨
          vmLeft tr = true) →
        ∀ records inputs, Resolved s (input.volumes.getD []) records inputs →
          RunsSpec vm (specOf cfg input.toSandboxSpecDto records inputs)) ∧
    ((∀ row ∈ s.runtimes, row.sandboxId ≠ input.sandboxId) →
      (specPorts cfg input.toSandboxSpecDto).length ≤ (freePorts cfg s).length →
      ∀ vmName, sandboxName cfg input.sandboxId = .ok vmName →
        ∀ row ∈ s.runtimes, row.sandboxName ≠ vmName)

/-! ## What a row that is written says

A row that is saved at the end of a launch describes the new VM; a row that is replaced or saved
again describes what it described. -/

section Describes

variable {cfg : AppConfig} {s : World} {volumes : Table VolumeEntity volumeKeys}
  {input : ProvisionInput} {name : Option String} {spec : RuntimeSpec} {row : RuntimeEntity}
  {vm : CreateRuntimeInput}

/-- Resolving gives the records and the mounts of the same volumes. -/
theorem RuntimeControl.Resolved.mountsOf {mounts : List RuntimeVolumeMountDto}
    {records : List RuntimeVolumeMountRecord} {inputs : List MountInput}
    (h : Resolved s mounts records inputs) : MountsOf s.volumes records inputs := by
  induction h with
  | nil => exact .nil
  | cons hvolume href hsubpath hrest ih => exact .cons ⟨_, hvolume, rfl, rfl⟩ ih

/-- Records determine what the backend mounts, since a volume id names one volume. -/
theorem MountsOf.unique {records : List RuntimeVolumeMountRecord} {inputs inputs' : List MountInput}
    (h : MountsOf volumes records inputs) (h' : MountsOf volumes records inputs') :
    inputs = inputs' := by
  induction h generalizing inputs' with
  | nil => cases h'; rfl
  | cons hhead htail ih =>
    cases h' with
    | cons hhead' htail' =>
      obtain ⟨v, hv, hid, rfl⟩ := hhead
      obtain ⟨v', hv', hid', rfl⟩ := hhead'
      have hvolume : v = v' := Table.eq_of_clash hv hv' (Or.inl (hid.trans hid'.symm))
      rw [hvolume, ih htail']

theorem RuntimeControl.IsSpecOf.mountsOf (h : IsSpecOf cfg s input.toSandboxSpecDto spec) :
    MountsOf s.volumes spec.mounts spec.mountInputs := by
  obtain ⟨records, inputs, hresolved, rfl⟩ := h
  exact hresolved.mountsOf

/-- A spec has a command or none, never an empty one. -/
theorem RuntimeControl.IsSpecOf.command_ne (h : IsSpecOf cfg s input.toSandboxSpecDto spec) :
    spec.command ≠ some [] := by
  obtain ⟨records, inputs, -, rfl⟩ := h
  intro hcommand
  simp only [specOf] at hcommand
  split_ifs at hcommand with hempty
  rw [hcommand] at hempty
  exact hempty rfl

/-- What a launch saves describes the VM it created. -/
theorem describes_provisioned (hspec : IsSpecOf cfg s input.toSandboxSpecDto spec)
    (ports : List RuntimePortBindingRecord) (primary : RuntimePortBindingRecord)
    (appHealthy sshHealthy : Bool) (lastActiveAt : Option Int) :
    Describes s.volumes
      (provisionedRow name spec row ports primary appHealthy sshHealthy lastActiveAt)
      (createInput row spec ports) :=
  ⟨rfl, rfl, hspec.command_ne, rfl, rfl, rfl, rfl, hspec.mountsOf, rfl, rfl, rfl, rfl⟩

/-- What a replacement saves first describes the VM it found, if that ran the new spec. -/
theorem Describes.replacing (h : Describes s.volumes row vm)
    (hspec : IsSpecOf cfg s input.toSandboxSpecDto spec) (hruns : RunsSpec vm spec) :
    Describes s.volumes (replacingRow input name spec row) vm where
  image := hruns.image
  command := hruns.command
  command_ne := hspec.command_ne
  env := hruns.env
  secrets := hruns.secrets
  workingDir := hruns.workingDir
  ports := h.ports
  mounts := by
    rw [hruns.mounts]
    exact hspec.mountsOf
  cpu := hruns.cpu
  memoryMiB := hruns.memoryMiB
  diskGiB := hruns.diskGiB
  autoStopMinutes := hruns.autoStopMinutes

/-- A row that is saved with another status or name says what it said. -/
theorem Describes.withStatus (h : Describes volumes row vm) (status : RuntimeStatus)
    (reason : Option String) (lastActiveAt : Option Int) :
    Describes volumes (row.withStatus status reason lastActiveAt) vm :=
  ⟨h.image, h.command, h.command_ne, h.env, h.secrets, h.workingDir, h.ports, h.mounts, h.cpu,
    h.memoryMiB, h.diskGiB, h.autoStopMinutes⟩

/-- A row that is kept changes in nothing that says how its VM was created. -/
theorem Describes.synced (h : Describes volumes row vm) (name : Option String) (spec : RuntimeSpec)
    (lastActiveAt : Option Int) : Describes volumes (syncedRow name spec row lastActiveAt) vm :=
  ⟨h.image, h.command, h.command_ne, h.env, h.secrets, h.workingDir, h.ports, h.mounts, h.cpu,
    h.memoryMiB, h.diskGiB, h.autoStopMinutes⟩

/-- Two commands that compare as equal are equal, if an empty one is none. -/
theorem command_eq {a b : Option (List String)} (ha : a ≠ some []) (hb : b ≠ some [])
    (h : a.getD [] = b.getD []) : a = b := by
  rcases a with _ | _ | ⟨x, a⟩ <;> rcases b with _ | _ | ⟨y, b⟩ <;> simp_all

/-- A relation to a list that is numbered is one to the list. Induction on the list. -/
theorem forall₂_of_mapIdx {α β γ : Type} {R : α → β → Prop} {f : Nat → γ → β} {as : List α}
    {cs : List γ} (h : List.Forall₂ R as (cs.mapIdx f)) :
    List.Forall₂ (fun a c => ∃ i, R a (f i c)) as cs := by
  induction cs generalizing as f with
  | nil =>
    cases h
    exact .nil
  | cons c cs ih =>
    rw [List.mapIdx_cons] at h
    cases h with
    | cons hhead htail =>
      refine .cons ⟨0, hhead⟩ ((ih htail).imp ?_)
      rintro a c ⟨i, hi⟩
      exact ⟨i + 1, hi⟩

/-- **The comparison is sound.** A row that describes its VM and needs no re-creation has a VM that
was created from what is asked for. -/
theorem Describes.runsSpec (h : Describes s.volumes row vm) (hsame : Unchanged row spec name)
    (hspec : IsSpecOf cfg s input.toSandboxSpecDto spec) :
    RunsSpec vm spec ∧ PublishesPorts vm spec row := by
  constructor
  · have hcommand : row.command = spec.command :=
      command_eq h.command_ne hspec.command_ne hsame.command
    have hmounts : MountsOf s.volumes spec.mounts vm.mounts := hsame.mounts ▸ h.mounts
    exact ⟨h.image.trans hsame.image, h.command.trans hcommand, h.env.trans hsame.environment,
      h.secrets.trans hsame.secrets, h.workingDir.trans hsame.workingDir,
      hmounts.unique hspec.mountsOf, h.cpu.trans hsame.cpu, h.memoryMiB.trans hsame.memoryMiB,
      h.diskGiB.trans hsame.diskGiB, h.autoStopMinutes.trans hsame.autoStopMinutes⟩
  · refine ⟨?_, h.ports⟩
    rw [h.ports]
    refine (forall₂_of_mapIdx hsame.ports).imp ?_
    rintro binding port ⟨i, hsame⟩
    exact ⟨hsame.name, hsame.containerPort, hsame.protocol⟩

end Describes

/-! ## One call

The invariant says of every stored row and its VM that they agree. A call changes one row and one VM
at most, so that the others agree as before. -/

section Step

variable {cfg : AppConfig} {tr : List (Event requests World Answer)} {s s₁ s' : World}
  {input : ProvisionInput} {name : Option String} {spec : RuntimeSpec} {row : RuntimeEntity}

/-- Writing one row and its VM keeps the agreement when the row's name is its own and the row
describes the VM. -/
theorem Agrees.of_write (hinv : Agrees s) (saved : RuntimeEntity)
    (hrows : ∀ r ∈ s'.runtimes, r = saved ∨ (r ∈ s.runtimes ∧ r.id ≠ saved.id))
    (hname : ∀ r ∈ s.runtimes, r.id ≠ saved.id → r.sandboxName ≠ saved.sandboxName)
    (hvms : ∀ vmName, vmName ≠ saved.sandboxName → s'.vms vmName = s.vms vmName)
    (hvolumes : s'.volumes = s.volumes)
    (hown : saved.portBindings ≠ [] → ∀ vm, s'.vms saved.sandboxName = some vm →
      Describes s.volumes saved vm) : Agrees s' where
  describes := by
    intro r hr hbound vm hvm
    rw [hvolumes]
    rcases hrows r hr with rfl | ⟨hr, hne⟩
    · exact hown hbound vm hvm
    · rw [hvms _ (hname r hr hne)] at hvm
      exact hinv.describes r hr hbound vm hvm
  distinct := by
    intro r₁ hr₁ r₂ hr₂ heq
    -- two rows of one name: both are old, or both are the one that was written
    rcases hrows r₁ hr₁ with rfl | ⟨hr₁, hne₁⟩ <;> rcases hrows r₂ hr₂ with rfl | ⟨hr₂, hne₂⟩
    · rfl
    · exact absurd heq.symm (hname r₂ hr₂ hne₂)
    · exact absurd heq (hname r₁ hr₁ hne₁)
    · exact hinv.distinct r₁ hr₁ r₂ hr₂ heq

theorem Agrees.name_ne (hinv : Agrees s) (hrow : row ∈ s.runtimes) {r : RuntimeEntity}
    (hr : r ∈ s.runtimes) (hne : r.id ≠ row.id) : r.sandboxName ≠ row.sandboxName :=
  fun heq => hne (congrArg RuntimeEntity.id (hinv.distinct r hr row hrow heq))

/-- Saving a row that says what it said, while its VM stays or goes, keeps the agreement. -/
theorem Agrees.of_resave (hinv : Agrees s) (hrow : row ∈ s.runtimes) {saved : RuntimeEntity}
    (hsave : s.saveRuntime saved = some s₁) (hid : saved.id = row.id)
    (hname : saved.sandboxName = row.sandboxName)
    (hbindings : saved.portBindings = row.portBindings)
    (hfits : ∀ vm, Describes s.volumes row vm → Describes s.volumes saved vm)
    (hruntimes : s'.runtimes = s₁.runtimes) (hvms : VmKeptOrGone s row.sandboxName s')
    (hvolumes : s'.volumes = s.volumes) : Agrees s' := by
  refine hinv.of_write saved (fun r hr => ?_) (fun r hr hne => ?_) (fun vmName hne => ?_) hvolumes
    fun hbound vm hvm => hfits vm (hinv.describes row hrow (hbindings ▸ hbound) vm ?_)
  · rw [hruntimes] at hr
    exact (World.mem_saveRuntime hsave).mp hr
  · rw [hid] at hne
    rw [hname]
    exact hinv.name_ne hrow hr hne
  -- only the VM of this row may be gone
  · rw [hname] at hne
    rcases hvms with hvms | hvms
    · rw [hvms]
    · rw [hvms, Function.update_of_ne hne]
  · rw [hname] at hvm
    rcases hvms with hvms | hvms
    · rwa [hvms] at hvm
    · rw [hvms, Function.update_self] at hvm
      cases hvm

/-- What holds where a launch starts: only its row may have changed, and unless a new VM is created
the row describes the one that is there. -/
structure Launching (cfg : AppConfig) (tr : List (Event requests World Answer)) (s : World)
    (spec : RuntimeSpec) (row : RuntimeEntity) (s₁ : World) : Prop where
  rows : ∀ r ∈ s₁.runtimes, r = row ∨ (r ∈ s.runtimes ∧ r.id ≠ row.id)
  name : ∀ r ∈ s.runtimes, r.id ≠ row.id → r.sandboxName ≠ row.sandboxName
  vms : s₁.vms = s.vms
  own : row.portBindings ≠ [] →
    ((freePorts cfg s₁).length < spec.ports.length - row.portBindings.length ∨ vmLeft tr = true) →
    ∀ vm, s.vms row.sandboxName = some vm → Describes s.volumes row vm

/-- The three ways to a launch: a new row, a row that is replaced, and one that was found unhealthy.
-/
theorem RuntimeControl.LaunchStart.launching (hinv : Agrees s)
    (hplan : Planned cfg s input name spec)
    (hstart : LaunchStart cfg (· ∈ tr) input name spec s row s₁)
    (hleft : ∀ row ∈ s.runtimes, row.sandboxId = input.sandboxId → row.portBindings ≠ [] →
      ∀ vm, s.vms row.sandboxName = some vm →
      ((freePorts cfg s).length < spec.ports.length - row.portBindings.length ∨
        vmLeft tr = true) → RunsSpec vm spec)
    (hnewName : (∀ row ∈ s.runtimes, row.sandboxId ≠ input.sandboxId) →
      spec.ports.length ≤ (freePorts cfg s).length →
      ∀ vmName, sandboxName cfg input.sandboxId = .ok vmName →
        ∀ row ∈ s.runtimes, row.sandboxName ≠ vmName) :
    Launching cfg tr s spec row s₁ := by
  cases hstart with
  | unhealthy hrow hid hkeep =>
    refine ⟨fun r hr => ?_, fun r hr hne => hinv.name_ne hrow hr hne, rfl,
      fun hbound _ vm hvm => hinv.describes row hrow hbound vm hvm⟩
    -- the row is launched from as it stands
    by_cases hrid : r.id = row.id
    · exact Or.inl (World.eq_of_id hr hrow hrid)
    · exact Or.inr ⟨hr, hrid⟩
  | @replaced row₀ s₁ hrow hid hreplace hsave =>
    obtain ⟨-, hleases, hvms⟩ := World.saveRuntime_spec hsave
    refine ⟨fun r hr => (World.mem_saveRuntime hsave).mp hr,
      fun r hr hne => hinv.name_ne hrow hr hne, hvms, fun hbound hfails vm hvm => ?_⟩
    rw [freePorts_congr cfg hleases] at hfails
    -- the row has been saved already; only if the launch fails does the old VM have to match it
    have hruns : RunsSpec vm spec := hleft row₀ hrow hid hbound vm hvm hfails
    exact (hinv.describes row₀ hrow hbound vm hvm).replacing hplan.spec_eq hruns
  | @new vmName authToken primary now a s₁ s₂ hnew hvm hinsert hsafe henough hleased =>
    refine ⟨fun r hr => ?_, fun r hr _ => hnewName hnew henough vmName hvm r hr,
      hleased.vms.trans (World.insertRuntime_spec hinsert).2.2, fun hbound => absurd rfl hbound⟩
    rw [hleased.runtimes] at hr
    rcases (World.mem_insertRuntime hinsert).mp hr with hr | rfl
    · exact Or.inr ⟨hr, (s.runtimes_lt r hr).ne⟩
    · exact Or.inl rfl

/-- One case for each end of a launch. -/
theorem RuntimeControl.LaunchOutcome.agrees {x : Except ServiceError RuntimeSummary}
    (hinv : Agrees s) (hlaunch : Launching cfg tr s spec row s₁)
    (hspec : IsSpecOf cfg s input.toSandboxSpecDto spec) (hvolumes : s'.volumes = s.volumes)
    (h : LaunchOutcome cfg (· ∈ tr) name spec row s₁ x s') : Agrees s' := by
  cases h with
  | outOfPorts hfew hleases hruntimes hvms =>
    have hvms' : s'.vms = s.vms := hvms.trans hlaunch.vms
    refine hinv.of_write row (fun r hr => hlaunch.rows r (hruntimes ▸ hr)) hlaunch.name
      (fun vmName _ => by rw [hvms']) hvolumes fun hbound vm hvm => ?_
    rw [hvms'] at hvm
    exact hlaunch.own hbound (Or.inl hfew) vm hvm
  | @createFailed ports e a s₂ hports hfailure hhard hsafe =>
    have hvms₂ : s₂.vms = s.vms := hports.leased.vms.trans hlaunch.vms
    have hrows : (Microsandbox.createVm a (createInput row spec ports) s₂).runtimes = s₁.runtimes :=
      (createVm_tables a _ s₂).1.trans hports.leased.runtimes
    refine hinv.of_write row (fun r hr => hlaunch.rows r (hrows ▸ hr)) hlaunch.name
      (fun vmName hne => (createVm_vms_of_ne hne).trans (by rw [hvms₂])) hvolumes
      fun hbound vm hvm => ?_
    -- a VM that is still there was left by the failed creation
    cases hloses : a.createLosesVm with
    | true =>
      simp [Microsandbox.createVm, hfailure, hhard, hloses, World.setVm, createInput] at hvm
    | false =>
      have hleft : vmLeft tr = true :=
        List.any_eq_true.mpr ⟨_, hsafe, by simp [hfailure, hhard, hloses]⟩
      simp only [Microsandbox.createVm, hfailure, hhard, hloses, Bool.false_eq_true, if_false,
        hvms₂] at hvm
      exact hlaunch.own hbound (Or.inr hleft) vm hvm
  | @provisioned ports primary appHealthy sshHealthy lastActiveAt a s₂ s' hports hsafe hprimary
      hsave =>
    have hvms : s'.vms = Function.update s.vms row.sandboxName
        (some (createInput row spec ports)) := by
      rw [(World.saveRuntime_spec hsave).2.2, World.setVm, hports.leased.vms, hlaunch.vms]
    refine hinv.of_write
      (provisionedRow name spec row ports primary appHealthy sshHealthy lastActiveAt)
      (fun r hr => ?_) hlaunch.name (fun vmName hne => ?_) hvolumes fun _ vm hvm => ?_
    · rcases (World.mem_saveRuntime hsave).mp hr with rfl | ⟨hr, hne⟩
      · exact Or.inl rfl
      · have hr₁ : r ∈ s₁.runtimes := hports.leased.runtimes ▸ hr
        rcases hlaunch.rows r hr₁ with rfl | hold
        · exact absurd rfl hne
        · exact Or.inr hold
    · rw [hvms]
      exact Function.update_of_ne hne _ _
    · have hcreated : vm = createInput row spec ports := by
        change s'.vms row.sandboxName = some vm at hvm
        rw [hvms, Function.update_self] at hvm
        exact (Option.some.inj hvm).symm
      rw [hcreated]
      exact describes_provisioned hspec ports primary appHealthy sshHealthy lastActiveAt

/-- **One call.** -/
theorem agrees_step {c : SandboxCall} {x : Except ServiceError Reply} (hinv : Agrees s)
    (hsafe : VmSafe cfg c s tr) (hexec : Exec backend (c.prog cfg) s tr x s') : Agrees s' := by
  have hvolumes : s'.volumes = s.volumes := exec_volumes hexec
  cases call_outcome hexec with
  | refused hrequest => exact hinv
  | touched hrow hsave hruntimes hleases hvms hcall =>
    exact hinv.of_resave hrow hsave rfl rfl rfl (fun vm h => h.withStatus _ _ _) hruntimes hvms
      hvolumes
  | @deleted row s' x hrow hcall hruntimes hleases hvms hremoved =>
    have hold : ∀ r ∈ s'.runtimes, r ∈ s.runtimes ∧ r.id ≠ row.id := by
      intro r hr
      rw [hruntimes] at hr
      obtain ⟨hr, hne⟩ := Table.mem_delete.mp hr
      exact ⟨hr, by simpa using hne⟩
    refine ⟨fun r hr hbound vm hvm => ?_, fun r₁ hr₁ r₂ hr₂ => ?_⟩
    · -- the VM under another name is as it was
      obtain ⟨hr, hne⟩ := hold r hr
      rw [hvolumes]
      refine hinv.describes r hr hbound vm ?_
      rcases hvms with hvms | hvms
      · rwa [hvms] at hvm
      · rwa [hvms, Function.update_of_ne (hinv.name_ne hrow hr hne)] at hvm
    · exact hinv.distinct r₁ (hold r₁ hr₁).1 r₂ (hold r₂ hr₂).1
  | @provisioned input x s' hrequest hnormal houtcome =>
    cases houtcome with
    | refused hwhy => exact hinv
    | existing hplan hrow hid hforce hkeep hlive hsave =>
      exact hinv.of_resave hrow hsave rfl rfl rfl (fun vm h => h.synced _ _ _) rfl
        (Or.inl (World.saveRuntime_spec hsave).2.2) hvolumes
    | rolledBack hplan hnew hfew hleases hruntimes hvms =>
      refine ⟨fun r hr hbound vm hvm => ?_, fun r₁ hr₁ r₂ hr₂ => ?_⟩
      · rw [hruntimes] at hr
        rw [hvms] at hvm
        rw [hvolumes]
        exact hinv.describes r hr hbound vm hvm
      · rw [hruntimes] at hr₁ hr₂
        exact hinv.distinct r₁ hr₁ r₂ hr₂
    | launched hplan hstart houtcome =>
      -- what the launch may leave behind is what `VmSafe` speaks of
      obtain ⟨hleft, hname⟩ := hsafe input hrequest (LaunchStart.accepts hplan hstart)
      rw [← hplan.ports_eq] at hleft hname
      obtain ⟨records, inputs, hresolved, hspec⟩ := hplan.spec_eq
      refine houtcome.agrees hinv (hstart.launching hinv hplan ?_ hname) hplan.spec_eq hvolumes
      intro row hrow hid hbound vm hvm hfails
      rw [hspec]
      exact hleft row hrow hid hbound vm hvm hfails records inputs hresolved

end Step

/-! ## Every run

With the invariant, a provisioning call that asks for no VM has compared the request with a row that
describes the VM, and the comparison is sound. -/

/-- The call asked for a VM. -/
def createsVm (tr : List (Event requests World Answer)) : Bool :=
  tr.any fun ev =>
    match ev.op with
    | .createDetachedRuntime _ => true
    | _ => false

/-- After the call, the VM live under the name of the returned runtime was created from what the
request asks for. -/
def LiveAsRequested (cfg : AppConfig) (s : World) (input : ProvisionInput)
    (summary : RuntimeSummary) (s' : World) : Prop :=
  ∃ row ∈ s'.runtimes, row.id = summary.runtimeId ∧ ∃ vm, s'.vms row.sandboxName = some vm ∧
    ∃ spec, IsSpecOf cfg s input.toSandboxSpecDto spec ∧ RunsSpec vm spec ∧
      PublishesPorts vm spec row

/-- The end without a creation is the one in which the row was kept. -/
theorem RuntimeControl.ProvisionOutcome.liveAsRequested {cfg : AppConfig}
    {tr : List (Event requests World Answer)} {input : ProvisionInput} {summary : RuntimeSummary}
    {s s' : World} (h : ProvisionOutcome cfg (· ∈ tr) input s (.ok summary) s') (hinv : Agrees s)
    (hvm : createsVm tr = false) : LiveAsRequested cfg s input summary s' := by
  cases h with
  | @existing name spec row lastActiveAt s' hplan hrow hid hforce hkeep hlive hsave =>
    obtain ⟨vm, hvm⟩ := Option.ne_none_iff_exists'.mp hlive
    have hsame := requiresRecreate_eq_false hkeep
    -- a row without bindings would have been replaced, since a spec has a port at least
    have hbound : row.portBindings ≠ [] := by
      intro hnil
      have hlen := hsame.ports_length
      rw [hnil, List.length_nil] at hlen
      exact hplan.ports_ne_nil (List.length_eq_zero_iff.mp hlen.symm)
    have hdescribes := hinv.describes row hrow hbound vm hvm
    obtain ⟨hruns, hports⟩ := hdescribes.runsSpec hsame hplan.spec_eq
    refine ⟨syncedRow name spec row lastActiveAt, (World.mem_saveRuntime hsave).mpr (Or.inl rfl),
      rfl, vm, ?_, spec, hplan.spec_eq, hruns, hports⟩
    rw [(World.saveRuntime_spec hsave).2.2]
    exact hvm
  | launched hplan hstart houtcome =>
    cases houtcome with
    | provisioned hports hsafe hprimary hsave =>
      -- every other ending that returns has asked for a VM
      have hcreates : createsVm tr = true := List.any_eq_true.mpr ⟨_, hsafe, rfl⟩
      rw [hvm] at hcreates
      cases hcreates

/-- **Stored spec and live VM.** In every run from an empty store of calls that meet `VmSafe`, a
provisioning call that returns without asking for a VM leaves the runtime with a live VM that was
created from what the call asks for. -/
theorem live_vm_agrees (cfg : AppConfig) (volumes : Table VolumeEntity volumeKeys) {s : World}
    (hreach : Reachable cfg (VmSafe cfg) volumes s) {c : SandboxCall}
    {tr : List (Event requests World Answer)} {input : ProvisionInput} {summary : RuntimeSummary}
    {s' : World} (hrequest : c.request s (drawnText tr) = some input)
    (hexec : Exec backend (c.prog cfg) s tr (.ok (.summary summary)) s')
    (hvm : createsVm tr = false) : LiveAsRequested cfg s input summary s' := by
  have hinv : Agrees s :=
    hreach.invariant
      ⟨fun r hr => absurd hr (Table.not_mem_empty r), fun r hr => absurd hr (Table.not_mem_empty r)⟩
      fun c s tr x s' hinv hsafe hexec => agrees_step hinv hsafe hexec
  -- a call that returns a summary has gone through `provision`
  generalize hx : (Except.ok (Reply.summary summary) : Except ServiceError Reply) = x at hexec
  cases call_outcome hexec with
  | refused hnone => simp [hnone] at hrequest
  | touched hrow hsave hruntimes hleases hvms hcall =>
    simp [SandboxCall.request_eq_none hcall] at hrequest
  | deleted hrow hcall hruntimes hleases hvms hremoved =>
    obtain ⟨value, v, rfl, -⟩ := hcall
    simp [SandboxCall.request] at hrequest
  | @provisioned input' x s' hrequest' hnormal houtcome =>
    obtain rfl : input = input' := Option.some.inj (hrequest.symm.trans hrequest')
    cases x with
    | error e => cases hx
    | ok summary' =>
      cases hx
      exact houtcome.liveAsRequested hinv hvm

/-- Evaluating the call from `s` returns a summary without a VM creation, and `q` holds of what it
returns. -/
def returnsKeeping (cfg : AppConfig) (c : SandboxCall)
    (q : ProvisionInput → RuntimeSummary → World → Bool) (s : World) : Bool :=
  (run backend (c.prog cfg) [] s).any fun r =>
    match r.2.1, c.request s (drawnText r.1) with
    | .ok (.summary summary), some input => !createsVm r.1 && q input summary r.2.2
    | _, _ => false

/-- What evaluation finds is a run of the call. -/
theorem exists_of_returnsKeeping {cfg : AppConfig} {c : SandboxCall}
    {q : ProvisionInput → RuntimeSummary → World → Bool} {s : World}
    (h : returnsKeeping cfg c q s = true) : ∃ tr input summary s',
      c.request s (drawnText tr) = some input ∧
      Exec backend (c.prog cfg) s tr (.ok (.summary summary)) s' ∧ createsVm tr = false ∧
      q input summary s' = true := by
  obtain ⟨⟨tr, x, s'⟩, hrun, hq⟩ := (Option.any_eq_true _ _).mp h
  dsimp only at hq
  split at hq
  · rename_i summary input hrequest
    rw [Bool.and_eq_true, Bool.not_eq_true'] at hq
    exact ⟨tr, input, summary, s', hrequest, exec_of_run hrun, hq.1, hq.2⟩
  · cases hq

/-- The first request is safe however it goes. -/
theorem vmSafe_of_isEmpty (cfg : AppConfig) (c : SandboxCall) (s : World)
    (tr : List (Event requests World Answer)) (h : s.runtimes.rows.isEmpty = true) :
    VmSafe cfg c s tr := by
  have hnone : ∀ row, row ∉ s.runtimes := by
    intro row hrow
    rw [Table.mem_def, List.isEmpty_iff.mp h] at hrow
    exact absurd hrow List.not_mem_nil
  intro input _ _
  exact ⟨fun row hrow => absurd hrow (hnone row), fun _ _ _ _ row hrow => absurd hrow (hnone row)⟩

/-- A sandbox is created, and then asked for as it is. -/
theorem live_vm_agrees_ensure : ∃ s input summary s', s.runtimes.rows.length = 1 ∧
    LiveAsRequested (smallConfig 31005) s input summary s' := by
  obtain ⟨s, hreach, hp⟩ := exists_safe_reachable (smallConfig 31005) .empty
    (vmSafe_of_isEmpty (smallConfig 31005)) [(.create { name := some "a" }, [])]
    (fun s => s.runtimes.rows.length == 1 && returnsKeeping (smallConfig 31005)
      (.ensure { sandboxId := some "a", name := some "a" }) (fun _ _ _ => true) s)
    (by decide +kernel)
  rw [Bool.and_eq_true, beq_iff_eq] at hp
  obtain ⟨tr, input, summary, s', hrequest, hexec, hvm, -⟩ := exists_of_returnsKeeping hp.2
  exact ⟨s, input, summary, s', hp.1,
    live_vm_agrees (smallConfig 31005) .empty hreach hrequest hexec hvm⟩

/-- The VM live under the name of the returned runtime has another image than the request. -/
def wrongImage (cfg : AppConfig) (input : ProvisionInput) (summary : RuntimeSummary) (s' : World) :
    Bool :=
  s'.runtimes.rows.all fun r => r.id != summary.runtimeId ||
    (s'.vms r.sandboxName).map (·.image) != some ((trimmed input.image).getD cfg.defaultImage)

/-- Another image is another VM than was asked for. -/
theorem not_liveAsRequested_of_wrongImage {cfg : AppConfig} {s s' : World} {input : ProvisionInput}
    {summary : RuntimeSummary} (h : wrongImage cfg input summary s' = true) :
    ¬ LiveAsRequested cfg s input summary s' := by
  rintro ⟨row, hrow, hid, vm, hvm, spec, ⟨records, inputs, -, rfl⟩, hruns, -⟩
  have himage : vm.image = (trimmed input.image).getD cfg.defaultImage := hruns.image
  have hwrong := List.all_eq_true.mp h row hrow
  rw [hvm] at hwrong
  simp [hid, himage] at hwrong

/-- The sandbox `a` is asked for with another image; the VM creation fails for good and leaves the
old VM. The row already has the new image, so asking again finds nothing to do. -/
theorem failed_replacement_goes_unnoticed :
    ¬ ∀ (cfg : AppConfig) (volumes : Table VolumeEntity volumeKeys) (s : World),
      Reachable cfg anyCall volumes s → ∀ (c : SandboxCall)
        (tr : List (Event requests World Answer)) (input : ProvisionInput)
        (summary : RuntimeSummary) (s' : World), c.request s (drawnText tr) = some input →
        Exec backend (c.prog cfg) s tr (.ok (.summary summary)) s' → createsVm tr = false →
        LiveAsRequested cfg s input summary s' := by
  intro hclaim
  let again : SandboxCall :=
    .ensure { sandboxId := some "a", name := some "a", image := some "other:latest" }
  -- the fourth request of the second call is the creation, which fails and leaves the old VM
  obtain ⟨s, hreach, hp⟩ := exists_reachable (smallConfig 31005) .empty
    [(.create { name := some "a" }, []),
     (again, [{}, {}, {}, { failure := some ⟨.error, "image pull failed"⟩ }])]
    (returnsKeeping (smallConfig 31005) again (wrongImage (smallConfig 31005)))
    (by decide +kernel)
  obtain ⟨tr, input, summary, s', hrequest, hexec, hvm, hwrong⟩ := exists_of_returnsKeeping hp
  exact not_liveAsRequested_of_wrongImage hwrong
    (hclaim _ _ s hreach again tr input summary s' hrequest hexec hvm)

end Microsandbox
