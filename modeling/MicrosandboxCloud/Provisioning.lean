import MicrosandboxCloud.Leasing
import MicrosandboxCloud.Comparison

/-!
# Microsandbox — everything a provisioning run can do

One inversion of `provision`, from which every property of calls run one at a time is derived.

* **`LaunchStart`** — the row and the world a launch starts from: an unhealthy existing row, a row
  overwritten with the new spec, or a new row that already holds leases.
* **`LaunchOutcome`** — how a launch ends: out of ports, a failed VM creation, or provisioned.
* **`ProvisionOutcome`** — how `provision` ends; `provision_spec` says that nothing else happens.
-/

namespace Microsandbox

open Process Data Text

namespace RuntimeControl

open Registry

/-! ## The spec of a request

`buildSpec` and the name check only read. What they settle before the first write depends on the
request and on the state. -/

/-- A reference to a volume, by id or by name, can resolve to `volume`. -/
def Refers (value : String) (volume : VolumeEntity) : Prop :=
  ∃ name, normalizeName (some value) = .ok (some name) ∧ (volume.id = value ∨ volume.name = name)

/-- The mounts of a request resolve to these records and backend inputs. -/
inductive Resolved (s : World) : List RuntimeVolumeMountDto → List RuntimeVolumeMountRecord →
    List MountInput → Prop where
  | nil : Resolved s [] [] []
  | cons {mount : RuntimeVolumeMountDto} {rest : List RuntimeVolumeMountDto}
      {volume : VolumeEntity} {records : List RuntimeVolumeMountRecord} {inputs : List MountInput}
      (hvolume : volume ∈ s.volumes) (href : Refers mount.volumeId volume)
      (hsubpath : trimmed mount.subpath = none) (hrest : Resolved s rest records inputs) :
      Resolved s (mount :: rest) (mountRecord volume mount :: records)
        (mountInput volume mount :: inputs)

/-- `spec` is what `buildSpec` can make of a request. -/
def IsSpecOf (cfg : AppConfig) (s : World) (input : SandboxSpecDto) (spec : RuntimeSpec) : Prop :=
  ∃ records inputs, Resolved s (input.volumes.getD []) records inputs ∧
    spec = specOf cfg input records inputs

/-- What the name check leaves open: nobody uses the name, or a row that the lookup can return
belongs to the sandbox itself. -/
def NameAvailable (s : World) (name : Option String) (sandboxId : String) : Prop :=
  ∀ n, name = some n →
    (∀ r ∈ s.runtimes, r.sandboxId ≠ n ∧ r.name ≠ some n) ∨
    ∃ r ∈ s.runtimes, (r.sandboxId = n ∨ r.name = some n) ∧ r.sandboxId = sandboxId

/-- What a request has settled before the first write. -/
structure Planned (cfg : AppConfig) (s : World) (input : ProvisionInput) (name : Option String)
    (spec : RuntimeSpec) : Prop where
  name_eq : normalizeName input.name = .ok name
  available : NameAvailable s name input.sandboxId
  spec_eq : IsSpecOf cfg s input.toSandboxSpecDto spec

/-- Without ports and without a primary port, the default port is there. -/
theorem resolvePorts_ne_nil (cfg : AppConfig) (ports : Option (List RuntimePortDto))
    (primaryPort : Option RuntimePortDto) : resolvePorts cfg ports primaryPort ≠ [] := by
  unfold resolvePorts
  cases hports : ports.getD [] <;> simp

/-- A spec always has a port. -/
theorem specPorts_ne_nil (cfg : AppConfig) (input : SandboxSpecDto) : specPorts cfg input ≠ [] := by
  unfold specPorts
  have h := resolvePorts_ne_nil cfg input.ports input.primaryPort
  simp only [ne_eq, List.map_eq_nil_iff]
  split_ifs
  · simp
  · exact h

/-- The ports of a planned spec are those of the request. -/
theorem Planned.ports_eq {cfg : AppConfig} {s : World} {input : ProvisionInput}
    {name : Option String} {spec : RuntimeSpec} (h : Planned cfg s input name spec) :
    spec.ports = specPorts cfg input.toSandboxSpecDto := by
  obtain ⟨records, inputs, -, rfl⟩ := h.spec_eq
  rfl

/-- So a planned spec has a port, and `firstPortBinding` does not fail. -/
theorem Planned.ports_ne_nil {cfg : AppConfig} {s : World} {input : ProvisionInput}
    {name : Option String} {spec : RuntimeSpec} (h : Planned cfg s input name spec) :
    spec.ports ≠ [] := by
  rw [h.ports_eq]
  exact specPorts_ne_nil cfg _

/-! ## Assigned ports

A binding of the row keeps its host port and gives it to the port of the spec at the same position;
the ports of the spec beyond them get the leased ones. -/

/-- Assigning host ports neither adds ports nor drops any. -/
theorem setHostPorts_length (ports : List RuntimePortBindingRecord) (leased : List Int) :
    (setHostPorts ports leased).length = ports.length := by
  induction ports generalizing leased with
  | nil => cases leased <;> rfl
  | cons port ports ih => cases leased <;> simp [setHostPorts, ih]

/-- The same, with the bindings of the row first. Induction on the bindings. -/
theorem assignHostPorts_length (existing ports : List RuntimePortBindingRecord)
    (leased : List Int) : (assignHostPorts existing ports leased).length = ports.length := by
  induction existing generalizing ports with
  | nil => exact setHostPorts_length ports leased
  | cons binding existing ih =>
    cases ports with
    | nil => rfl
    | cons port ports => simp [assignHostPorts, ih]

/-- The second round of leases overwrites the first. -/
theorem setHostPorts_setHostPorts {ports : List RuntimePortBindingRecord}
    {leased leased' : List Int}
    (h : leased'.length = ports.length) :
    setHostPorts (setHostPorts ports leased) leased' = setHostPorts ports leased' := by
  induction ports generalizing leased leased' with
  | nil => cases leased <;> cases leased' <;> rfl
  | cons port ports ih =>
    cases leased' with
    | nil => simp at h
    | cons hostPort leased' =>
      cases leased with
      | nil => rfl
      | cons first leased =>
        simp only [setHostPorts, List.cons.injEq, true_and]
        exact ih (by simpa using h)

/-- The ports of a launch: those of the row's bindings, and the lowest free ones beyond them. -/
structure PortsAssigned (cfg : AppConfig) (s : World) (row : RuntimeEntity) (spec : RuntimeSpec)
    (ports : List RuntimePortBindingRecord) (s₁ : World) : Prop where
  enough : spec.ports.length - row.portBindings.length ≤ (freePorts cfg s).length
  leased : Leased s row.id
    ((freePorts cfg s).take (spec.ports.length - row.portBindings.length)) s₁
  ports_eq : ports = assignHostPorts row.portBindings spec.ports
    ((freePorts cfg s).take (spec.ports.length - row.portBindings.length))

/-- A launch assigns as many ports as the spec has. -/
theorem PortsAssigned.length {cfg : AppConfig} {s s₁ : World} {row : RuntimeEntity}
    {spec : RuntimeSpec} {ports : List RuntimePortBindingRecord}
    (h : PortsAssigned cfg s row spec ports s₁) : ports.length = spec.ports.length := by
  rw [h.ports_eq, assignHostPorts_length]

/-! ## Outcomes

One inductive type for each stage, with one constructor for each way it can end. Later proofs go by
cases on them and never open the programs again. -/

section Outcomes

variable (cfg : AppConfig) (safe : Event requests World Answer → Prop)

/-- How a launch ends. When the ports do not suffice, the leases of the runtime are gone and the row
is as it was. When the VM cannot be made, for a reason that is not transient, the row and its new
leases stay. Otherwise the row is saved with its ports, and the status is what the ports have shown.
-/
inductive LaunchOutcome (name : Option String) (spec : RuntimeSpec) (row : RuntimeEntity)
    (s : World) : Except ServiceError RuntimeSummary → World → Prop where
  | outOfPorts {s' : World}
      (hfew : (freePorts cfg s).length < spec.ports.length - row.portBindings.length)
      (hleases : s'.portLeases = s.portLeases.delete fun l => l.runtimeId == row.id)
      (hruntimes : s'.runtimes = s.runtimes) (hvms : s'.vms = s.vms) :
      LaunchOutcome name spec row s (.error noFreePorts) s'
  | createFailed {ports : List RuntimePortBindingRecord} {e : ServiceError} {a : Answer}
      {s₁ : World} (hports : PortsAssigned cfg s row spec ports s₁)
      (hfailure : a.failure = some e) (hhard : isTransientDetachedSetupError e = false)
      (hsafe : safe ⟨s₁, Request.createDetachedRuntime (createInput row spec ports), a⟩) :
      LaunchOutcome name spec row s (.error e)
        (Microsandbox.createVm a (createInput row spec ports) s₁)
  | provisioned {ports : List RuntimePortBindingRecord} {primary : RuntimePortBindingRecord}
      {appHealthy sshHealthy : Bool} {lastActiveAt : Option Int} {a : Answer} {s₁ s' : World}
      (hports : PortsAssigned cfg s row spec ports s₁)
      (hsafe : safe ⟨s₁, Request.createDetachedRuntime (createInput row spec ports), a⟩)
      (hprimary : firstPortBinding ports = .ok primary)
      (hsave : (s₁.setVm row.sandboxName (some (createInput row spec ports))).saveRuntime
        (provisionedRow name spec row ports primary appHealthy sshHealthy lastActiveAt) =
          some s') :
      LaunchOutcome name spec row s (.ok (runtimeStatusSummary
        (provisionedRow name spec row ports primary appHealthy sshHealthy lastActiveAt))) s'

/-- Where a launch starts: with a stored row whose VM is not healthy, with a stored row that was
overwritten for a re-creation, or with a new row for which every port is leased already. -/
inductive LaunchStart (input : ProvisionInput) (name : Option String) (spec : RuntimeSpec)
    (s : World) : RuntimeEntity → World → Prop where
  | unhealthy {row : RuntimeEntity} (hrow : row ∈ s.runtimes)
      (hid : row.sandboxId = input.sandboxId) (hkeep : requiresRecreate row spec name = false) :
      LaunchStart input name spec s row s
  | replaced {row : RuntimeEntity} {s₁ : World} (hrow : row ∈ s.runtimes)
      (hid : row.sandboxId = input.sandboxId)
      (hreplace : input.forceRecreate = some true ∨ requiresRecreate row spec name = true)
      (hsave : s.saveRuntime (replacingRow input name spec row) = some s₁) :
      LaunchStart input name spec s (replacingRow input name spec row) s₁
  | new {vmName authToken : String} {primary : RuntimePortBindingRecord} {now : Int} {a : Answer}
      {s₁ s₂ : World} (hnew : ∀ r ∈ s.runtimes, r.sandboxId ≠ input.sandboxId)
      (hvm : sandboxName cfg input.sandboxId = .ok vmName)
      (hinsert : s.insertRuntime
        (newRow input.sandboxId vmName authToken name spec primary now) = some s₁)
      (hsafe : safe ⟨s, Request.insertRuntime
        (newRow input.sandboxId vmName authToken name spec primary now), a⟩)
      (henough : spec.ports.length ≤ (freePorts cfg s).length)
      (hleased : Leased s₁ s.nextRuntimeId ((freePorts cfg s).take spec.ports.length) s₂) :
      LaunchStart input name spec s
        ((newRow input.sandboxId vmName authToken name spec primary now).withId
          s.nextRuntimeId) s₂

/-- Why a mount is refused. -/
def MountRefused (s : World) (mount : RuntimeVolumeMountDto) (e : ServiceError) : Prop :=
  (trimmed mount.subpath ≠ none ∧ e = subpathNotSupported) ∨
    ((∀ volume ∈ s.volumes, ¬ Refers mount.volumeId volume) ∧
      (e = volumeNotFound mount.volumeId ∨ normalizeName (some mount.volumeId) = .error e))

/-- Why provisioning is refused before anything is written. -/
inductive Refusal (input : ProvisionInput) (s : World) : ServiceError → Prop where
  | badName {e : ServiceError} (hname : normalizeName input.name = .error e) : Refusal input s e
  | nameTaken {name : String} {r : RuntimeEntity}
      (hname : normalizeName input.name = .ok (some name)) (hr : r ∈ s.runtimes)
      (huse : r.sandboxId = name ∨ r.name = some name) (hother : r.sandboxId ≠ input.sandboxId) :
      Refusal input s (nameExists name)
  | badMount {e : ServiceError} {mount : RuntimeVolumeMountDto}
      (hmount : mount ∈ input.volumes.getD []) (hrefused : MountRefused s mount e) :
      Refusal input s e
  | nameStored {name : String} {r : RuntimeEntity}
      (hname : normalizeName input.name = .ok (some name)) (hr : r ∈ s.runtimes)
      (hstored : r.name = some name) (hother : r.sandboxId ≠ input.sandboxId) :
      Refusal input s uniqueViolation
  | filesFailed {name : Option String} {spec : RuntimeSpec} {row : RuntimeEntity}
      {e : ServiceError} {a : Answer} (hplan : Planned cfg s input name spec)
      (hrow : row ∈ s.runtimes) (hid : row.sandboxId = input.sandboxId)
      (hkeep : requiresRecreate row spec name = false) (hfailure : a.failure = some e)
      (hsafe : safe ⟨s, Request.writeFiles row.sandboxName spec.files, a⟩) : Refusal input s e

/-- How provisioning ends. It is refused before it writes anything; or a healthy sandbox is brought
up to date; or a new row is taken back for want of ports; or a launch runs, from one of its starts
to one of its ends. -/
inductive ProvisionOutcome (input : ProvisionInput) (s : World) :
    Except ServiceError RuntimeSummary → World → Prop where
  | refused {e : ServiceError} (hwhy : Refusal cfg safe input s e) :
      ProvisionOutcome input s (.error e) s
  | existing {name : Option String} {spec : RuntimeSpec} {row : RuntimeEntity}
      {lastActiveAt : Option Int} {s' : World} (hplan : Planned cfg s input name spec)
      (hrow : row ∈ s.runtimes) (hid : row.sandboxId = input.sandboxId)
      (hforce : input.forceRecreate ≠ some true)
      (hkeep : requiresRecreate row spec name = false) (hlive : s.vms row.sandboxName ≠ none)
      (hsave : s.saveRuntime (syncedRow name spec row lastActiveAt) = some s') :
      ProvisionOutcome input s
        (.ok (runtimeStatusSummary (syncedRow name spec row lastActiveAt))) s'
  | rolledBack {name : Option String} {spec : RuntimeSpec} {s' : World}
      (hplan : Planned cfg s input name spec)
      (hnew : ∀ r ∈ s.runtimes, r.sandboxId ≠ input.sandboxId)
      (hfew : (freePorts cfg s).length < spec.ports.length)
      (hleases : s'.portLeases = s.portLeases) (hruntimes : s'.runtimes = s.runtimes)
      (hvms : s'.vms = s.vms) : ProvisionOutcome input s (.error noFreePorts) s'
  | launched {name : Option String} {spec : RuntimeSpec} {row : RuntimeEntity} {s₁ s' : World}
      {x : Except ServiceError RuntimeSummary} (hplan : Planned cfg s input name spec)
      (hstart : LaunchStart cfg safe input name spec s row s₁)
      (houtcome : LaunchOutcome cfg safe name spec row s₁ x s') : ProvisionOutcome input s x s'

end Outcomes

/-! ## The stages

One lemma for each stage of the program, in its order. The small ones are stated for a stage with
its continuation, so that the proof of `provision_spec` follows the text of `provision`. -/

section Stages

variable {cfg : AppConfig} {safe : Event requests World Answer → Prop} {s : World}

/-- A volume that a mount may mean, or the reason why the mount is refused. -/
theorem ensures_requireVolume {α : Type} {mount : RuntimeVolumeMountDto}
    {k : VolumeEntity → Async α} {Q : Except ServiceError α → World → Prop}
    (hok : ∀ volume ∈ s.volumes, Refers mount.volumeId volume → Ensures backend safe (k volume) s Q)
    (herr : ∀ e, MountRefused s mount e → Q (.error e) s) :
    Ensures backend safe (requireVolume mount.volumeId >>= k) s Q := by
  unfold requireVolume Registry.findVolumeByIdOrName
  rw [Prog.bind_assoc, Prog.bind_assoc]
  refine ensures_sync (fun normalized hnormalized => ?_) fun e he => herr e (Or.inr ⟨?_, Or.inr he⟩)
  · cases normalized with
    -- a reference that is blank means no volume
    | none =>
      refine Ensures.throw (herr _ (Or.inr ⟨?_, Or.inl rfl⟩))
      rintro volume - ⟨name, hname, -⟩
      simp [hnormalized] at hname
    | some name =>
      refine ensures_findVolume (fun volume hvolume hsel => ?_) fun hnone => ?_
      · exact hok volume hvolume ⟨name, hnormalized, hsel⟩
      · refine Ensures.throw (herr _ (Or.inr ⟨?_, Or.inl rfl⟩))
        rintro volume hvolume ⟨name', hname, href⟩
        rw [hnormalized] at hname
        cases hname
        exact href.elim (hnone volume hvolume).1 (hnone volume hvolume).2
  · rintro volume - ⟨name, hname, -⟩
    simp [he] at hname

/-- Induction on the mounts: all of them resolve, or the first one that does not is refused. Nothing
is written. -/
theorem resolveVolumes_spec (mounts : List RuntimeVolumeMountDto) :
    Ensures backend safe (resolveVolumes mounts) s fun x s' => s' = s ∧
      ((∃ p, x = .ok p ∧ Resolved s mounts p.1 p.2) ∨
        ∃ e mount, x = .error e ∧ mount ∈ mounts ∧ MountRefused s mount e) := by
  induction mounts with
  | nil => exact Ensures.pure ⟨rfl, Or.inl ⟨_, rfl, .nil⟩⟩
  | cons mount rest ih =>
    unfold resolveVolumes
    refine ensures_requireVolume (fun volume hvolume href => ?_)
      fun e he => ⟨rfl, Or.inr ⟨e, mount, rfl, List.mem_cons_self, he⟩⟩
    split_ifs with hsubpath
    · exact Ensures.throw ⟨rfl, Or.inr ⟨_, mount, rfl, List.mem_cons_self, Or.inl ⟨hsubpath, rfl⟩⟩⟩
    · refine Ensures.bind (ih.mono ?_)
      rintro x s₁ ⟨rfl, ⟨p, rfl, hresolved⟩ | ⟨e, m, rfl, hm, hrefused⟩⟩
      · exact Ensures.pure ⟨rfl, Or.inl ⟨_, rfl,
          .cons hvolume href (by simpa using hsubpath) hresolved⟩⟩
      · exact ⟨rfl, Or.inr ⟨e, m, rfl, List.mem_cons_of_mem _ hm, hrefused⟩⟩

/-- A spec of the request, or a refused mount. -/
theorem ensures_buildSpec {α : Type} {input : SandboxSpecDto} {k : RuntimeSpec → Async α}
    {Q : Except ServiceError α → World → Prop}
    (hok : ∀ spec, IsSpecOf cfg s input spec → Ensures backend safe (k spec) s Q)
    (herr : ∀ e, ∀ mount ∈ input.volumes.getD [], MountRefused s mount e → Q (.error e) s) :
    Ensures backend safe (buildSpec cfg input >>= k) s Q := by
  unfold buildSpec
  rw [Prog.bind_assoc]
  refine Ensures.bind ((resolveVolumes_spec _).mono ?_)
  rintro x s₁ ⟨rfl, ⟨p, rfl, hresolved⟩ | ⟨e, mount, rfl, hmount, hrefused⟩⟩
  · exact hok _ ⟨p.1, p.2, hresolved, rfl⟩
  · exact herr e mount hmount hrefused

/-- A lookup under a normal form looks that very text up. -/
theorem ensures_findRuntimeBySandboxIdOrName {α : Type} {value : String}
    {k : Option RuntimeEntity → Async α} {Q : Except ServiceError α → World → Prop}
    (hvalue : IsNormal value)
    (hsome : ∀ r ∈ s.runtimes, (r.sandboxId = value ∨ r.name = some value) →
      Ensures backend safe (k (some r)) s Q)
    (hnone : (∀ r ∈ s.runtimes, r.sandboxId ≠ value ∧ r.name ≠ some value) →
      Ensures backend safe (k none) s Q) :
    Ensures backend safe (Registry.findRuntimeBySandboxIdOrName value >>= k) s Q := by
  unfold Registry.findRuntimeBySandboxIdOrName
  rw [normalizeSandboxId_eq_self hvalue, Prog.bind_assoc]
  refine ensures_findRuntime (fun r hr hsel => hsome r hr ?_) fun h => hnone fun r hr => ?_
  · simpa [RuntimeQuery.selects] using hsel
  · simpa [RuntimeQuery.selects] using h r hr

/-- The same for a lookup by id alone. -/
theorem ensures_findRuntimeBySandboxId {α : Type} {value : String}
    {k : Option RuntimeEntity → Async α} {Q : Except ServiceError α → World → Prop}
    (hvalue : IsNormal value)
    (hsome : ∀ r ∈ s.runtimes, r.sandboxId = value → Ensures backend safe (k (some r)) s Q)
    (hnone : (∀ r ∈ s.runtimes, r.sandboxId ≠ value) → Ensures backend safe (k none) s Q) :
    Ensures backend safe (Registry.findRuntimeBySandboxId value >>= k) s Q := by
  unfold Registry.findRuntimeBySandboxId
  rw [normalizeSandboxId_eq_self hvalue, Prog.bind_assoc]
  refine ensures_findRuntime (fun r hr hsel => hsome r hr ?_) fun h => hnone fun r hr => ?_
  · simpa [RuntimeQuery.selects] using hsel
  · simpa [RuntimeQuery.selects] using h r hr

/-- The name is available, or it is refused because of a runtime that is not the sandbox itself.
Which of two rows the lookup returns is left open. -/
theorem ensures_checkName {α : Type} {input : ProvisionInput} {name : Option String}
    {k : Unit → Async α} {Q : Except ServiceError α → World → Prop}
    (hname : normalizeName input.name = .ok name)
    (hok : NameAvailable s name input.sandboxId → Ensures backend safe (k ()) s Q)
    (herr : ∀ n, name = some n → ∀ r ∈ s.runtimes, (r.sandboxId = n ∨ r.name = some n) →
      r.sandboxId ≠ input.sandboxId → Q (.error (nameExists n)) s) :
    Ensures backend safe (checkName name input.sandboxId >>= k) s Q := by
  cases name with
  | none => exact hok fun n hn => by simp at hn
  | some name =>
    unfold checkName
    rw [Prog.bind_assoc]
    refine ensures_findRuntimeBySandboxIdOrName (normalizeName_isNormal hname)
      (fun r hr hsel => ?_) fun hnone => ?_
    -- the row that answers to the name may be the sandbox itself
    · by_cases hid : r.sandboxId = input.sandboxId
      · simp only [hid, ne_eq, not_true_eq_false, if_false]
        refine hok fun n hn => Or.inr ⟨r, hr, ?_, hid⟩
        rwa [← Option.some.inj hn]
      · simp only [ne_eq, hid, not_false_eq_true, if_true]
        exact Ensures.throw (herr name rfl r hr hsel hid)
    · refine hok fun n hn => Or.inl ?_
      rwa [← Option.some.inj hn]

/-- The time of the last activity may be anything. -/
theorem ensures_nextActivity {α : Type} {input : ProvisionInput} {row : RuntimeEntity}
    {k : Option Int → Async α} {Q : Except ServiceError α → World → Prop}
    (hk : ∀ lastActiveAt, Ensures backend safe (k lastActiveAt) s Q) :
    Ensures backend safe (nextActivity input row >>= k) s Q := by
  unfold nextActivity
  split_ifs
  · exact hk _
  · rw [Prog.bind_assoc]
    exact ensures_read trivial fun now => hk (some now)

theorem ensures_sshHealth {α : Type} {spec : RuntimeSpec} {ports : List RuntimePortBindingRecord}
    {k : Bool → Async α} {Q : Except ServiceError α → World → Prop}
    (hk : ∀ healthy, Ensures backend safe (k healthy) s Q) :
    Ensures backend safe (sshHealth spec ports >>= k) s Q := by
  unfold sshHealth
  split_ifs
  · cases findSshBinding ports with
    | none => exact hk true
    | some binding => exact ensures_read trivial hk
  · exact hk true

/-- A sandbox that is found healthy has a VM. -/
theorem ensures_existingHealthy {α : Type} {row : RuntimeEntity} {k : Bool → Async α}
    {Q : Except ServiceError α → World → Prop}
    (htrue : s.vms row.sandboxName ≠ none → Ensures backend safe (k true) s Q)
    (hfalse : Ensures backend safe (k false) s Q) :
    Ensures backend safe (existingHealthy row >>= k) s Q := by
  unfold existingHealthy
  rw [Prog.bind_assoc]
  refine ensures_getStatus (fun status hlive => ?_) hfalse
  split_ifs
  · refine ensures_read trivial fun healthy => ?_
    cases healthy
    · exact hfalse
    · exact htrue hlive
  · exact hfalse

/-- Leasing for a launch: the ports are assigned, or every lease of the row is gone. -/
theorem assignPorts_spec (row : RuntimeEntity) (spec : RuntimeSpec) :
    Ensures backend safe (assignPorts cfg row spec.ports) s fun x s' =>
      (∃ ports, x = .ok ports ∧ PortsAssigned cfg s row spec ports s') ∨
      (x = .error noFreePorts ∧
        (freePorts cfg s).length < spec.ports.length - row.portBindings.length ∧
        s'.portLeases = s.portLeases.delete (fun l => l.runtimeId == row.id) ∧
        s'.runtimes = s.runtimes ∧ s'.vms = s.vms) := by
  -- every branch asks for as many ports as the spec has beyond the row's bindings
  have hlease : ∀ f : List Int → List RuntimePortBindingRecord,
      (∀ leased, f leased = assignHostPorts row.portBindings spec.ports leased) →
      Ensures backend safe (do
        let leased ← leasePorts cfg row.id (spec.ports.length - row.portBindings.length)
        return f leased) s fun x s' =>
      (∃ ports, x = .ok ports ∧ PortsAssigned cfg s row spec ports s') ∨
      (x = .error noFreePorts ∧
        (freePorts cfg s).length < spec.ports.length - row.portBindings.length ∧
        s'.portLeases = s.portLeases.delete (fun l => l.runtimeId == row.id) ∧
        s'.runtimes = s.runtimes ∧ s'.vms = s.vms) := by
    intro f hf
    refine Ensures.bind ((leasePorts_spec cfg row.id _ s).mono ?_)
    intro x s' hx
    cases hx with
    | leased henough hleased =>
      exact Ensures.pure (Or.inl ⟨_, rfl, henough, hleased, hf _⟩)
    | rolledBack hfew hleases hruntimes hvms =>
      exact Or.inr ⟨rfl, hfew, hleases, hruntimes, hvms⟩
  unfold assignPorts
  -- no bindings yet; fewer than the spec has ports; enough of them
  split_ifs with hempty hmore
  · have hnil : row.portBindings = [] := List.length_eq_zero_iff.mp hempty
    have := hlease (setHostPorts spec.ports) fun leased => by rw [hnil]; rfl
    simpa [hnil] using this
  · exact hlease _ fun leased => rfl
  · have hzero : spec.ports.length - row.portBindings.length = 0 := by omega
    exact Ensures.pure (Or.inl ⟨_, rfl, by omega,
      by simpa [hzero] using Leased.refl s row.id, by simp [hzero]⟩)

/-- The launch of a stored row. Its last save cannot be refused: the row keeps its keys. -/
theorem launch_spec {input : ProvisionInput} {name : Option String} {spec : RuntimeSpec}
    {row : RuntimeEntity} (hrow : row ∈ s.runtimes) (hname : row.name = name)
    (hports : spec.ports ≠ []) :
    Ensures backend safe (launch cfg input name spec row) s
      (LaunchOutcome cfg safe name spec row s) := by
  unfold launch
  refine Ensures.bind ((assignPorts_spec row spec).mono ?_)
  rintro x s₁ (⟨ports, rfl, hassigned⟩ | ⟨rfl, hfew, hleases, hruntimes, hvms⟩)
  swap
  · exact .outOfPorts hfew hleases hruntimes hvms
  -- as many ports as the spec has are assigned, so there is a first one
  obtain ⟨primary, hprimary⟩ : ∃ primary, firstPortBinding ports = .ok primary := by
    cases hcases : ports with
    | nil =>
      have := hassigned.length
      simp only [hcases, List.length_nil] at this
      exact absurd (List.length_eq_zero_iff.mp this.symm) hports
    | cons primary rest => exact ⟨primary, rfl⟩
  -- both a returned and a transient `createDetachedRuntime` go on from the same world
  have hrest : ∀ a,
      safe ⟨s₁, Request.createDetachedRuntime (createInput row spec ports), a⟩ →
      Ensures backend safe (do
      let primary ← sync (firstPortBinding ports)
      let appHealthy : Bool ← await (.waitForHealthy primary.hostPort)
      let sshHealthy ← sshHealth spec ports
      let lastActiveAt ← nextActivity input row
      let updated ← Registry.updateRuntime
        (provisionedRow name spec row ports primary appHealthy sshHealthy lastActiveAt)
      return runtimeStatusSummary updated)
      (s₁.setVm row.sandboxName (some (createInput row spec ports)))
      (LaunchOutcome cfg safe name spec row s) := by
    intro a hsafe
    rw [hprimary]
    refine ensures_read trivial fun appHealthy => ?_
    refine ensures_sshHealth fun sshHealthy => ensures_nextActivity fun lastActiveAt => ?_
    refine ensures_updateRuntime (fun _ s' hsave _ => ?_) fun hnone => ?_
    · exact Ensures.pure (.provisioned hassigned hsafe hprimary hsave)
    · have hrow₁ : row ∈
          (s₁.setVm row.sandboxName (some (createInput row spec ports))).runtimes := by
        simpa [World.setVm, hassigned.leased.runtimes] using hrow
      obtain ⟨s', hs'⟩ := World.exists_saveRuntime
        (provisionedRow name spec row ports primary appHealthy sshHealthy lastActiveAt)
        hrow₁ rfl rfl hname.symm
      simp [hs'] at hnone
  unfold createVm
  dsimp only
  rw [Prog.bind_assoc]
  refine ensures_createDetachedRuntime fun a hsafe => ?_
  cases hfailure : a.failure with
  | none =>
    simpa [Fallible.outcome, Microsandbox.createVm, hfailure, createInput] using hrest a hsafe
  | some e =>
    cases htransient : isTransientDetachedSetupError e with
    | true =>
      simpa [Fallible.outcome, Microsandbox.createVm, hfailure, htransient, createInput] using
        hrest a hsafe
    | false =>
      simp only [Fallible.outcome, hfailure, htransient, Bool.false_eq_true, if_false]
      exact Ensures.throw (.createFailed hassigned hfailure htransient hsafe)

/-- A row that needs no re-creation has the requested name. -/
theorem name_eq_of_keep {row : RuntimeEntity} {spec : RuntimeSpec} {name : Option String}
    (h : requiresRecreate row spec name = false) : row.name = name :=
  (requiresRecreate_eq_false h).name

/-- A launch starts from a stored row of the requested sandbox, under the requested name. -/
theorem LaunchStart.row_mem {input : ProvisionInput} {name : Option String} {spec : RuntimeSpec}
    {row : RuntimeEntity} {s₁ : World} (h : LaunchStart cfg safe input name spec s row s₁) :
    row ∈ s₁.runtimes ∧ row.sandboxId = input.sandboxId ∧ row.name = name := by
  cases h with
  | unhealthy hrow hid hkeep => exact ⟨hrow, hid, name_eq_of_keep hkeep⟩
  | replaced hrow hid hreplace hsave =>
    exact ⟨(World.mem_saveRuntime hsave).mpr (Or.inl rfl), hid, rfl⟩
  | new hnew hvm hinsert hsafe henough hleased =>
    refine ⟨?_, rfl, rfl⟩
    rw [hleased.runtimes]
    exact (World.mem_insertRuntime hinsert).mpr (Or.inr rfl)

/-- For a row without bindings, the host ports a spec already carries are overwritten. -/
theorem LaunchOutcome.of_setHostPorts {name : Option String} {spec : RuntimeSpec}
    {row : RuntimeEntity} {leased : List Int} {x : Except ServiceError RuntimeSummary}
    {s' : World} (hrow : row.portBindings = [])
    (h : LaunchOutcome cfg safe name { spec with ports := setHostPorts spec.ports leased } row s
      x s') : LaunchOutcome cfg safe name spec row s x s' := by
  -- with no bindings to reuse, every port gets a newly leased host port, whatever it carried
  have hassigned : ∀ {ports : List RuntimePortBindingRecord} {s₁ : World},
      PortsAssigned cfg s row { spec with ports := setHostPorts spec.ports leased } ports s₁ →
      PortsAssigned cfg s row spec ports s₁ := by
    intro ports s₁ hp
    have henough := hp.enough
    have hleased := hp.leased
    have hports := hp.ports_eq
    simp only [setHostPorts_length, hrow, List.length_nil, Nat.sub_zero] at henough hleased hports
    refine ⟨by simpa [hrow] using henough, by simpa [hrow] using hleased, ?_⟩
    simp only [hrow, List.length_nil, Nat.sub_zero]
    rw [hports]
    exact setHostPorts_setHostPorts (by rw [List.length_take]; omega)
  cases h with
  | outOfPorts hfew hleases hruntimes hvms =>
    exact .outOfPorts (by simpa [setHostPorts_length] using hfew) hleases hruntimes hvms
  | createFailed hports hfailure hhard hsafe =>
    exact .createFailed (hassigned hports) hfailure hhard hsafe
  | provisioned hports hsafe hprimary hsave =>
    exact .provisioned (hassigned hports) hsafe hprimary hsave

/-- A row that needs no re-creation: it is brought up to date if it is healthy and launched again if
not. -/
theorem provisionExisting_spec {input : ProvisionInput} {name : Option String}
    {spec : RuntimeSpec} {row : RuntimeEntity} (hplan : Planned cfg s input name spec)
    (hrow : row ∈ s.runtimes) (hid : row.sandboxId = input.sandboxId)
    (hforce : input.forceRecreate ≠ some true) (hkeep : requiresRecreate row spec name = false) :
    Ensures backend safe (provisionExisting cfg input name spec row) s
      (ProvisionOutcome cfg safe input s) := by
  unfold provisionExisting
  refine ensures_existingHealthy (fun hlive => ?_) ?_
  · have hsync : Ensures backend safe (do
        let lastActiveAt ← nextActivity input row
        let updated ← Registry.updateRuntime (syncedRow name spec row lastActiveAt)
        return runtimeStatusSummary updated) s (ProvisionOutcome cfg safe input s) := by
      refine ensures_nextActivity fun lastActiveAt => ?_
      refine ensures_updateRuntime (fun a s' hsave _ => ?_) fun hnone => ?_
      · exact Ensures.pure (.existing hplan hrow hid hforce hkeep hlive hsave)
      · obtain ⟨s', hs'⟩ := World.exists_saveRuntime (syncedRow name spec row lastActiveAt) hrow rfl
          rfl (name_eq_of_keep hkeep).symm
        simp [hs'] at hnone
    simp only [if_true]
    unfold syncExisting syncFiles
    -- files are written only if the request has some, and a failure ends the call before the save
    split_ifs
    · rw [Prog.bind_assoc]
      refine ensures_writeFiles (fun a hsafe => ?_)
      refine ensures_sync (fun _ _ => hsync) fun e he => .refused ?_
      refine .filesFailed hplan hrow hid hkeep ?_ hsafe
      unfold Fallible.outcome at he
      split at he
      · cases he
      · rename_i e' hfailure
        rw [hfailure, Except.error.inj he]
    · exact hsync
  · simp only [Bool.false_eq_true, if_false]
    exact (launch_spec hrow (name_eq_of_keep hkeep) hplan.ports_ne_nil).mono fun x s' hout =>
      .launched hplan (.unhealthy hrow hid hkeep) hout

/-- A row that is re-created. The name check comes before this write, but a lookup by id or name may
have returned the sandbox itself where another row has the name; then the write is refused. -/
theorem provisionReplace_spec {input : ProvisionInput} {name : Option String}
    {spec : RuntimeSpec} {row : RuntimeEntity} (hplan : Planned cfg s input name spec)
    (hrow : row ∈ s.runtimes) (hid : row.sandboxId = input.sandboxId)
    (hreplace : input.forceRecreate = some true ∨ requiresRecreate row spec name = true) :
    Ensures backend safe (provisionReplace cfg input name spec row) s
      (ProvisionOutcome cfg safe input s) := by
  unfold provisionReplace
  refine ensures_updateRuntime (fun a s₁ hsave _ => ?_) fun hnone => .refused ?_
  swap
  · -- only another row under the requested name can refuse the write
    rw [World.saveRuntime_eq_none, Table.save_eq_none] at hnone
    obtain ⟨r, hr, hne, hclash⟩ := hnone
    have hother : r ≠ row := fun heq => by simp [heq, replacingRow] at hne
    rcases hclash with hrid | hrsandbox | ⟨hnamed, hrname⟩
    · exact absurd (World.eq_of_id hr hrow hrid) hother
    · exact absurd (World.eq_of_sandboxId hr hrow hrsandbox) hother
    · obtain ⟨n, hn⟩ := Option.ne_none_iff_exists'.mp hnamed
      refine .nameStored (hplan.name_eq.trans (congrArg Except.ok (hrname.symm.trans hn))) hr hn ?_
      exact fun hrid => hother (World.eq_of_sandboxId hr hrow (hrid.trans hid.symm))
  have hstart : LaunchStart cfg safe input name spec s (replacingRow input name spec row) s₁ :=
    .replaced hrow hid hreplace hsave
  exact (launch_spec hstart.row_mem.1 rfl hplan.ports_ne_nil).mono fun x s' hout =>
    .launched hplan hstart hout

/-- Leasing for a new row: the row stays with its leases, or everything is as before it. -/
theorem ensures_leaseForNewRow {α : Type} {draft : RuntimeEntity} {count : Nat} {s₁ : World}
    {k : List Int → Async α} {Q : Except ServiceError α → World → Prop}
    (hinsert : s.insertRuntime draft = some s₁)
    (hok : ∀ s₂, count ≤ (freePorts cfg s).length →
      Leased s₁ s.nextRuntimeId ((freePorts cfg s).take count) s₂ →
      Ensures backend safe (k ((freePorts cfg s).take count)) s₂ Q)
    (herr : ∀ s₂, (freePorts cfg s).length < count → s₂.portLeases = s.portLeases →
      s₂.runtimes = s.runtimes → s₂.vms = s.vms → Q (.error noFreePorts) s₂) :
    Ensures backend safe
      (leaseForNewRow cfg (draft.withId s.nextRuntimeId) count >>= k) s₁ Q := by
  obtain ⟨hrows, hleases₁, hvms₁⟩ := World.insertRuntime_spec hinsert
  have hfree : freePorts cfg s₁ = freePorts cfg s := freePorts_congr cfg hleases₁
  have hnolease : s.portLeases.delete (fun l => l.runtimeId == s.nextRuntimeId) = s.portLeases :=
    Table.delete_eq_self fun l hl => by simpa using (s.portLeases_lt l hl).ne
  refine Ensures.bind (Ensures.catchError ((leasePorts_spec cfg s.nextRuntimeId count s₁).mono ?_))
  intro x s₂ hx
  cases hx with
  | leased henough hleased =>
    rw [hfree] at henough hleased
    rw [hfree]
    exact hok s₂ henough hleased
  | rolledBack hfew hleases hruntimes hvms =>
    rw [hfree] at hfew
    rw [hleases₁, hnolease] at hleases
    unfold Registry.deleteRuntime
    dsimp only
    rw [Prog.bind_assoc]
    refine ensures_deleteRuntime ?_
    rw [Prog.bind_assoc]
    refine ensures_deletePortLeases (ensures_deleteSignedTokens (Ensures.throw ?_))
    refine herr _ hfew ?_ ?_ (hvms.trans hvms₁)
    -- the rollback deletes by the id of the runtime, and this id is new
    · change s₂.portLeases.delete (fun l => l.runtimeId == s.nextRuntimeId) = s.portLeases
      rw [hleases, hnolease]
    · change s₂.runtimes.delete (fun r => r.id == s.nextRuntimeId) = s.runtimes
      rw [hruntimes]
      exact Table.delete_insert hrows (fun r hr => by simpa using (s.runtimes_lt r hr).ne)
        (by simp)

/-- A sandbox without a row: the row is stored first, since the leases refer to its id. -/
theorem provisionNew_spec {input : ProvisionInput} {name : Option String} {spec : RuntimeSpec}
    {primary : RuntimePortBindingRecord} (hplan : Planned cfg s input name spec)
    (hnormal : IsNormal input.sandboxId) (hnew : ∀ r ∈ s.runtimes, r.sandboxId ≠ input.sandboxId) :
    Ensures backend safe (provisionNew cfg input name spec primary) s
      (ProvisionOutcome cfg safe input s) := by
  unfold provisionNew
  refine ensures_read trivial fun authToken => ?_
  have hvmName : ∀ e, sandboxName cfg input.sandboxId ≠ .error e := by
    simp [sandboxName, RuntimeIdentity.sandboxName, RuntimeIdentity.prefixedName,
      normalizeSandboxId_eq_self hnormal, Except.map]
  refine ensures_sync (fun vmName hvm => ?_) fun e he => absurd he (hvmName e)
  refine ensures_read trivial fun now => ?_
  refine ensures_insertRow (fun a s₁ hinsert hsafe => ?_) fun hnone => .refused ?_
  -- a new id is free, and no row has the sandbox id: only the name can be refused
  swap
  · rw [World.insertRuntime_eq_none, Table.insert_eq_none] at hnone
    obtain ⟨r, hr, hrid | hrsandbox | ⟨hnamed, hrname⟩⟩ := hnone
    · exact absurd hrid (s.runtimes_lt r hr).ne
    · exact absurd hrsandbox (hnew r hr)
    · obtain ⟨n, hn⟩ := Option.ne_none_iff_exists'.mp hnamed
      exact .nameStored (hplan.name_eq.trans (congrArg Except.ok (hrname.symm.trans hn))) hr hn
        (hnew r hr)
  refine ensures_leaseForNewRow hinsert (fun s₂ henough hleased => ?_)
    fun s₂ hfew hleases hruntimes hvms => .rolledBack hplan hnew hfew hleases hruntimes hvms
  have hstart := LaunchStart.new hnew hvm hinsert hsafe henough hleased
  refine (launch_spec hstart.row_mem.1 rfl ?_).mono fun x s' hout =>
    .launched hplan hstart (hout.of_setHostPorts rfl)
  have hne := hplan.ports_ne_nil
  rw [ne_eq, ← List.length_eq_zero_iff] at hne ⊢
  simpa [setHostPorts_length] using hne

/-- **What provisioning can do.** Every complete run of `provision` on a normalised id ends in one
of these ways. -/
theorem provision_spec {input : ProvisionInput} (hid : IsNormal input.sandboxId) :
    Ensures backend safe (provision cfg input) s (ProvisionOutcome cfg safe input s) := by
  unfold provision
  refine ensures_sync (fun name hname => ?_) fun e he => .refused (.badName he)
  refine ensures_checkName hname (fun havailable => ?_) fun n hn r hr huse hother =>
    .refused (.nameTaken (hn ▸ hname) hr huse hother)
  have hfirst : ∀ spec, Planned cfg s input name spec →
      ∀ e, firstPortBinding spec.ports ≠ .error e := by
    intro spec hplan e
    cases hports : spec.ports with
    | nil => exact absurd hports hplan.ports_ne_nil
    | cons port rest => simp [firstPortBinding]
  refine ensures_findRuntimeBySandboxId hid (fun row hrow hrowid => ?_) fun hnew => ?_
  · refine ensures_buildSpec (fun spec hspec => ?_)
      fun e mount hmount he => .refused (.badMount hmount he)
    have hplan : Planned cfg s input name spec := ⟨hname, havailable, hspec⟩
    refine ensures_sync (fun primary _ => ?_) fun e he => absurd he (hfirst spec hplan e)
    dsimp only
    split_ifs with hreplace
    · exact provisionReplace_spec hplan hrow hrowid hreplace
    -- neither is asked for nor needed
    · rw [not_or, Bool.not_eq_true] at hreplace
      exact provisionExisting_spec hplan hrow hrowid hreplace.1 hreplace.2
  · refine ensures_buildSpec (fun spec hspec => ?_)
      fun e mount hmount he => .refused (.badMount hmount he)
    have hplan : Planned cfg s input name spec := ⟨hname, havailable, hspec⟩
    refine ensures_sync (fun primary _ => ?_) fun e he => absurd he (hfirst spec hplan e)
    exact provisionNew_spec hplan hid hnew

end Stages

end RuntimeControl

end Microsandbox
