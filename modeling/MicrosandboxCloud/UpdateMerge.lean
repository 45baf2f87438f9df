import MicrosandboxCloud.Stored

/-!
# Microsandbox — an update is not quite a field-wise merge

`buildUpdateInput` rebuilds a full request from the row and the patch. It forgets two fields: the
row does not record whether SSH was wanted, and the patch's `ssh` and `primaryPort` are not passed
on. And a stored mount is looked up again, by id *or name*.

* **`Merged`** — field by field, the patch's value where it gives one and the current one elsewhere.
* **`MergesFaithfully`** — the condition under which none of this shows.
* **`update_merges`** — the spec an update provisions is the merge exactly when that holds.
-/

namespace Microsandbox

open Process Data Text RuntimeControl Registry

/-! ## The merge

What a caller of `update` may expect: what the patch gives replaces what the row has, and the rest
stays. It is stated for the spec, so that what a field means in a request has its meaning here. -/

/-- What a request says about a port. -/
def portShape (p : RuntimePortBindingRecord) : Option String × Int × Protocol :=
  (p.name, p.containerPort, p.protocol)

/-- The ports with an entry for SSH. -/
def withSsh (ports : List RuntimePortBindingRecord) : List RuntimePortBindingRecord :=
  if ports.any (fun p => p.containerPort == 22) then ports else ports ++ [sshPort]

/-- Is SSH wanted after the patch? `current` says whether it was before. -/
def wantedSsh (current : Bool) (patch : UpdateSandboxDto) : Bool :=
  (patch.ssh.bind (·.enabled)).getD current

/-- The ports after the patch, before SSH is added: its `ports` or `primaryPort`, or the row's. -/
def wantedPorts (cfg : AppConfig) (row : RuntimeEntity) (patch : UpdateSandboxDto) :
    List RuntimePortBindingRecord :=
  match patch.ports, patch.primaryPort with
  | none, none => row.portBindings
  | ports, primaryPort => resolvePorts cfg ports primaryPort

/-- Field by field, the patch's value as a request would mean it, or the row's. -/
structure Merged (cfg : AppConfig) (s : World) (row : RuntimeEntity) (ssh : Bool)
    (patch : UpdateSandboxDto) (name : Option String) (spec : RuntimeSpec) : Prop where
  name : match patch.name with
    | some n => normalizeName (some n) = .ok name
    | none => name = row.name
  image : spec.image = match patch.image with
    | some image => (trimmed (some image)).getD cfg.defaultImage
    | none => row.image
  command : spec.command.getD [] = patch.command.getD (row.command.getD [])
  env : spec.env = patch.env.getD (row.environment.getD [])
  secrets : spec.secrets = match patch.secrets with
    | some secrets => buildRuntimeSecrets secrets
    | none => row.secrets.getD []
  workingDir : spec.workingDir = match patch.workingDir with
    | some workingDir => trimmed (some workingDir)
    | none => row.workingDir
  ports : spec.ports.map portShape =
    (if wantedSsh ssh patch then withSsh (wantedPorts cfg row patch)
      else wantedPorts cfg row patch).map portShape
  cpu : spec.cpu = (patch.resources.bind (·.cpu)).getD row.cpu
  memoryMiB : spec.memoryMiB = (patch.resources.bind (·.memoryMiB)).getD row.memoryMiB
  diskGiB : spec.diskGiB = (patch.resources.bind (·.diskGiB)).getD row.diskGiB
  mounts : match patch.volumes with
    | some volumes => Resolved s volumes spec.mounts spec.mountInputs
    | none => spec.mounts = row.mounts.getD []
  isPublic : spec.isPublic = patch.isPublic.getD row.isPublic
  autoStopMinutes : spec.autoStopMinutes = match patch.autoStopMinutes with
    | some minutes => (some minutes).filter (0 < ·)
    | none => row.autoStopMinutes
  ephemeral : spec.ephemeral = patch.ephemeral.getD row.ephemeral
  ssh : spec.ssh = wantedSsh ssh patch

/-- A run of the stage of `update` that builds the spec. -/
def BuildsUpdate (cfg : AppConfig) (s : World) (row : RuntimeEntity) (patch : UpdateSandboxDto)
    (name : Option String) (spec : RuntimeSpec) : Prop :=
  normalizeName (buildUpdateInput row patch).name = .ok name ∧
    ∃ tr s', Exec backend (buildSpec cfg (buildUpdateInput row patch).toSandboxSpecDto) s tr
      (.ok spec) s'

/-- Whatever spec the update provisions is the merge. -/
def UpdateMerges (cfg : AppConfig) (s : World) (row : RuntimeEntity) (ssh : Bool)
    (patch : UpdateSandboxDto) : Prop :=
  ∀ name spec, BuildsUpdate cfg s row patch name spec → Merged cfg s row ssh patch name spec

/-- The ports that `update` starts from: it does not look at the patch's `primaryPort`. -/
def portsWithoutPrimary (cfg : AppConfig) (row : RuntimeEntity) (patch : UpdateSandboxDto) :
    List RuntimePortBindingRecord :=
  match patch.ports with
  | none => row.portBindings
  | ports => resolvePorts cfg ports none

/-- When nothing that is forgotten makes a difference: SSH is wanted; a `primaryPort` comes with
ports, which take its place in any request, or comes to the same ports; and the ids of the mounted
volumes still lead to these volumes. -/
structure MergesFaithfully (cfg : AppConfig) (s : World) (row : RuntimeEntity) (ssh : Bool)
    (patch : UpdateSandboxDto) : Prop where
  ssh : wantedSsh ssh patch = true
  ports : patch.primaryPort = none ∨ patch.ports.getD [] ≠ [] ∨
    (withSsh (portsWithoutPrimary cfg row patch)).map portShape =
      (withSsh (resolvePorts cfg none patch.primaryPort)).map portShape
  mounts : patch.volumes = none → ∀ m ∈ row.mounts.getD [], ∀ v ∈ s.volumes, Refers m.volumeId v →
    v.id = m.volumeId ∧ v.name = m.volumeName

/-! ## Ports

The ports of the patch, or those of the row, go through the same function as those of any request.
The question is what `primaryPort` and SSH do to them. -/

section Ports

variable {cfg : AppConfig} {row : RuntimeEntity} {patch : UpdateSandboxDto}

/-- Whether there is an SSH port can be told from the shapes. -/
theorem any_ssh_of_shape {ports ports' : List RuntimePortBindingRecord}
    (h : ports.map portShape = ports'.map portShape) :
    ports.any (fun p => p.containerPort == 22) = ports'.any (fun p => p.containerPort == 22) := by
  have hany : ∀ l : List RuntimePortBindingRecord, l.any (fun p => p.containerPort == 22) =
      (l.map portShape).any fun p => p.2.1 == 22 := by
    intro l
    rw [List.any_map]
    rfl
  rw [hany ports, hany ports', h]

theorem withSsh_shape {ports ports' : List RuntimePortBindingRecord}
    (h : ports.map portShape = ports'.map portShape) :
    (withSsh ports).map portShape = (withSsh ports').map portShape := by
  unfold withSsh
  rw [any_ssh_of_shape h]
  split_ifs
  · exact h
  · rw [List.map_append, List.map_append, h]

/-- Stored bindings, as a request would give them, are resolved to what they say. -/
theorem resolvePorts_portDto (hstored : WellStored row) (primaryPort : Option RuntimePortDto) :
    (resolvePorts cfg (some (row.portBindings.map portDto)) primaryPort).map portShape =
      row.portBindings.map portShape := by
  have hne : (row.portBindings.map portDto).isEmpty = false := by
    simpa using hstored.bound
  unfold resolvePorts
  simp only [Option.getD_some, hne, Bool.false_eq_true, if_false, List.map_map]
  refine List.map_congr_left fun b hb => ?_
  show (trimmed b.name, b.containerPort, b.protocol) = portShape b
  rw [hstored.portNames b hb]
  rfl

/-- With SSH wanted, the ports of a spec are those of the request with an entry for SSH. -/
theorem specPorts_shape (input : SandboxSpecDto) (hssh : sshEnabled input = true) :
    (specPorts cfg input).map portShape =
      (withSsh (resolvePorts cfg input.ports input.primaryPort)).map portShape := by
  unfold specPorts withSsh
  rw [hssh]
  simp only [Bool.true_and, List.map_map]
  cases (resolvePorts cfg input.ports input.primaryPort).any fun p => p.containerPort == 22
  · rfl
  · rfl

/-- The ports of the spec of an update. -/
theorem updatePorts_shape (hstored : WellStored row) :
    (specPorts cfg (buildUpdateInput row patch).toSandboxSpecDto).map portShape =
      (withSsh (portsWithoutPrimary cfg row patch)).map portShape := by
  rw [specPorts_shape _ rfl]
  apply withSsh_shape
  unfold portsWithoutPrimary
  cases hports : patch.ports with
  -- the stored ports stand in for those of the patch
  | none =>
    have hinput : (buildUpdateInput row patch).ports = some (row.portBindings.map portDto) := by
      show (patch.ports <|> _) = _
      rw [hports]
      rfl
    rw [hinput]
    exact resolvePorts_portDto hstored none
  | some ports =>
    have hinput : (buildUpdateInput row patch).ports = some ports := by
      show (patch.ports <|> _) = _
      rw [hports]
      rfl
    rw [hinput]
    rfl

theorem resolvePorts_of_given {ports : Option (List RuntimePortDto)} (h : ports.getD [] ≠ [])
    (primaryPort : Option RuntimePortDto) :
    resolvePorts cfg ports primaryPort = resolvePorts cfg ports none := by
  have hne : (ports.getD []).isEmpty = false := by simpa using h
  unfold resolvePorts
  simp only [hne, Bool.false_eq_true, if_false]

/-- An empty list of ports is as good as none. -/
theorem resolvePorts_of_empty {ports : Option (List RuntimePortDto)} (h : ports.getD [] = [])
    (primaryPort : Option RuntimePortDto) :
    resolvePorts cfg ports primaryPort = resolvePorts cfg none primaryPort := by
  unfold resolvePorts
  rw [h]
  rfl

/-- The `primaryPort` of the patch makes no difference, or the condition says that it makes
none. -/
theorem wantedPorts_shape_iff :
    (withSsh (portsWithoutPrimary cfg row patch)).map portShape =
        (withSsh (wantedPorts cfg row patch)).map portShape ↔
      patch.primaryPort = none ∨ patch.ports.getD [] ≠ [] ∨
        (withSsh (portsWithoutPrimary cfg row patch)).map portShape =
          (withSsh (resolvePorts cfg none patch.primaryPort)).map portShape := by
  cases hprimary : patch.primaryPort with
  | none =>
    have hsame : wantedPorts cfg row patch = portsWithoutPrimary cfg row patch := by
      unfold wantedPorts portsWithoutPrimary
      rw [hprimary]
      cases patch.ports <;> rfl
    simp [hsame]
  | some port =>
    have hwanted : wantedPorts cfg row patch = resolvePorts cfg patch.ports (some port) := by
      unfold wantedPorts
      rw [hprimary]
      cases patch.ports <;> rfl
    rw [hwanted]
    -- a primary port matters only if no ports are given
    by_cases hgiven : patch.ports.getD [] = []
    · rw [resolvePorts_of_empty hgiven]
      simp [hgiven]
    · have hsame :
          portsWithoutPrimary cfg row patch = resolvePorts cfg patch.ports (some port) := by
        rw [resolvePorts_of_given hgiven]
        unfold portsWithoutPrimary
        cases hports : patch.ports with
        | none => simp [hports] at hgiven
        | some ports => rfl
      simp [hsame, hgiven]

end Ports

/-! ## Mounts

An update that names no volumes asks for those of the row again, by their ids. An id may be the name
of another volume, and then the lookup may return that. -/

section Mounts

variable {s : World}

/-- What mounts resolve to, `resolveVolumes` can return. -/
theorem exec_resolveVolumes {mounts : List RuntimeVolumeMountDto}
    {records : List RuntimeVolumeMountRecord} {inputs : List MountInput}
    (h : Resolved s mounts records inputs) :
    ∃ tr, Exec backend (resolveVolumes mounts) s tr (.ok (records, inputs)) s := by
  induction h with
  | nil => exact ⟨[], Exec.pure _ _⟩
  | @cons mount rest volume records inputs hvolume href hsubpath hrest ih =>
    obtain ⟨tr, htr⟩ := ih
    obtain ⟨name, hname, hmatch⟩ := href
    let selects (v : VolumeEntity) : Bool := v.id == mount.volumeId || v.name == name
    have hsel : selects volume = true := by simpa [selects] using hmatch
    obtain ⟨pick, hpick⟩ : ∃ pick, pickRow s.volumes.rows selects pick = some volume :=
      exists_pickRow hvolume hsel
    have hfind : backend.act (.findVolume mount.volumeId name) { pick := pick } s =
        some (some volume, s) := by
      show some (pickRow s.volumes.rows selects pick, s) = _
      rw [hpick]
    -- if several rows answer to the reference, the lookup may return this one
    have hrequire : Exec backend (requireVolume mount.volumeId) s
        [⟨s, .findVolume mount.volumeId name, { pick := pick }⟩] (.ok volume) s := by
      unfold requireVolume Registry.findVolumeByIdOrName
      rw [hname]
      exact Exec.await hfind (Exec.pure _ _)
    refine ⟨_ ++ (tr ++ []), hrequire.bind ?_⟩
    rw [if_neg (by simpa using hsubpath)]
    exact htr.bind (Exec.pure _ _)

/-- So `buildSpec` can return the spec with these mounts. -/
theorem exec_buildSpec (cfg : AppConfig) (input : SandboxSpecDto)
    {records : List RuntimeVolumeMountRecord} {inputs : List MountInput}
    (h : Resolved s (input.volumes.getD []) records inputs) :
    ∃ tr, Exec backend (buildSpec cfg input) s tr (.ok (specOf cfg input records inputs)) s := by
  obtain ⟨tr, htr⟩ := exec_resolveVolumes h
  exact ⟨_, htr.bind (Exec.pure _ _)⟩

/-- What `buildSpec` returns is a spec of the request. -/
theorem buildSpec_isSpecOf {cfg : AppConfig} {input : SandboxSpecDto}
    {tr : List (Event requests World Answer)} {spec : RuntimeSpec} {s' : World}
    (h : Exec backend (buildSpec cfg input) s tr (.ok spec) s') : IsSpecOf cfg s input spec := by
  have hens : Ensures backend (fun _ => True) (buildSpec cfg input) s fun x _ =>
      ∀ spec, x = .ok spec → IsSpecOf cfg s input spec := by
    unfold buildSpec
    refine Ensures.bind ((resolveVolumes_spec _).mono ?_)
    rintro x s₁ ⟨-, ⟨p, rfl, hresolved⟩ | ⟨e, mount, rfl, -⟩⟩
    · refine Ensures.pure fun spec hspec => ?_
      cases hspec
      exact ⟨p.1, p.2, hresolved, rfl⟩
    · exact fun spec hspec => by cases hspec
  exact hens.exec h spec rfl

/-- A mount can be resolved to any volume it refers to, whatever the others are resolved to. -/
theorem RuntimeControl.Resolved.replace {mounts : List RuntimeVolumeMountDto}
    {records : List RuntimeVolumeMountRecord} {inputs : List MountInput}
    (h : Resolved s mounts records inputs) {i : Nat} {mount : RuntimeVolumeMountDto}
    (hmount : mounts[i]? = some mount) {v : VolumeEntity} (hv : v ∈ s.volumes)
    (href : Refers mount.volumeId v) : ∃ records' inputs', Resolved s mounts records' inputs' ∧
      records'[i]? = some (mountRecord v mount) := by
  induction h generalizing i with
  | nil => simp at hmount
  | @cons first rest volume records inputs hvolume hfirst hsubpath hrest ih =>
    cases i with
    | zero =>
      obtain rfl : first = mount := by simpa using hmount
      exact ⟨_, _, .cons hv href hsubpath hrest, rfl⟩
    | succ i =>
      obtain ⟨records', inputs', hresolved, hget⟩ := ih (by simpa using hmount)
      exact ⟨_, _, .cons hvolume hfirst hsubpath hresolved, by simpa using hget⟩

/-- The stored mounts are resolved to themselves exactly when their ids lead to their volumes. -/
theorem stored_mounts_iff {mounts : List RuntimeVolumeMountRecord}
    (hresolves : ∃ records inputs, Resolved s (mounts.map mountDto) records inputs) :
    (∀ records inputs, Resolved s (mounts.map mountDto) records inputs → records = mounts) ↔
      ∀ m ∈ mounts, ∀ v ∈ s.volumes, Refers m.volumeId v →
        v.id = m.volumeId ∧ v.name = m.volumeName := by
  constructor
  · -- the mount can be resolved to any volume it refers to, and the others as before
    intro hsame m hm v hv href
    obtain ⟨i, hi, rfl⟩ := List.getElem_of_mem hm
    obtain ⟨records, inputs, hresolved⟩ := hresolves
    have hmount : (mounts.map mountDto)[i]? = some (mountDto mounts[i]) := by
      rw [List.getElem?_map, List.getElem?_eq_getElem hi, Option.map_some]
    obtain ⟨records', inputs', hresolved', hget⟩ := hresolved.replace hmount hv href
    rw [hsame records' inputs' hresolved', List.getElem?_eq_getElem hi] at hget
    have hrecord : mounts[i] = mountRecord v (mountDto mounts[i]) := Option.some.inj hget
    have hid : mounts[i].volumeId = v.id := congrArg RuntimeVolumeMountRecord.volumeId hrecord
    have hname : mounts[i].volumeName = v.name :=
      congrArg RuntimeVolumeMountRecord.volumeName hrecord
    exact ⟨hid.symm, hname.symm⟩
  · -- every record is then made of the volume that its id names
    intro hleads
    clear hresolves
    induction mounts with
    | nil =>
      intro records inputs h
      cases h
      rfl
    | cons m mounts ih =>
      intro records inputs h
      rw [List.map_cons] at h
      cases h with
      | @cons _ _ v records inputs hv href hsubpath hrest =>
        obtain ⟨hhead, htail⟩ := List.forall_mem_cons.mp hleads
        obtain ⟨hid, hname⟩ := hhead v hv href
        have hrecord : mountRecord v (mountDto m) = m := by
          cases m
          simp_all [mountRecord, mountDto]
        rw [hrecord, ih htail records inputs hrest]

end Mounts

/-! ## The merge and the code

The fields that merge do so for every patch. SSH, ports and mounts are the three where the code may
do otherwise. -/

section Merge

variable {cfg : AppConfig} {s : World} {row : RuntimeEntity} {ssh : Bool}
  {patch : UpdateSandboxDto} {name : Option String}

/-- Stored secrets, as a request would give them, are stored as they were. -/
theorem update_secrets (records : List RuntimeSecretRecord) :
    buildRuntimeSecrets (records.map secretDto) = records := by
  unfold buildRuntimeSecrets
  rw [List.map_map]
  exact List.map_id'' (fun _ => rfl) records

/-- An empty command is as good as none. -/
theorem command_getD (command : Option (List String)) :
    (if (command.getD []).isEmpty then none else command).getD [] = command.getD [] := by
  cases command with
  | none => rfl
  | some args => cases args <;> rfl

/-- The volumes an update asks for. -/
theorem update_volumes : (buildUpdateInput row patch).volumes.getD [] =
    patch.volumes.getD ((row.mounts.getD []).map mountDto) := by
  show (patch.volumes <|> _).getD [] = _
  cases patch.volumes <;> rfl

/-- The spec of an update is the merge in all but SSH, ports and mounts; in these it is, when
nothing that is forgotten makes a difference. -/
theorem merged_of_faithful (hstored : WellStored row)
    (hname : normalizeName (buildUpdateInput row patch).name = .ok name)
    {records : List RuntimeVolumeMountRecord} {inputs : List MountInput}
    (hresolved : Resolved s ((buildUpdateInput row patch).volumes.getD []) records inputs)
    (h : MergesFaithfully cfg s row ssh patch) :
    Merged cfg s row ssh patch name
      (specOf cfg (buildUpdateInput row patch).toSandboxSpecDto records inputs) where
  name := by
    change normalizeName (patch.name <|> row.name) = .ok name at hname
    cases hpatch : patch.name with
    | none =>
      rw [hpatch] at hname
      exact Except.ok.inj (hname.symm.trans hstored.name)
    | some n =>
      rw [hpatch] at hname
      exact hname
  image := by
    show (trimmed (patch.image <|> some row.image)).getD cfg.defaultImage = _
    cases patch.image with
    | none =>
      show (trimmed (some row.image)).getD cfg.defaultImage = row.image
      rw [hstored.image, Option.getD_some]
    | some image => rfl
  command := by
    show (if ((patch.command <|> row.command).getD []).isEmpty then none
      else patch.command <|> row.command).getD [] = _
    rw [command_getD]
    cases patch.command <;> rfl
  env := by
    show (patch.env <|> row.environment <|> some []).getD [] = _
    cases patch.env <;> cases row.environment <;> rfl
  secrets := by
    show buildRuntimeSecrets ((patch.secrets <|> some ((row.secrets.getD []).map secretDto)).getD [])
      = _
    cases patch.secrets with
    | none => exact update_secrets _
    | some secrets => rfl
  workingDir := by
    show trimmed (patch.workingDir <|> row.workingDir) = _
    cases patch.workingDir with
    | none => exact hstored.workingDir
    | some workingDir => rfl
  -- the ports and the mounts are the fields in which something may be forgotten
  ports := by
    rw [h.ssh, if_pos rfl]
    exact (updatePorts_shape hstored).trans (wantedPorts_shape_iff.mpr h.ports)
  cpu := by
    show ((patch.resources.bind (·.cpu)) <|> some row.cpu).getD cfg.defaultCpu = _
    cases patch.resources.bind (·.cpu) <;> rfl
  memoryMiB := by
    show ((patch.resources.bind (·.memoryMiB)) <|> some row.memoryMiB).getD cfg.defaultMemoryMiB = _
    cases patch.resources.bind (·.memoryMiB) <;> rfl
  diskGiB := by
    show ((patch.resources.bind (·.diskGiB)) <|> some row.diskGiB).getD cfg.defaultDiskGiB = _
    cases patch.resources.bind (·.diskGiB) <;> rfl
  -- mounts of the patch are resolved as they are, and stored ones by their reference
  mounts := by
    rw [update_volumes] at hresolved
    cases hvolumes : patch.volumes with
    | some volumes =>
      rw [hvolumes] at hresolved
      exact hresolved
    | none =>
      rw [hvolumes] at hresolved
      exact (stored_mounts_iff ⟨_, _, hresolved⟩).mpr (h.mounts hvolumes) _ _ hresolved
  isPublic := by
    show ((patch.isPublic <|> some row.isPublic) == some true) = _
    cases patch.isPublic <;> simp
  autoStopMinutes := by
    show (patch.autoStopMinutes <|> row.autoStopMinutes).filter (0 < ·) = _
    cases patch.autoStopMinutes with
    | none => exact hstored.autoStopMinutes
    | some minutes => rfl
  ephemeral := by
    show ((patch.ephemeral <|> some row.ephemeral) == some true) = _
    cases patch.ephemeral <;> simp
  ssh := h.ssh.symm

/-- When an update merges, nothing that is forgotten made a difference. -/
theorem faithful_of_merges (hstored : WellStored row)
    (hbuilds : ∃ name spec, BuildsUpdate cfg s row patch name spec)
    (h : UpdateMerges cfg s row ssh patch) : MergesFaithfully cfg s row ssh patch := by
  obtain ⟨name, spec, hname, tr, s', hbuild⟩ := hbuilds
  have hmerged := h name spec ⟨hname, tr, s', hbuild⟩
  obtain ⟨records, inputs, hresolved, hspec⟩ := buildSpec_isSpecOf hbuild
  have hssh : wantedSsh ssh patch = true := by
    rw [← hmerged.ssh, hspec]
    rfl
  refine ⟨hssh, ?_, fun hvolumes => ?_⟩
  · have hports := hmerged.ports
    rw [hssh, if_pos rfl, hspec] at hports
    exact wantedPorts_shape_iff.mp ((updatePorts_shape hstored).symm.trans hports)
  -- one spec of the update is known; with another choice of the volumes there is another
  · have hgiven : (buildUpdateInput row patch).volumes.getD [] =
        (row.mounts.getD []).map mountDto := by
      rw [update_volumes, hvolumes]
      rfl
    rw [hgiven] at hresolved
    refine (stored_mounts_iff ⟨_, _, hresolved⟩).mp fun records' inputs' hresolved' => ?_
    obtain ⟨tr', hbuild'⟩ := exec_buildSpec cfg
      (buildUpdateInput row patch).toSandboxSpecDto (hgiven ▸ hresolved')
    have hmounts := (h name _ ⟨hname, _, _, hbuild'⟩).mounts
    rw [hvolumes] at hmounts
    exact hmounts

/-- **Update and merge.** For a row that a provisioning call has stored and an update that gets as
far as a spec: the spec is the field-wise merge exactly when nothing that is forgotten makes a
difference. SSH was wanted if the call's request wanted it. -/
theorem update_merges {call : SandboxCall} {input : ProvisionInput}
    (hstored : StoredBy cfg call input row)
    (hbuilds : ∃ name spec, BuildsUpdate cfg s row patch name spec) :
    UpdateMerges cfg s row (sshEnabled input.toSandboxSpecDto) patch ↔
      MergesFaithfully cfg s row (sshEnabled input.toSandboxSpecDto) patch := by
  constructor
  · exact faithful_of_merges hstored.wellStored hbuilds
  · rintro h name spec ⟨hname, tr, s', hbuild⟩
    obtain ⟨records, inputs, hresolved, rfl⟩ := buildSpec_isSpecOf hbuild
    exact merged_of_faithful hstored.wellStored hname hresolved h

end Merge

/-- An update of a row without mounts gets as far as a spec. -/
theorem buildsUpdate_of_noMounts (cfg : AppConfig) (s : World) {row : RuntimeEntity}
    (patch : UpdateSandboxDto) (hstored : WellStored row) (hmounts : row.mounts.getD [] = [])
    (hname : patch.name = none) (hvolumes : patch.volumes = none) :
    ∃ name spec, BuildsUpdate cfg s row patch name spec := by
  have hgiven : (buildUpdateInput row patch).volumes.getD [] = [] := by
    rw [update_volumes, hvolumes, hmounts]
    rfl
  obtain ⟨tr, hbuild⟩ := exec_buildSpec (s := s) cfg
    (buildUpdateInput row patch).toSandboxSpecDto (hgiven ▸ Resolved.nil)
  refine ⟨row.name, _, ?_, tr, s, hbuild⟩
  show normalizeName (patch.name <|> row.name) = _
  rw [hname]
  exact hstored.name

/-- An image is given to a sandbox that was created with SSH and without mounts. -/
theorem update_merges_image : ∃ s row, row ∈ s.runtimes ∧
    UpdateMerges (smallConfig 31005) s row true { image := some "other:latest" } := by
  obtain ⟨input, row, s, hstored, hrow, hq⟩ := exists_of_storesRow
    (show storesRow (smallConfig 31005) (.create { name := some "a" })
      (fun input row _ => sshEnabled input.toSandboxSpecDto && (row.mounts.getD []).isEmpty) = true
      by decide +kernel)
  simp only [Bool.and_eq_true, List.isEmpty_iff] at hq
  obtain ⟨hssh, hmounts⟩ := hq
  have hbuilds := buildsUpdate_of_noMounts (smallConfig 31005) s
    { image := some "other:latest" } hstored.wellStored hmounts rfl rfl
  refine ⟨s, row, hrow, hssh ▸ (update_merges hstored hbuilds).mpr ⟨?_, Or.inl rfl, ?_⟩⟩
  · rw [hssh]
    rfl
  · intro _ m hm
    rw [hmounts] at hm
    simp at hm

/-- A sandbox is created without SSH. The empty update gives it an SSH port and daemon. -/
theorem update_adds_ssh :
    ¬ ∀ (cfg : AppConfig) (call : SandboxCall) (input : ProvisionInput) (row : RuntimeEntity)
      (s : World) (patch : UpdateSandboxDto), StoredBy cfg call input row →
      (∃ name spec, BuildsUpdate cfg s row patch name spec) →
      UpdateMerges cfg s row (sshEnabled input.toSandboxSpecDto) patch := by
  intro hclaim
  obtain ⟨input, row, s, hstored, hrow, hq⟩ := exists_of_storesRow
    (show storesRow (smallConfig 31005)
      (.create { name := some "a", ssh := some { enabled := some false } })
      (fun input row _ => !sshEnabled input.toSandboxSpecDto && (row.mounts.getD []).isEmpty) = true
      by decide +kernel)
  simp only [Bool.and_eq_true, Bool.not_eq_true', List.isEmpty_iff] at hq
  obtain ⟨hssh, hmounts⟩ := hq
  -- with no mounts stored, there is a spec of the update
  have hbuilds :=
    buildsUpdate_of_noMounts (smallConfig 31005) s {} hstored.wellStored hmounts rfl rfl
  have hmerges := hclaim (smallConfig 31005) _ input row s {} hstored hbuilds
  rw [hssh] at hmerges
  have hwanted := (faithful_of_merges hstored.wellStored hbuilds hmerges).ssh
  exact absurd hwanted (by decide)

end Microsandbox
