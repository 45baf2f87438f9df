import MicrosandboxCloud.LiveVm
import MicrosandboxCloud.Repetition

/-!
# Microsandbox — an empty update is a no-op for some sandboxes only

`update(sandboxId, {})` rebuilds a request from the row, and the spec of that request is compared
with the row, text by text. A rebuilt port has its name first; the SSH entry that `buildSpec` adds
has its name last.

* **`rebuilt`** — a stored binding after its way through a request.
* **`requiresRecreate_update_iff`** — what the comparison of a row with its empty update comes to.
* **`empty_update_iff`** — the empty update leaves the sandbox alone exactly when the request that
  stored it asked for port 22 itself and the ids of its volumes still lead to them.
-/

namespace Microsandbox

open Process Data Text RuntimeControl Registry

/-! ## Ports through a request

An update without ports goes through the request form: the stored bindings are written as ports of a
request and made into bindings again. All comes back but the order in which the text of a binding
has its fields, which is what the comparison sees. -/

/-- A stored binding after its way through a request: the order of its keys is not kept. -/
def rebuilt (b : RuntimePortBindingRecord) : RuntimePortBindingRecord :=
  { b with nameLast := false }

/-- The name of the binding does not stand last. -/
def NameFirst (b : RuntimePortBindingRecord) : Prop := b.nameLast = false ∨ b.name = none

/-- Does a list of ports have one for SSH? -/
def hasSshPort (ports : List RuntimePortBindingRecord) : Bool :=
  ports.any fun p => p.containerPort == 22

/-- The text of a binding shows where its name stands. -/
theorem toJson_rebuilt_iff (b : RuntimePortBindingRecord) :
    b.toJson = (rebuilt b).toJson ↔ NameFirst b := by
  unfold NameFirst
  rcases b with ⟨_ | n, c, p, q, _ | _⟩ <;>
    simp [rebuilt, RuntimePortBindingRecord.toJson, jsonProperty]

/-- Whether there is a port for SSH depends on the container ports only. -/
theorem hasSshPort_of_same {as bs : List RuntimePortBindingRecord}
    (h : List.Forall₂ SamePort as bs) :
    hasSshPort as = hasSshPort bs := by
  induction h with
  | nil => rfl
  | cons hport _ ih =>
    unfold hasSshPort at ih ⊢
    rw [List.any_cons, List.any_cons, hport.containerPort, ih]

section Ports

variable {cfg : AppConfig} {row : RuntimeEntity}

/-- The ports of an empty update, before SSH is added. -/
theorem resolvePorts_update (hstored : WellStored row) (primaryPort : Option RuntimePortDto) :
    resolvePorts cfg (some (row.portBindings.map portDto)) primaryPort =
      row.portBindings.map fun b => { rebuilt b with hostPort := 0 } := by
  have hne : (row.portBindings.map portDto).isEmpty = false := by simpa using hstored.bound
  unfold resolvePorts
  simp only [Option.getD_some, hne, Bool.false_eq_true, if_false, List.map_map]
  refine List.map_congr_left fun b hb => ?_
  have hname : trimmed (portDto b).name = b.name := hstored.portNames b hb
  simp only [Function.comp_apply, hname]
  rfl

/-- The spec of an empty update has the stored ports, each with its name first. -/
theorem specPorts_update (hstored : WellStored row) :
    specPorts cfg (buildUpdateInput row {}).toSandboxSpecDto =
      (row.portBindings.map fun b => { rebuilt b with hostPort := 0 }) ++
        if hasSshPort row.portBindings then [] else [sshPort] := by
  have hssh : hasSshPort (row.portBindings.map fun b => { rebuilt b with hostPort := 0 }) =
      hasSshPort row.portBindings := by
    unfold hasSshPort
    rw [List.any_map]
    rfl
  show List.map (fun port => { port with hostPort := 0 })
    (if (true && !hasSshPort (resolvePorts cfg (some (row.portBindings.map portDto)) none)) = true
      then resolvePorts cfg (some (row.portBindings.map portDto)) none ++ [sshPort]
      else resolvePorts cfg (some (row.portBindings.map portDto)) none) = _
  -- the stored ports come back as they were; whether SSH is among them does not change
  rw [resolvePorts_update hstored, hssh]
  cases hasSshPort row.portBindings with
  | true => simp
  | false =>
    simp only [Bool.not_false, Bool.and_self, if_true, List.map_append, List.map_map]
    rfl

/-- With a port for SSH, the rebuilt ports stand on the row's host ports. -/
theorem onRowPorts_update (hstored : WellStored row) (hssh : hasSshPort row.portBindings = true) :
    onRowPorts row (specPorts cfg (buildUpdateInput row {}).toSandboxSpecDto) =
      row.portBindings.map rebuilt := by
  rw [specPorts_update hstored, hssh, if_pos rfl, List.append_nil]
  let same : RuntimeEntity := { row with portBindings := row.portBindings.map rebuilt }
  have hhosts : same.portBindings.map (·.hostPort) = row.portBindings.map (·.hostPort) := by
    show (row.portBindings.map rebuilt).map (·.hostPort) = _
    rw [List.map_map]
    rfl
  rw [← onRowPorts_congr hhosts rfl]
  apply onRowPorts_eq
  show List.Forall₂ OnHostPort (row.portBindings.map rebuilt) _
  rw [List.forall₂_map_left_iff, List.forall₂_map_right_iff, List.forall₂_same]
  exact fun b _ => rfl

/-- The bindings of a row and the ports of its empty update have the same texts exactly when there
is a port for SSH and no name stands last. -/
theorem portTexts_update_iff (hstored : WellStored row) :
    row.portBindings.map (·.toJson) =
        (onRowPorts row (specPorts cfg (buildUpdateInput row {}).toSandboxSpecDto)).map (·.toJson) ↔
      hasSshPort row.portBindings = true ∧ ∀ b ∈ row.portBindings, NameFirst b := by
  cases hssh : hasSshPort row.portBindings with
  | true =>
    rw [onRowPorts_update hstored hssh, List.map_map, List.map_inj_left]
    constructor
    · exact fun h => ⟨rfl, fun b hb => (toJson_rebuilt_iff b).mp (h b hb)⟩
    · exact fun h b hb => (toJson_rebuilt_iff b).mpr (h.2 b hb)
  | false =>
    -- the added port makes the list longer
    constructor
    · intro h
      have hlength := congrArg List.length h
      rw [List.length_map, List.length_map, onRowPorts, List.length_mapIdx, specPorts_update hstored,
        hssh] at hlength
      simp at hlength
    · rintro ⟨hfalse, -⟩
      cases hfalse

/-- A list is written name first exactly when writing it anew changes nothing. -/
theorem nameFirst_iff (ports : List RuntimePortBindingRecord) :
    (∀ b ∈ ports, NameFirst b) ↔ ports.map (·.toJson) = (ports.map rebuilt).map (·.toJson) := by
  rw [List.map_map, List.map_inj_left]
  constructor
  · exact fun h b hb => (toJson_rebuilt_iff b).mpr (h b hb)
  · exact fun h b hb => (toJson_rebuilt_iff b).mp (h b hb)

/-- Bindings that agree are rebuilt to the same. -/
theorem rebuilt_of_same {as bs : List RuntimePortBindingRecord} (h : List.Forall₂ SamePort as bs) :
    as.map rebuilt = bs.map rebuilt := by
  induction h with
  | nil => rfl
  | @cons a b _ _ hport _ ih =>
    have hhead : rebuilt a = rebuilt b := by
      cases a
      cases b
      obtain ⟨rfl, rfl, rfl, rfl⟩ := hport
      rfl
    rw [List.map_cons, List.map_cons, hhead, ih]

/-- What does not depend on the host port is the same before and after the ports are put on the
row's host ports. -/
theorem onRowPorts_map {β : Type} (f : RuntimePortBindingRecord → β)
    (hf : ∀ p hostPort, f { p with hostPort := hostPort } = f p)
    (ports : List RuntimePortBindingRecord) : (onRowPorts row ports).map f = ports.map f := by
  apply List.ext_getElem?
  intro i
  rw [List.getElem?_map, onRowPorts, List.getElem?_mapIdx, List.getElem?_map, Option.map_map]
  congr 1
  funext p
  exact hf p _

/-- A port for SSH, by the container ports alone. -/
theorem hasSshPort_eq (ports : List RuntimePortBindingRecord) :
    hasSshPort ports = (ports.map (·.containerPort)).any (· == 22) := by
  unfold hasSshPort
  rw [List.any_map]
  rfl

/-- Whether names stand first, by what the text shows of a binding. -/
theorem nameFirst_eq (ports : List RuntimePortBindingRecord) :
    (∀ b ∈ ports, NameFirst b) ↔
      ∀ k ∈ ports.map (fun b => (b.nameLast, b.name)), k.1 = false ∨ k.2 = none := by
  simp only [List.forall_mem_map, NameFirst]

/-- A request's ports are all name first, and have one for SSH, exactly when none is added. -/
theorem specPorts_iff (input : SandboxSpecDto) :
    (hasSshPort (specPorts cfg input) = true ∧ ∀ p ∈ specPorts cfg input, NameFirst p) ↔
      hasSshPort (resolvePorts cfg input.ports input.primaryPort) = true := by
  -- the resolver puts the name first, and only the port added for SSH has it last
  have hresolved : ∀ p ∈ resolvePorts cfg input.ports input.primaryPort, p.nameLast = false := by
    intro p hp
    obtain ⟨entry, -, rfl⟩ := List.mem_map.mp hp
    rfl
  have hspec : specPorts cfg input =
      (if (sshEnabled input && !hasSshPort (resolvePorts cfg input.ports input.primaryPort)) = true
        then resolvePorts cfg input.ports input.primaryPort ++ [sshPort]
        else resolvePorts cfg input.ports input.primaryPort).map fun p => { p with hostPort := 0 } :=
    rfl
  rw [hspec, hasSshPort_eq, nameFirst_eq, List.map_map, List.map_map]
  -- from here on only the resolved ports matter
  generalize resolvePorts cfg input.ports input.primaryPort = ports at hresolved
  have hssh : ∀ l : List RuntimePortBindingRecord,
      (l.map ((·.containerPort) ∘ fun p => { p with hostPort := 0 })).any (· == 22) =
        hasSshPort l := fun l => (hasSshPort_eq l).symm
  have hkeys : ∀ l : List RuntimePortBindingRecord,
      l.map ((fun b => (b.nameLast, b.name)) ∘ fun p => { p with hostPort := 0 }) =
        l.map fun b => (b.nameLast, b.name) := fun l => rfl
  rw [hssh, hkeys, ← nameFirst_eq]
  cases hhas : hasSshPort ports with
  | true =>
    simp only [Bool.not_true, Bool.and_false, Bool.false_eq_true, if_false]
    exact iff_of_true ⟨hhas, fun p hp => Or.inl (hresolved p hp)⟩ trivial
  | false =>
    refine ⟨fun ⟨hany, hfirst⟩ => ?_, fun h => absurd h Bool.false_ne_true⟩
    -- the added port would be the one with its name last
    split_ifs at hany hfirst with hadd
    · have hlast := hfirst sshPort (List.mem_append_right _ (List.mem_singleton.mpr rfl))
      rcases hlast with hlast | hlast <;> cases hlast
    · rw [hhas] at hany
      cases hany

/-- Of a row kept for a request: its empty update adds nothing and turns nothing round exactly when
the request asked for port 22 itself. -/
theorem ports_of_keep_iff {s : World} {input : ProvisionInput} {name : Option String}
    {spec : RuntimeSpec} (hplan : Planned cfg s input name spec)
    (hkeep : requiresRecreate row spec name = false) :
    (hasSshPort row.portBindings = true ∧ ∀ b ∈ row.portBindings, NameFirst b) ↔
      hasSshPort (resolvePorts cfg input.ports input.primaryPort) = true := by
  have htexts := portTexts_of_keep hkeep
  have hsame := samePorts_of_toJson htexts
  rw [← specPorts_iff, ← hplan.ports_eq, nameFirst_iff, htexts, rebuilt_of_same hsame,
    ← nameFirst_iff, hasSshPort_of_same hsame, nameFirst_eq, hasSshPort_eq,
    onRowPorts_map _ (fun _ _ => rfl), onRowPorts_map _ (fun _ _ => rfl), ← nameFirst_eq,
    ← hasSshPort_eq]

end Ports

/-! ## Mounts through a request

A stored mount refers to its volume by id. Through the request form the volume is looked up again,
which gives the same record as long as the volume is still there under its name. -/

section Mounts

variable {find : String → String → Option VolumeEntity} {s s' : World}
  {tr : List (Event requests World Answer)}

/-- Looking up the id of a mounted volume finds that volume. -/
def FindsMounted (find : String → String → Option VolumeEntity)
    (mounts : List RuntimeVolumeMountRecord) : Prop :=
  ∀ m ∈ mounts, ∀ name v, normalizeName (some m.volumeId) = .ok (some name) →
    find m.volumeId name = some v → v.id = m.volumeId ∧ v.name = m.volumeName

/-- What is stored is what was given, but for the name of the volume. -/
theorem mountRecord_mountDto (v : VolumeEntity) (m : RuntimeVolumeMountRecord) :
    mountRecord v (mountDto m) = m ↔ v.id = m.volumeId ∧ v.name = m.volumeName := by
  cases m
  simp [mountRecord, mountDto]

/-- All mounts come back exactly when all their volumes do. Induction on the mounts. -/
theorem mounts_update_iff {mounts : List RuntimeVolumeMountRecord}
    {p : List RuntimeVolumeMountRecord × List MountInput}
    (hexec : Exec backend (resolveVolumes (mounts.map mountDto)) s tr (.ok p) s')
    (hfind : LooksUpBy find tr) : p.1 = mounts ↔ FindsMounted find mounts := by
  induction mounts generalizing s tr p with
  | nil =>
    cases hexec
    exact ⟨fun _ m hm => absurd hm List.not_mem_nil, fun _ => rfl⟩
  | cons m mounts ih =>
    rw [List.map_cons] at hexec
    unfold resolveVolumes at hexec
    -- the volume of the first mount was looked up by its reference
    obtain ⟨v, s₁, tr₁, tr₂, rfl, hv, hrest⟩ := hexec.of_bind_ok
    obtain ⟨name, hname, hfound⟩ := requireVolume_by hv hfind.left
    rw [if_neg (by simp [mountDto, trimmed])] at hrest
    obtain ⟨q, s₂, tr₃, tr₄, rfl, hq, hlast⟩ := hrest.of_bind_ok
    cases hlast
    have htail := ih hq hfind.right.left
    show mountRecord v (mountDto m) :: q.1 = m :: mounts ↔ _
    -- the first record is the same if its volume has the id and the backend name of the stored one
    rw [List.cons.injEq, mountRecord_mountDto, htail]
    constructor
    · rintro ⟨hhead, hrest⟩ m' hm'
      rcases List.mem_cons.mp hm' with rfl | hm'
      · intro name' v' hname' hfound'
        obtain rfl : name = name' := Option.some.inj (Except.ok.inj (hname.symm.trans hname'))
        obtain rfl : v = v' := Option.some.inj (hfound.symm.trans hfound')
        exact hhead
      · exact hrest m' hm'
    · exact fun h => ⟨h m List.mem_cons_self name v hname hfound,
        fun m' hm' => h m' (List.mem_cons_of_mem _ hm')⟩

end Mounts

/-! ## The comparison with the empty update

With everything else unchanged, `requiresRecreate` finds a difference exactly in the ports or in the
mounts. -/

/-- What the comparison of a row with its empty update comes to. -/
theorem requiresRecreate_update_iff {cfg : AppConfig} {row : RuntimeEntity}
    (hstored : WellStored row) (records : List RuntimeVolumeMountRecord)
    (inputs : List MountInput) :
    requiresRecreate row
        (specOf cfg (buildUpdateInput row {}).toSandboxSpecDto records inputs) row.name = false ↔
      (hasSshPort row.portBindings = true ∧ ∀ b ∈ row.portBindings, NameFirst b) ∧
        records = row.mounts.getD [] := by
  constructor
  · intro hkeep
    exact ⟨(portTexts_update_iff hstored).mp (portTexts_of_keep hkeep),
      (requiresRecreate_eq_false hkeep).mounts.symm⟩
  · rintro ⟨hports, hmounts⟩
    have htexts : row.portBindings.map (·.toJson) =
        (onRowPorts row (specPorts cfg (buildUpdateInput row {}).toSandboxSpecDto)).map (·.toJson) :=
      (portTexts_update_iff hstored).mpr hports
    -- but for the mounts, the spec is the merge of the row and an empty patch
    let bare : RuntimeEntity := { row with mounts := none }
    have hbare : WellStored bare := ⟨hstored.name, hstored.image, hstored.workingDir,
      hstored.autoStopMinutes, hstored.bound, hstored.portNames⟩
    have hname : normalizeName (buildUpdateInput bare {}).name = .ok row.name := hstored.name
    have hmerged : Merged cfg (World.fresh .empty) bare true {} row.name
        (specOf cfg (buildUpdateInput bare {}).toSandboxSpecDto [] []) :=
      merged_of_faithful hbare hname .nil
        ⟨rfl, Or.inl rfl, fun _ m hm => absurd hm List.not_mem_nil⟩
    exact requiresRecreate_of_same ⟨rfl, hmerged.image.symm, hmerged.command.symm, hmerged.env.symm,
      hmerged.secrets.symm, hmerged.workingDir.symm, samePorts_of_toJson htexts, hmounts.symm,
      hmerged.isPublic.symm, hmerged.cpu.symm, hmerged.memoryMiB.symm, hmerged.diskGiB.symm,
      hmerged.autoStopMinutes.symm, hmerged.ephemeral.symm⟩ htexts

/-- The request asked for container port 22 itself, and looking up the id of each mounted volume
finds that volume. -/
structure NothingRebuilt (cfg : AppConfig) (input : SandboxSpecDto)
    (find : String → String → Option VolumeEntity) (row : RuntimeEntity) : Prop where
  ssh : hasSshPort (resolvePorts cfg input.ports input.primaryPort) = true
  mounts : FindsMounted find (row.mounts.getD [])

section Update

variable {cfg : AppConfig} {row : RuntimeEntity} {s s' : World}
  {tr : List (Event requests World Answer)} {find : String → String → Option VolumeEntity}

/-- A row kept for a request is kept for its empty update exactly when nothing is rebuilt. -/
theorem keeps_update_iff {s₀ : World} {input : ProvisionInput} {name₀ name : Option String}
    {spec₀ spec : RuntimeSpec} (hplan : Planned cfg s₀ input name₀ spec₀)
    (hkeep : requiresRecreate row spec₀ name₀ = false)
    (hname : normalizeName (buildUpdateInput row {}).name = .ok name)
    (hbuild : Exec backend (buildSpec cfg (buildUpdateInput row {}).toSandboxSpecDto) s tr
      (.ok spec) s') (hfind : LooksUpBy find tr) :
    requiresRecreate row spec name = false ↔
      NothingRebuilt cfg input.toSandboxSpecDto find row := by
  have hwell := wellStored_of_keep hplan hkeep
  obtain rfl : row.name = name := Except.ok.inj (hwell.name.symm.trans hname)
  unfold buildSpec at hbuild
  obtain ⟨p, s₁, tr₁, tr₂, rfl, hresolve, hrest⟩ := hbuild.of_bind_ok
  cases hrest
  rw [update_volumes] at hresolve
  have hmounts := mounts_update_iff hresolve hfind.left
  rw [requiresRecreate_update_iff hwell, hmounts, ports_of_keep_iff hplan hkeep]
  exact ⟨fun h => ⟨h.1, h.2⟩, fun h => ⟨h.ssh, h.mounts⟩⟩

/-- A replacement that returns has created a VM. -/
theorem provisionReplace_launches {input : ProvisionInput} {name : Option String}
    {spec : RuntimeSpec} {summary : RuntimeSummary}
    (hexec : Exec backend (provisionReplace cfg input name spec row) s tr (.ok summary) s') :
    ∃ ev ∈ tr, ev.op.Launches := by
  unfold provisionReplace launch at hexec
  obtain ⟨replaced, s₁, tr₁, tr₂, rfl, -, hlaunch⟩ := hexec.of_bind_ok
  obtain ⟨ports, s₂, tr₃, tr₄, rfl, -, hrest⟩ := hlaunch.of_bind_ok
  obtain ⟨u, s₃, tr₅, tr₆, rfl, hcreate, -⟩ := hrest.of_bind_ok
  unfold RuntimeControl.createVm at hcreate
  obtain ⟨r, s₄, tr₇, tr₈, rfl, hrequest, -⟩ := hcreate.of_bind_ok
  obtain ⟨ans, -, -, -, rfl⟩ := hrequest.of_request
  exact ⟨⟨s₂, .createDetachedRuntime (createInput replaced spec ports), ans⟩, by simp, trivial⟩

/-- A lookup under a text is the lookup under its normal form. -/
theorem findRuntimeBySandboxId_normal {value id : String} (h : normalizeSandboxId value = .ok id) :
    findRuntimeBySandboxId value = findRuntimeBySandboxId id := by
  unfold findRuntimeBySandboxId
  rw [h, normalizeSandboxId_idem h]

/-- **The empty update.** For a row that a provisioning call has stored, read back, with its VM
running and healthy: the empty update launches nothing and keeps the spec when the request of that
call asked for port 22 itself and the ids of the mounted volumes lead to them. An empty update that
returns does so only then. -/
theorem empty_update_iff {call : SandboxCall} {input : ProvisionInput} {stored : RuntimeEntity}
    {value : String} {x : Except ServiceError RuntimeSummary}
    (hstored : StoredBy cfg call input stored) (hread : ReadBack stored row)
    (hrow : row ∈ s.runtimes) (hvalue : normalizeSandboxId value = .ok row.sandboxId)
    (hexec : Exec backend (update cfg value {}) s tr x s') (hfind : LooksUpBy find tr)
    (hhealthy : StaysHealthy tr) :
    (NothingRebuilt cfg input.toSandboxSpecDto find row → LeavesAlone row tr s') ∧
      ∀ summary, x = .ok summary → LeavesAlone row tr s' →
        NothingRebuilt cfg input.toSandboxSpecDto find row := by
  obtain ⟨s₀, name₀, spec₀, hplan, -, hkept⟩ := hstored.keep
  have hkeep := requiresRecreate_readBack hread hkept
  have hid := normalizeSandboxId_isNormal hvalue
  unfold update at hexec
  rw [findRuntimeBySandboxId_normal hvalue] at hexec
  constructor
  · intro hnothing
    refine .of_looks hexec (findRuntimeBySandboxId_uses _) hrow
      fun found tr₁ tr₂ htr hfound hrest => ?_
    obtain ⟨hfinds, hmisses⟩ := findRuntimeBySandboxId_finds hid hfound
    cases found with
    | none => exact absurd rfl (hmisses rfl row hrow)
    | some other =>
      obtain ⟨hother, hotherid⟩ := hfinds other rfl
      obtain rfl : other = row := World.eq_of_sandboxId hother hrow hotherid
      have hforce : (buildUpdateInput other {}).forceRecreate ≠ some true :=
        show (none : Option Bool) ≠ some true by decide
      refine provision_again hid hforce hrow rfl ?_ (htr ▸ hhealthy).right hrest
      intro name spec before built after htr₂ hname hbuild
      have hbuilt : LooksUpBy find built := (htr₂ ▸ (htr ▸ hfind).right).left.right
      exact (keeps_update_iff hplan hkeep hname hbuild hbuilt).mpr hnothing
  · rintro summary rfl ⟨hquiet, -⟩
    obtain ⟨found, s₁, tr₁, tr₂, rfl, hfound, hrest⟩ := hexec.of_bind_ok
    obtain rfl := exec_looks hfound (findRuntimeBySandboxId_uses _)
    obtain ⟨hfinds, hmisses⟩ := findRuntimeBySandboxId_finds hid hfound
    cases found with
    | none => exact absurd rfl (hmisses rfl row hrow)
    | some other =>
      obtain ⟨hother, hotherid⟩ := hfinds other rfl
      obtain rfl : other = row := World.eq_of_sandboxId hother hrow hotherid
      -- `provision` looks the row up again, and would replace the VM for a changed spec
      obtain ⟨name, spec, primary, found, before, built, after, rfl, hname, hbuild, hagain, hmiss,
        hlast⟩ := exec_provision_ok hid hrest
      refine (keeps_update_iff hplan hkeep hname hbuild hfind.right.left.right).mp ?_
      cases found with
      | none => exact absurd rfl (hmiss rfl other hrow)
      | some again =>
        obtain ⟨hmem, hagainid⟩ := hagain again rfl
        obtain rfl : again = other := World.eq_of_sandboxId hmem hrow hagainid
        by_contra hchanged
        dsimp only at hlast
        rw [if_pos (Or.inr (by simpa using hchanged))] at hlast
        obtain ⟨ev, hev, hlaunches⟩ := provisionReplace_launches hlast
        exact hquiet ev (by simp [hev]) hlaunches

end Update

/-! ### With and without a port 22 of one's own

The two ways in which a sandbox with SSH can have been made. The entry for port 22 that `buildSpec`
adds has its name last; after an empty update it would have it first. -/

/-- A sandbox whose request has a port 22. -/
def withPort22 : SandboxCall :=
  .create { name := some "a", ports := some [{ containerPort := 3000 }, { containerPort := 22 }] }

/-- The row is that of sandbox `a` without mounts, and `q` holds of what an empty update of it asks
for. -/
def updates (q : List (Event requests World Answer) → Bool) (row : RuntimeEntity) (s : World) :
    Bool :=
  row.sandboxId == "a" && (row.mounts.getD []).isEmpty &&
    (run backend (update (smallConfig 31005) "a" {}) [] s).any fun r => mountsNothing r.1 && q r.1

/-- What evaluation finds is a run of the call. -/
theorem exists_of_updates {q : List (Event requests World Answer) → Bool} {row : RuntimeEntity}
    {s : World} (h : updates q row s = true) : normalizeSandboxId "a" = .ok row.sandboxId ∧
      row.mounts.getD [] = [] ∧ ∃ tr x s',
        Exec backend (update (smallConfig 31005) "a" {}) s tr x s' ∧
        LooksUpBy (fun _ _ => none) tr ∧ StaysHealthy tr ∧ q tr = true := by
  simp only [updates, Bool.and_eq_true, beq_iff_eq, List.isEmpty_iff, Option.any_eq_true] at h
  obtain ⟨⟨hid, hmounts⟩, ⟨tr, x, s'⟩, hrun, hfind, hq⟩ := h
  obtain ⟨hlooks, hhealthy⟩ := of_mountsNothing hfind
  refine ⟨?_, hmounts, tr, x, s', exec_of_run hrun, hlooks, hhealthy, hq⟩
  rw [hid]
  decide +kernel

/-- An empty update of a sandbox with a port 22 of its own. -/
theorem empty_update_port22 : ∃ input row s tr x s',
    StoredBy (smallConfig 31005) withPort22 input row ∧
    Exec backend (update (smallConfig 31005) "a" {}) s tr x s' ∧ LeavesAlone row tr s' := by
  obtain ⟨input, row, s, hstored, hrow, hq⟩ := exists_of_storesRow
    (show storesRow (smallConfig 31005) withPort22
      (fun input row s => hasSshPort (resolvePorts (smallConfig 31005) input.ports
        input.primaryPort) && updates (fun _ => true) row s) = true by decide +kernel)
  rw [Bool.and_eq_true] at hq
  obtain ⟨hvalue, hmounts, tr, x, s', hexec, hlooks, hhealthy, -⟩ := exists_of_updates hq.2
  refine ⟨input, row, s, tr, x, s', hstored, hexec, ?_⟩
  refine (empty_update_iff hstored (ReadBack.refl row) hrow hvalue hexec hlooks hhealthy).1
    ⟨hq.1, ?_⟩
  rw [hmounts]
  exact fun m hm => absurd hm List.not_mem_nil

/-- A sandbox is created with the defaults. Its empty update creates a VM. -/
theorem empty_update_recreates :
    ¬ ∀ (cfg : AppConfig) (call : SandboxCall) (input : ProvisionInput) (stored row : RuntimeEntity)
      (s s' : World) (value : String) (find : String → String → Option VolumeEntity)
      (tr : List (Event requests World Answer)) (x : Except ServiceError RuntimeSummary),
      StoredBy cfg call input stored → ReadBack stored row → row ∈ s.runtimes →
      normalizeSandboxId value = .ok row.sandboxId → Exec backend (update cfg value {}) s tr x s' →
      LooksUpBy find tr → FindsMounted find (row.mounts.getD []) → StaysHealthy tr →
      LeavesAlone row tr s' := by
  intro hclaim
  obtain ⟨input, row, s, hstored, hrow, hq⟩ := exists_of_storesRow
    (show storesRow (smallConfig 31005) (.create { name := some "a" })
      (fun _ row s => updates createsVm row s) = true by decide +kernel)
  obtain ⟨hvalue, hmounts, tr, x, s', hexec, hlooks, hhealthy, hlaunched⟩ := exists_of_updates hq
  -- the sandbox has no mounts
  have hfinds : FindsMounted (fun _ _ => none) (row.mounts.getD []) := by
    rw [hmounts]
    exact fun m hm => absurd hm List.not_mem_nil
  obtain ⟨hquiet, -⟩ := hclaim _ _ input row row s s' "a" _ tr x hstored (ReadBack.refl row) hrow
    hvalue hexec hlooks hfinds hhealthy
  obtain ⟨ev, hev, hcreates⟩ := List.any_eq_true.mp hlaunched
  split at hcreates
  · rename_i created hop
    exact hquiet ev hev (by rw [hop]; trivial)
  · cases hcreates

end Microsandbox
