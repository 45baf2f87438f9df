import MicrosandboxCloud.Calls
import MicrosandboxCloud.Volumes

/-!
# Microsandbox — mounts and the volumes they refer to

A row keeps its mounts as JSON, by volume id. Nothing but the services relates them to the table of
volumes.

* **`MountRun`** — sandbox calls and volume calls run one at a time over one table of volumes.
* **`MountsRefer`** — the mounts of stored runtimes refer to stored volumes, and an update that
  leaves them as they are does not miss one.
* **`mounts_refer`** — that holds in every run in which no mounted volume is deleted.
-/

namespace Microsandbox

open Process Data Text RuntimeControl Registry

/-! ## Sandbox calls and volume calls

The two services share one table of volumes and nothing else: a row refers to a volume by id, in a
JSON column that no constraint of the database looks at. Calls of both kinds are run one at a time
over one state. -/

/-- The services after a call on volumes. -/
def World.withVolumes (s : World) (volumes : Table VolumeEntity volumeKeys) : World :=
  { s with volumes := volumes }

/-- The id that the database generates for a row is a UUID, so it is its own normal form. -/
def GeneratedId (id : String) : Prop := normalizeSandboxId id = .ok id

/-- What calls on sandboxes and calls on volumes reach, run one at a time from nothing. A call on
volumes meets `safe`. -/
inductive MountRun (cfg : AppConfig) (volumeNamePrefix : String)
    (safe : World → VolumeCall → List (Event volumeRequests VolumeWorld VolumeAnswer) → Prop) :
    World → VolumeWorld → Prop where
  | start : MountRun cfg volumeNamePrefix safe (.fresh .empty) .fresh
  | sandbox {s s' : World} {v : VolumeWorld} {c : SandboxCall}
      {tr : List (Event requests World Answer)} {x : Except ServiceError Reply}
      (hrun : MountRun cfg volumeNamePrefix safe s v)
      (hexec : Exec backend (c.prog cfg) s tr x s') : MountRun cfg volumeNamePrefix safe s' v
  | volume {s : World} {v v' : VolumeWorld} {c : VolumeCall}
      {tr : List (Event volumeRequests VolumeWorld VolumeAnswer)}
      {x : Except ServiceError VolumeReply} (hrun : MountRun cfg volumeNamePrefix safe s v)
      (hexec : Exec volumeBackend (c.prog volumeNamePrefix) v tr x v')
      (hids : ∀ ev ∈ tr, GeneratedId ev.answer.uuid) (hsafe : safe s c tr) :
      MountRun cfg volumeNamePrefix safe (s.withVolumes v'.volumes) v'

/-- A stored runtime mounts the volume with this id. -/
def Mounted (s : World) (id : String) : Prop :=
  ∃ row ∈ s.runtimes, ∃ mount ∈ row.mounts.getD [], mount.volumeId = id

/-- `deleteVolume` deletes no volume that a stored runtime mounts. -/
def DeletesUnmounted (s : World) (c : VolumeCall)
    (tr : List (Event volumeRequests VolumeWorld VolumeAnswer)) : Prop :=
  ∀ value, c = .deleteVolume value → ∀ ev ∈ tr, ∀ id, ev.op = .deleteVolume id →
    ev.answer.effective = true → ¬ Mounted s id

/-- The mounts refer to stored volumes, and an update without volumes does not miss one of them.
The backend and the database do not throw that error themselves. -/
structure MountsRefer (cfg : AppConfig) (s : World) : Prop where
  stored : ∀ id, Mounted s id → ∃ volume ∈ s.volumes, volume.id = id
  update : ∀ {row : RuntimeEntity} {value : String} {input : UpdateSandboxDto}
    {tr : List (Event requests World Answer)} {x : Except ServiceError Reply} {s' : World},
    row ∈ s.runtimes → normalizeSandboxId value = .ok row.sandboxId → input.volumes = none →
    Exec backend ((SandboxCall.update value input).prog cfg) s tr x s' →
    (∀ ev ∈ tr, ∀ name, ev.answer.failure ≠ some (volumeNotFound name)) →
    ∀ name, x ≠ .error (volumeNotFound name)

/-! ## What sandbox calls mount

Provisioning looks every volume of a request up before it writes anything. What it saves refers to
stored volumes, and other calls save the mounts that they have loaded. -/

/-- The mounts of the row refer to these volumes. -/
def KnownMounts (volumes : Table VolumeEntity volumeKeys) (row : RuntimeEntity) : Prop :=
  ∀ mount ∈ row.mounts.getD [], ∃ volume ∈ volumes, volume.id = mount.volumeId

section Sandbox

variable {cfg : AppConfig} {safe : Event requests World Answer → Prop} {s s₁ s' : World}
  {input : ProvisionInput} {name : Option String} {spec : RuntimeSpec} {row : RuntimeEntity}

/-- What mounts resolve to refers to stored volumes. Induction on the mounts. -/
theorem resolved_known {mounts : List RuntimeVolumeMountDto}
    {records : List RuntimeVolumeMountRecord} {inputs : List MountInput}
    (h : Resolved s mounts records inputs) :
    ∀ mount ∈ records, ∃ volume ∈ s.volumes, volume.id = mount.volumeId := by
  induction h with
  | nil => simp
  | cons hvolume href hsubpath hrest ih => exact List.forall_mem_cons.mpr ⟨⟨_, hvolume, rfl⟩, ih⟩

/-- The mounts of a planned spec were resolved. -/
theorem RuntimeControl.Planned.known (h : Planned cfg s input name spec) (row : RuntimeEntity)
    (hrow : row.mounts = some spec.mounts) : KnownMounts s.volumes row := by
  obtain ⟨records, inputs, hresolved, rfl⟩ := h.spec_eq
  intro mount hmount
  rw [hrow] at hmount
  exact resolved_known hresolved mount hmount

/-- A saved row refers to stored volumes if it did before it was saved. -/
theorem knownMounts_of_save {saved : RuntimeEntity} (hsave : s₁.saveRuntime saved = some s')
    (hrows : ∀ r ∈ s₁.runtimes, KnownMounts s.volumes r) (hsaved : KnownMounts s.volumes saved) :
    ∀ r ∈ s'.runtimes, KnownMounts s.volumes r := by
  intro r hr
  rcases (World.mem_saveRuntime hsave).mp hr with rfl | ⟨hold, -⟩
  · exact hsaved
  · exact hrows r hold

/-- Where a launch starts, the row is a stored one or has the mounts of the spec. -/
theorem RuntimeControl.LaunchStart.knownMounts (hplan : Planned cfg s input name spec)
    (h : LaunchStart cfg safe input name spec s row s₁)
    (hrows : ∀ r ∈ s.runtimes, KnownMounts s.volumes r) :
    ∀ r ∈ s₁.runtimes, KnownMounts s.volumes r := by
  cases h with
  | unhealthy hrow hid hkeep => exact hrows
  | replaced hrow hid hreplace hsave =>
    exact knownMounts_of_save hsave hrows (hplan.known _ rfl)
  | new hnew hvm hinsert hsafe henough hleased =>
    intro r hr
    rw [hleased.runtimes] at hr
    rcases (World.mem_insertRuntime hinsert).mp hr with hold | rfl
    · exact hrows r hold
    · exact hplan.known _ rfl

/-- One case for each way in which provisioning can end. -/
theorem RuntimeControl.ProvisionOutcome.knownMounts {x : Except ServiceError RuntimeSummary}
    (h : ProvisionOutcome cfg safe input s x s')
    (hrows : ∀ r ∈ s.runtimes, KnownMounts s.volumes r) :
    ∀ r ∈ s'.runtimes, KnownMounts s.volumes r := by
  cases h with
  | refused hwhy => exact hrows
  -- the mounts of the row are not written
  | existing hplan hrow hid hforce hkeep hlive hsave =>
    exact knownMounts_of_save hsave hrows fun mount hmount => hrows _ hrow mount hmount
  | rolledBack hplan hnew hfew hleases hruntimes hvms =>
    rw [hruntimes]
    exact hrows
  | launched hplan hstart houtcome =>
    -- the spec was resolved against the stored volumes
    have hstarted := hstart.knownMounts hplan hrows
    cases houtcome with
    | outOfPorts hfew hleases hruntimes hvms =>
      rw [hruntimes]
      exact hstarted
    | createFailed hports hfailure hhard hsafe =>
      rw [(createVm_tables _ _ _).1, hports.leased.runtimes]
      exact hstarted
    | provisioned hports hsafe hprimary hsave =>
      refine knownMounts_of_save hsave ?_ (hplan.known _ rfl)
      show ∀ r ∈ (World.runtimes _), _
      rw [World.setVm, hports.leased.runtimes]
      exact hstarted

/-- **One sandbox call.** -/
theorem knownMounts_step {c : SandboxCall} {tr : List (Event requests World Answer)}
    {x : Except ServiceError Reply} (hexec : Exec backend (c.prog cfg) s tr x s')
    (hrows : ∀ r ∈ s.runtimes, KnownMounts s.volumes r) :
    ∀ r ∈ s'.runtimes, KnownMounts s'.volumes r := by
  rw [exec_volumes hexec]
  cases call_outcome hexec with
  | refused hrequest => exact hrows
  | provisioned hrequest hnormal houtcome => exact houtcome.knownMounts hrows
  | touched hrow hsave hruntimes hleases hvms hcall =>
    rw [hruntimes]
    exact knownMounts_of_save hsave hrows fun mount hmount => hrows _ hrow mount hmount
  | deleted hrow hcall hruntimes hleases hvms hremoved =>
    intro r hr
    rw [hruntimes] at hr
    exact hrows r (Table.mem_delete.mp hr).1

/-- `normalizeName` throws no `NotFoundException`. -/
theorem normalizeName_error {value : Option String} {e : ServiceError}
    (h : normalizeName value = .error e) : e.kind = .error := by
  unfold normalizeName at h
  split at h
  · cases h
  · split_ifs at h
    unfold normalizeSandboxId normalizeSegment at h
    dsimp only at h
    split_ifs at h
    · cases h
      rfl
    all_goals cases h

/-- Provisioning finds the volumes of mounts that refer to stored ones. -/
theorem RuntimeControl.ProvisionOutcome.not_volumeNotFound {tr : List (Event requests World Answer)}
    {x : Except ServiceError RuntimeSummary} (h : ProvisionOutcome cfg (· ∈ tr) input s x s')
    (hmounts : ∀ mount ∈ input.volumes.getD [], trimmed mount.subpath = none ∧
      ∃ volume ∈ s.volumes, Refers mount.volumeId volume)
    (hanswers : ∀ ev ∈ tr, ∀ name, ev.answer.failure ≠ some (volumeNotFound name))
    (missing : String) : x ≠ .error (volumeNotFound missing) := by
  intro hx
  cases h with
  | refused hwhy =>
    cases hx
    cases hwhy with
    -- only the resolver throws this error, and it finds the volume
    | badName hname => cases normalizeName_error hname
    | badMount hmount hrefused =>
      obtain ⟨hsubpath, volume, hvolume, href⟩ := hmounts _ hmount
      rcases hrefused with ⟨hne, -⟩ | ⟨hnone, -⟩
      · exact hne hsubpath
      · exact hnone volume hvolume href
    | filesFailed hplan hrow hid hkeep hfailure hsafe => exact hanswers _ hsafe missing hfailure
  | existing hplan hrow hid hforce hkeep hlive hsave => cases hx
  | rolledBack hplan hnew hfew hleases hruntimes hvms => cases hx
  | launched hplan hstart houtcome =>
    cases houtcome with
    | outOfPorts hfew hleases hruntimes hvms => cases hx
    | createFailed hports hfailure hhard hsafe =>
      cases hx
      exact hanswers _ hsafe missing hfailure
    | provisioned hports hsafe hprimary hsave => cases hx

end Sandbox

/-! ## What volume calls keep

A creation makes a row with an id of its own, and may take it back; a deletion takes one row away.
So a mounted volume can be lost by a deletion only. -/

section Volume

variable {safe : Event volumeRequests VolumeWorld VolumeAnswer → Prop} {v v' : VolumeWorld}
  {tr : List (Event volumeRequests VolumeWorld VolumeAnswer)}

/-- A request keeps a row unless it deletes it, and a row that is new has a generated id. -/
theorem VolumeRequest.act_volumes {op : VolumeRequest} {a : VolumeAnswer} {r : op.Reply}
    (hact : volumeBackend.act op a v = some (r, v')) :
    (∀ volume ∈ v.volumes, volume ∈ v'.volumes ∨
      (op = .deleteVolume volume.id ∧ a.effective = true)) ∧
      ∀ volume ∈ v'.volumes, volume ∈ v.volumes ∨ volume.id = a.uuid := by
  change op.act a v = some (r, v') at hact
  -- most requests leave the table alone
  have hsame : ∀ w : VolumeWorld, w.volumes = v.volumes →
      (∀ volume ∈ v.volumes, volume ∈ w.volumes ∨
        (op = .deleteVolume volume.id ∧ a.effective = true)) ∧
      ∀ volume ∈ w.volumes, volume ∈ v.volumes ∨ volume.id = a.uuid := by
    intro w heq
    rw [heq]
    exact ⟨fun volume h => Or.inl h, fun volume h => Or.inl h⟩
  cases op with
  | saveVolume name backendName quotaMiB =>
    simp only [VolumeRequest.act, Option.ite_none_left_eq_some] at hact
    obtain ⟨hfresh, hact⟩ := hact
    split at hact
    · cases hact
      exact hsame _ rfl
    split at hact
    · rename_i t ht
      cases hact
      obtain ⟨hrows, -, -⟩ := VolumeWorld.insertVolume_spec ht
      refine ⟨fun volume h => Or.inl ((Table.mem_insert hrows).mpr (Or.inl h)), fun volume h => ?_⟩
      rcases (Table.mem_insert hrows).mp h with hold | rfl
      · exact Or.inl hold
      · exact Or.inr rfl
    · cases hact
      exact hsame _ rfl
  | deleteVolume id =>
    cases hact
    -- the deletion may fail before it has any effect
    split_ifs with heffective
    · refine ⟨fun volume h => ?_, fun volume h => Or.inl (Table.mem_delete.mp h).1⟩
      by_cases hid : volume.id = id
      · exact Or.inr ⟨by rw [hid], heffective⟩
      · exact Or.inl (Table.mem_delete.mpr ⟨h, by simpa using hid⟩)
    · exact hsame _ rfl
  | findVolume id name =>
    cases hact
    exact hsame _ rfl
  | getBackend name =>
    cases hact
    exact hsame _ rfl
  | createBackend name quotaMiB | removeBackend name =>
    cases hact
    refine hsame _ ?_
    split_ifs <;> rfl
  | write volumeId data =>
    simp only [VolumeRequest.act] at hact
    split at hact
    · cases hact
    split at hact
    · cases hact
    · cases hact
      exact hsame _ rfl

/-- A run keeps a row unless a deletion of it takes effect. -/
theorem exec_keeps_volume {α : Type} {p : VolumeAsync α} {x : Except ServiceError α}
    (hexec : Exec volumeBackend p v tr x v') {volume : VolumeEntity} (hvolume : volume ∈ v.volumes)
    (hdeletes : ∀ ev ∈ tr, ev.op = .deleteVolume volume.id → ev.answer.effective = false) :
    volume ∈ v'.volumes := by
  induction hexec with
  | pure a v => exact hvolume
  | throw e v => exact hvolume
  | await hact hrest ih =>
    obtain ⟨hfirst, hdeletes⟩ := List.forall_mem_cons.mp hdeletes
    rcases (VolumeRequest.act_volumes hact).1 volume hvolume with hkept | ⟨hop, heffective⟩
    · exact ih hkept hdeletes
    · rw [hfirst hop] at heffective
      cases heffective

/-- The rows after a run are old ones, or have ids that were generated in it. -/
theorem exec_volume_ids {α : Type} {p : VolumeAsync α} {x : Except ServiceError α}
    (hexec : Exec volumeBackend p v tr x v') {volume : VolumeEntity}
    (hvolume : volume ∈ v'.volumes) :
    volume ∈ v.volumes ∨ ∃ ev ∈ tr, volume.id = ev.answer.uuid := by
  induction hexec with
  | pure a v => exact Or.inl hvolume
  | throw e v => exact Or.inl hvolume
  | await hact hrest ih =>
    rcases ih hvolume with hkept | ⟨ev, hev, hid⟩
    · rcases (VolumeRequest.act_volumes hact).2 volume hkept with hold | hnew
      · exact Or.inl hold
      · exact Or.inr ⟨_, List.mem_cons_self, hnew⟩
    · exact Or.inr ⟨ev, List.mem_cons_of_mem _ hev, hid⟩

/-- Making sure of a backend volume writes no table. -/
theorem ensureVolume_volumes (name : String) (quotaMiB : Option Int) :
    Ensures volumeBackend safe (VolumeControl.ensureVolume name quotaMiB) v
      fun _ v' => v'.volumes = v.volumes := by
  refine Ensures.request_bind fun a r v₁ hact _ => ?_
  cases hact
  split
  · exact Ensures.pure rfl
  · refine Ensures.request_bind fun a r v₁ hact _ => ?_
    cases hact
    refine Ensures.ofExcept ?_
    split_ifs <;> rfl

/-- A creation keeps every row there was: it deletes at most the row it has made itself. -/
theorem createVolume_keeps (volumeNamePrefix : String) (input : CreateVolumeDto) :
    Ensures volumeBackend safe (VolumeControl.createVolume volumeNamePrefix input) v
      fun _ v' => ∀ volume ∈ v.volumes, volume ∈ v'.volumes := by
  unfold VolumeControl.createVolume
  refine Ensures.bind (Ensures.ofExcept ?_)
  cases normalizeName (some input.name) with
  | error e => exact fun _ h => h
  | ok name =>
  cases name with
  | none => exact Ensures.throw fun _ h => h
  | some name =>
  refine Ensures.bind ((findVolumeByIdOrName_spec name).mono ?_)
  rintro x v ⟨rfl, -⟩
  cases x with
  | error e => exact fun _ h => h
  | ok found =>
  cases found with
  | some volume => exact Ensures.throw fun _ h => h
  | none =>
  refine Ensures.bind (Ensures.ofExcept ?_)
  cases createSandboxId (some name) "" with
  | error e => exact fun _ h => h
  | ok volumeId =>
  refine Ensures.bind (Ensures.ofExcept ?_)
  cases volumeBackendName volumeNamePrefix volumeId with
  | error e => exact fun _ h => h
  | ok backendName =>
  refine Ensures.request_bind fun a r v₁ hact _ => ?_
  -- the request is the insertion
  have hkept : ∀ volume ∈ v.volumes, volume ∈ v₁.volumes := by
    intro volume h
    rcases (VolumeRequest.act_volumes hact).1 volume h with hkept | ⟨hop, -⟩
    · exact hkept
    · cases hop
  simp only [volumeBackend, VolumeRequest.act, Option.ite_none_left_eq_some] at hact
  obtain ⟨hfresh, hact⟩ := hact
  refine Ensures.bind (Ensures.ofExcept ?_)
  cases r with
  | error e => exact hkept
  | ok saved =>
  have hsaved : saved.id = a.uuid := by
    split at hact
    · cases hact
    · split at hact
      · cases hact
        rfl
      · cases hact
  refine Ensures.bind (Ensures.catchError ((ensureVolume_volumes _ _).mono ?_))
  intro x v₂ hsame
  cases x with
  | ok u =>
    refine Ensures.pure ?_
    rw [hsame]
    exact hkept
  | error e =>
    refine Ensures.request_bind fun a' r v₃ hact' _ => ?_
    refine Ensures.throw fun volume h => ?_
    have hstored : volume ∈ v₂.volumes := hsame ▸ hkept volume h
    rcases (VolumeRequest.act_volumes hact').1 volume hstored with hkept' | ⟨hop, -⟩
    · exact hkept'
    · -- the row that is given back has an id that no earlier row has
      have hid : saved.id = volume.id := VolumeRequest.deleteVolume.inj hop
      rw [← hsaved, hid] at hfresh
      exact absurd (v.issued_ids volume h) hfresh

/-- A volume call keeps the mounted volumes, when it deletes none of them. -/
theorem mounted_volume_kept {s : World} {volumeNamePrefix : String} {c : VolumeCall}
    {x : Except ServiceError VolumeReply}
    (hexec : Exec volumeBackend (c.prog volumeNamePrefix) v tr x v')
    (hsafe : DeletesUnmounted s c tr) {volume : VolumeEntity} (hvolume : volume ∈ v.volumes)
    (hmounted : Mounted s volume.id) : volume ∈ v'.volumes := by
  cases c with
  | createVolume input =>
    obtain ⟨x₀, hcreate⟩ := hexec.of_map
    exact (createVolume_keeps volumeNamePrefix input).exec hcreate volume hvolume
  | deleteVolume value =>
    refine exec_keeps_volume hexec hvolume fun ev hev hop => ?_
    -- were the volume gone, a deletion of it had taken effect
    by_contra heffective
    exact hsafe value rfl ev hev volume.id hop (by simpa using heffective) hmounted
  | write volumeId data =>
    refine exec_keeps_volume hexec hvolume fun ev hev hop => ?_
    have huses : ((VolumeCall.write volumeId data).prog volumeNamePrefix).Uses
        fun op => op = VolumeRequest.write volumeId data :=
      (Prog.uses_await _ _).mpr ⟨rfl, fun _ => (Prog.uses_pure _).mpr trivial⟩
    cases hop.symm.trans (hexec.uses huses ev hev)

end Volume

/-! ## Every run

The invariant joins what is known of the two tables: the volumes of both services are the same, and
every mount refers to one of them. -/

/-- The invariant: one table of volumes with generated ids, which every mount refers to. -/
structure MountsKnown (s : World) (v : VolumeWorld) : Prop where
  same : s.volumes = v.volumes
  ids : ∀ volume ∈ s.volumes, IsNormal volume.id
  known : ∀ row ∈ s.runtimes, KnownMounts s.volumes row

/-- Induction on the run, with one case for each kind of call. -/
theorem MountRun.mountsKnown {cfg : AppConfig} {volumeNamePrefix : String} {s : World}
    {v : VolumeWorld} (hrun : MountRun cfg volumeNamePrefix DeletesUnmounted s v) :
    MountsKnown s v := by
  induction hrun with
  | start =>
    exact ⟨rfl, fun volume h => absurd h (Table.not_mem_empty volume),
      fun row h => absurd h (Table.not_mem_empty row)⟩
  | sandbox hrun hexec ih =>
    refine ⟨(exec_volumes hexec).trans ih.same, ?_, knownMounts_step hexec ih.known⟩
    rw [exec_volumes hexec]
    exact ih.ids
  | @volume s v v' c tr x hrun hexec hids hsafe ih =>
    refine ⟨rfl, fun volume hvolume => ?_, fun row hrow mount hmount => ?_⟩
    · rcases exec_volume_ids hexec hvolume with hold | ⟨ev, hev, hid⟩
      · exact ih.ids volume (ih.same ▸ hold)
      · rw [hid]
        exact normalizeSandboxId_isNormal (hids ev hev)
    · obtain ⟨volume, hvolume, hid⟩ := ih.known row hrow mount hmount
      -- the volume is mounted, so the call has not deleted it
      have hmounted : Mounted s volume.id := ⟨row, hrow, mount, hmount, hid.symm⟩
      exact ⟨volume, mounted_volume_kept hexec hsafe (ih.same ▸ hvolume) hmounted, hid⟩

/-- **Mounts refer to stored volumes.** In every run in which no deletion takes away a volume that a
stored runtime mounts, every mount refers to a stored volume, and an update that leaves the mounts
as they are finds their volumes. -/
theorem mounts_refer (cfg : AppConfig) (volumeNamePrefix : String) {s : World} {v : VolumeWorld}
    (hrun : MountRun cfg volumeNamePrefix DeletesUnmounted s v) : MountsRefer cfg s := by
  have hinv := hrun.mountsKnown
  refine ⟨?_, ?_⟩
  · rintro id ⟨row, hrow, mount, hmount, rfl⟩
    exact hinv.known row hrow mount hmount
  · intro row value input tr x s' hrow hid hvolumes hexec hanswers missing hx
    -- the update is made of the stored row
    have hrequest : (SandboxCall.update value input).request s (drawnText tr) =
        some (buildUpdateInput row input) := by
      rw [SandboxCall.request, hid]
      simp only [findRow_eq_some hrow, Option.map_some]
    cases call_outcome hexec with
    | refused hnone =>
      rw [hrequest] at hnone
      cases hnone
    | touched hrow hsave hruntimes hleases hvms hcall => cases hcall
    | deleted hrow hcall hruntimes hleases hvms hremoved =>
      obtain ⟨_, _, hcall, -⟩ := hcall
      cases hcall
    | @provisioned input' x s' hrequest' hnormal houtcome =>
      obtain rfl : buildUpdateInput row input = input' :=
        Option.some.inj (hrequest.symm.trans hrequest')
      refine houtcome.not_volumeNotFound ?_ hanswers missing ?_
      · rw [buildUpdateInput, hvolumes]
        -- its mounts name the stored volumes by their ids, which are normal forms
        intro mount hmount
        obtain ⟨record, hrecord, rfl⟩ := List.mem_map.mp hmount
        obtain ⟨volume, hvolume, hsame⟩ := hinv.known row hrow record hrecord
        have hnormal : IsNormal record.volumeId := hsame ▸ hinv.ids volume hvolume
        exact ⟨rfl, volume, hvolume, record.volumeId, normalizeName_eq_self hnormal, Or.inl hsame⟩
      · cases x with
        | ok summary => cases hx
        | error e =>
          cases hx
          rfl

/-! ## Runs

Runs on fixed calls: a volume is mounted and stays, and the same volume is deleted under the sandbox
that mounts it. -/

/-- A call with its answers. -/
inductive MountCall where
  | sandbox (call : SandboxCall) (answers : List Answer)
  | volume (call : VolumeCall) (answers : List VolumeAnswer)

/-- Run the listed calls one after the other, as long as the generated ids are normal and `check`
finds the calls on volumes safe. -/
def runMounts (cfg : AppConfig) (volumeNamePrefix : String)
    (check : World → VolumeCall → List (Event volumeRequests VolumeWorld VolumeAnswer) → Bool) :
    List MountCall → World → VolumeWorld → Option (World × VolumeWorld)
  | [], s, v => some (s, v)
  | .sandbox call answers :: rest, s, v =>
    (run backend (call.prog cfg) answers s).bind fun r =>
      runMounts cfg volumeNamePrefix check rest r.2.2 v
  | .volume call answers :: rest, s, v =>
    (run volumeBackend (call.prog volumeNamePrefix) answers v).bind fun r =>
      if r.1.all (fun ev => (normalizeSandboxId ev.answer.uuid).toOption == some ev.answer.uuid) &&
          check s call r.1 then
        runMounts cfg volumeNamePrefix check rest (s.withVolumes r.2.2.volumes) r.2.2
      else none

/-- An id that evaluation finds to be its own normal form. -/
theorem generatedId_of_toOption {id : String}
    (h : ((normalizeSandboxId id).toOption == some id) = true) : GeneratedId id := by
  rw [GeneratedId]
  cases hid : normalizeSandboxId id with
  | error e =>
    rw [hid, beq_iff_eq] at h
    cases h
  | ok v =>
    rw [hid, beq_iff_eq] at h
    cases h
    rfl

/-- A property that evaluation finds at the end of some calls holds of what they reach. -/
theorem exists_mountRun (cfg : AppConfig) (volumeNamePrefix : String)
    (safe : World → VolumeCall → List (Event volumeRequests VolumeWorld VolumeAnswer) → Prop)
    (check : World → VolumeCall → List (Event volumeRequests VolumeWorld VolumeAnswer) → Bool)
    (hcheck : ∀ s c tr, check s c tr = true → safe s c tr) (calls : List MountCall)
    (p : World → Bool) (hrun : (runMounts cfg volumeNamePrefix check calls (.fresh .empty)
      .fresh).any (fun r => p r.1) = true) :
    ∃ s v, MountRun cfg volumeNamePrefix safe s v ∧ p s = true := by
  obtain ⟨⟨s, v⟩, hres, hp⟩ := (Option.any_eq_true _ _).mp hrun
  refine ⟨s, v, ?_, hp⟩
  -- the calls still to run go on from what is already reached
  suffices hgen : ∀ calls s₁ v₁, MountRun cfg volumeNamePrefix safe s₁ v₁ →
      runMounts cfg volumeNamePrefix check calls s₁ v₁ = some (s, v) →
      MountRun cfg volumeNamePrefix safe s v from hgen calls _ _ .start hres
  intro calls
  induction calls with
  | nil =>
    intro s₁ v₁ hreached hres
    cases hres
    exact hreached
  | cons call rest ih =>
    intro s₁ v₁ hreached hres
    cases call with
    | sandbox call answers =>
      obtain ⟨⟨tr, x, s₂⟩, hcall, hrest⟩ := Option.bind_eq_some_iff.mp hres
      exact ih s₂ v₁ (.sandbox hreached (exec_of_run hcall)) hrest
    | volume call answers =>
      obtain ⟨⟨tr, x, v₂⟩, hcall, hrest⟩ := Option.bind_eq_some_iff.mp hres
      rw [Option.ite_none_right_eq_some, Bool.and_eq_true, List.all_eq_true] at hrest
      obtain ⟨⟨hids, hchecked⟩, hrest⟩ := hrest
      have hsafe : safe s₁ call tr := hcheck s₁ call tr hchecked
      refine ih _ v₂ (.volume hreached (exec_of_run hcall) (fun ev hev => ?_) hsafe) hrest
      exact generatedId_of_toOption (hids ev hev)

/-- Some stored runtime mounts a volume that is not stored. -/
def mountDangles (s : World) : Bool :=
  s.runtimes.rows.any fun row => (row.mounts.getD []).any fun mount =>
    s.volumes.rows.all fun volume => volume.id != mount.volumeId

/-- A mount of a volume that is not stored refers to none. -/
theorem not_mountsRefer_of_dangles {cfg : AppConfig} {s : World} (h : mountDangles s = true) :
    ¬ MountsRefer cfg s := by
  intro hrefer
  simp only [mountDangles, List.any_eq_true, List.all_eq_true, bne_iff_ne] at h
  obtain ⟨row, hrow, mount, hmount, hnone⟩ := h
  obtain ⟨volume, hvolume, hid⟩ := hrefer.stored _ ⟨row, hrow, mount, hmount, rfl⟩
  exact hnone volume hvolume hid

/-- The quota of the runs is one that the request may ask for. -/
theorem one_le_quota : (1 : Int) ≤ 64 := by decide

/-- The volume `data` is created and mounted by the sandbox `a`. -/
def mountedVolume : List MountCall :=
  [.volume (.createVolume (volumeBody "data" 64 one_le_quota)) [{}, { uuid := "first" }],
    .sandbox (.create
      { name := some "a", volumes := some [{ volumeId := "data", mountPath := "/data" }] }) []]

/-- No call of the kind that the condition is about. -/
def deletesNothing (_ : World) (c : VolumeCall)
    (_ : List (Event volumeRequests VolumeWorld VolumeAnswer)) : Bool :=
  match c with
  | .deleteVolume _ => false
  | _ => true

/-- A call that deletes no volume deletes no mounted one. -/
theorem deletesUnmounted_of_deletesNothing (s : World) (c : VolumeCall)
    (tr : List (Event volumeRequests VolumeWorld VolumeAnswer))
    (h : deletesNothing s c tr = true) : DeletesUnmounted s c tr := by
  rintro value rfl
  cases h

/-- The mount refers to the volume while nobody deletes it. -/
theorem mounts_refer_mounted : ∃ s, Mounted s "first" ∧ MountsRefer (smallConfig 31005) s := by
  obtain ⟨s, v, hrun, hmounted⟩ := exists_mountRun (smallConfig 31005) "runtime-data"
    DeletesUnmounted deletesNothing deletesUnmounted_of_deletesNothing mountedVolume
    (fun s => s.runtimes.rows.any fun row => (row.mounts.getD []).any fun mount =>
      mount.volumeId == "first") (by decide +kernel)
  simp only [List.any_eq_true, beq_iff_eq] at hmounted
  exact ⟨s, hmounted, mounts_refer (smallConfig 31005) "runtime-data" hrun⟩

/-- Any call on volumes. -/
def anyVolumeCall (_ : World) (_ : VolumeCall)
    (_ : List (Event volumeRequests VolumeWorld VolumeAnswer)) : Prop := True

/-- The volume is deleted under the sandbox that mounts it. -/
theorem mounted_volume_deleted :
    ¬ ∀ (cfg : AppConfig) (volumeNamePrefix : String) (s : World) (v : VolumeWorld),
      MountRun cfg volumeNamePrefix anyVolumeCall s v → MountsRefer cfg s := by
  intro hclaim
  obtain ⟨s, v, hrun, hdangles⟩ := exists_mountRun (smallConfig 31005) "runtime-data"
    anyVolumeCall (fun _ _ _ => true) (fun _ _ _ _ => trivial)
    (mountedVolume ++ [.volume (.deleteVolume "data") []]) mountDangles (by decide +kernel)
  exact not_mountsRefer_of_dangles hdangles (hclaim _ _ s v hrun)

end Microsandbox
