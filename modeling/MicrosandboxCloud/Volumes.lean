import MicrosandboxCloud.World
import MicrosandboxCloud.Process.Log
import MicrosandboxCloud.Process.Transcript

/-!
# Microsandbox — volumes and their data

`createVolume` and `deleteVolume`, the table of volumes and the volumes of the backend. The name of
a backend volume is a function of the normalised volume name, a removal that fails is swallowed,
and a creation that finds a backend volume of its name takes it as it is.

* **`VolumeWorld`** — the table and the backend volumes. Their contents record under which volume
  each piece of data was written.
* **`KeptApart`** — a volume handed out has the quota asked for, and holds nothing that was written
  under a volume reported deleted before.
* **`volumes_kept_apart`** — that holds in every run in which no creation finds a backend volume
  left over from an earlier one.
-/

namespace Microsandbox

open Process Data Text

/-! ## The backend volumes

What the backend keeps under the name of a volume. The contents carry, as a ghost, the id of the
volume through which they were written; the backend knows nothing of it. -/

/-- Data in a backend volume, with the id of the volume it was written under. -/
structure WrittenData where
  volumeId : String
  data : String

/-- A backend volume: what was written into it, newest first, and its quota. -/
structure BackendVolume where
  contents : List WrittenData
  quotaMiB : Option Int

/-- The table of volumes and the backend volumes by name. Ids of rows are among those handed out. -/
structure VolumeWorld where
  volumes : Table VolumeEntity volumeKeys
  issued : List String
  issued_ids : ∀ v ∈ volumes, v.id ∈ issued
  backend : String → Option BackendVolume

namespace VolumeWorld

/-- No volume at all. -/
def fresh : VolumeWorld where
  volumes := .empty
  issued := []
  issued_ids := fun v hv => absurd hv (Table.not_mem_empty v)
  backend := fun _ => none

/-- `save` of an entity without an id. -/
def insertVolume (s : VolumeWorld) (volume : VolumeEntity) : Option VolumeWorld :=
  match h : s.volumes.insert volume with
  | none => none
  | some t => some { s with
      volumes := t
      issued := volume.id :: s.issued
      issued_ids := by
        intro v hv
        rcases (Table.mem_insert h).mp hv with hv | rfl
        · exact List.mem_cons_of_mem _ (s.issued_ids v hv)
        · exact List.mem_cons_self }

/-- The backend volume is removed first, and the row goes whatever has become of that. -/
def deleteVolume (s : VolumeWorld) (id : String) : VolumeWorld :=
  { s with
    volumes := s.volumes.delete fun v => v.id == id
    issued_ids := fun v hv => s.issued_ids v (Table.mem_delete.mp hv).1 }

def setBackend (s : VolumeWorld) (name : String) (volume : Option BackendVolume) : VolumeWorld :=
  { s with backend := Function.update s.backend name volume }

/-- An insertion that is not refused adds the row and hands out its id. -/
theorem insertVolume_spec {s s' : VolumeWorld} {volume : VolumeEntity}
    (h : s.insertVolume volume = some s') :
    s.volumes.insert volume = some s'.volumes ∧ s'.issued = volume.id :: s.issued ∧
      s'.backend = s.backend := by
  unfold insertVolume at h
  split at h
  · cases h
  · rename_i t ht
    cases h
    exact ⟨ht, rfl, rfl⟩

end VolumeWorld

/-! ## Requests

Every call of the backend may fail, and a call that failed may have taken effect all the same.
Writing stands for what sandboxes do with a volume that they have mounted. -/

/-- What the two calls await, and a sandbox's write through a volume it has mounted. -/
inductive VolumeRequest where
  | findVolume (id name : String)
  | saveVolume (name backendName : String) (quotaMiB : Option Int)
  | deleteVolume (id : String)
  | getBackend (name : String)
  | createBackend (name : String) (quotaMiB : Option Int)
  | removeBackend (name : String)
  | write (volumeId data : String)

/-- What an await resolves to. -/
@[reducible] def VolumeRequest.Reply : VolumeRequest → Type
  | .findVolume _ _ => Option VolumeEntity
  | .saveVolume _ _ _ => Except ServiceError VolumeEntity
  | .deleteVolume _ => Except ServiceError Unit
  | .getBackend _ => Except ServiceError Unit
  | .createBackend _ _ => Except ServiceError Unit
  | .removeBackend _ => Except ServiceError Unit
  | .write _ _ => Unit

/-- The requests as a signature of programs. -/
abbrev volumeRequests : Signature := ⟨VolumeRequest, VolumeRequest.Reply⟩

/-- Code that awaits such requests. -/
abbrev VolumeAsync (α : Type) := Prog volumeRequests ServiceError α

/-- The environment's choices. The defaults are those of a healthy backend. -/
structure VolumeAnswer extends Uncertain ServiceError where
  pick : Nat := 0
  uuid : String := "8b5c1f3e"

instance : Inhabited VolumeAnswer := ⟨{}⟩

/-- What `Volume.get` throws for a name it does not know. -/
def backendNotFound : ServiceError := ⟨.error, "volume not found"⟩

namespace VolumeRequest

/-- The meaning of each request. An id is handed out once, and only stored volumes whose backend
volume is there can be written to. -/
def act : (op : VolumeRequest) → VolumeAnswer → VolumeWorld → Option (op.Reply × VolumeWorld)
  | .findVolume id name, a, s =>
    some (pickRow s.volumes.rows (fun v => v.id == id || v.name == name) a.pick, s)
  | .saveVolume name backendName quotaMiB, a, s =>
    if a.uuid ∈ s.issued then none
    else match a.failure with
      | some e => some (.error e, s)
      | none =>
        match s.insertVolume ⟨a.uuid, name, backendName, quotaMiB⟩ with
        | some s' => some (.ok ⟨a.uuid, name, backendName, quotaMiB⟩, s')
        | none => some (.error uniqueViolation, s)
  | .deleteVolume id, a, s => some (a.outcome (), if a.effective then s.deleteVolume id else s)
  | .getBackend name, a, s =>
    some (if s.backend name = none then .error backendNotFound else a.outcome (), s)
  | .createBackend name quotaMiB, a, s =>
    some (a.outcome (), if a.effective then s.setBackend name (some ⟨[], quotaMiB⟩) else s)
  | .removeBackend name, a, s =>
    some (a.outcome (), if a.effective then s.setBackend name none else s)
  | .write volumeId data, _, s =>
    match s.volumes.rows.find? fun v => v.id == volumeId with
    | none => none
    | some v =>
      match s.backend v.backendName with
      | none => none
      | some b => some ((), s.setBackend v.backendName
          (some { b with contents := ⟨volumeId, data⟩ :: b.contents }))

end VolumeRequest

/-- The table and the backend volumes as a handler of requests. -/
def volumeBackend : Handler volumeRequests VolumeWorld VolumeAnswer := ⟨VolumeRequest.act⟩

abbrev awaitVolume (op : VolumeRequest) : VolumeAsync op.Reply :=
  Prog.request (σ := volumeRequests) op

/-! ## The code

The functions of the volume service, in their order. The random id of `createSandboxId` is never
drawn, since the name is not blank there. -/

/-- A body that validation accepts. -/
structure CreateVolumeDto where
  name : String
  quotaMiB : Option Int := none
  quotaMiB_min : ∀ quota, quotaMiB = some quota → 1 ≤ quota

/-- What a caller is told of a volume. -/
structure VolumeSummary where
  volumeId : String
  name : String
  quotaMiB : Option Int

/-- The backend name is left out. -/
def volumeSummary (volume : VolumeEntity) : VolumeSummary :=
  ⟨volume.id, volume.name, volume.quotaMiB⟩

/-- The quota that `ensureVolume` gives the builder. -/
def builderQuota (quotaMiB : Option Int) : Option Int := quotaMiB.filter fun quota => 0 < quota

namespace VolumeControl

/-- The reference is looked up as an id as it stands, and as a name in its normal form. -/
def findVolumeByIdOrName (value : String) : VolumeAsync (Option VolumeEntity) := do
  match ← Prog.ofExcept (normalizeName (some value)) with
  | none => return none
  | some normalized => awaitVolume (.findVolume value normalized)

/-- `microsandbox.ensureVolume`: a volume that is there is taken as it is. -/
def ensureVolume (name : String) (quotaMiB : Option Int) : VolumeAsync Unit := do
  match ← awaitVolume (.getBackend name) with
  | .ok _ => return
  | .error _ =>
    let created ← awaitVolume (.createBackend name (builderQuota quotaMiB))
    Prog.ofExcept created

/-- `microsandbox.removeVolume`: an exception is swallowed. -/
def removeVolume (name : String) : VolumeAsync Unit := do
  let _ ← awaitVolume (.removeBackend name)
  return

/-- The row is stored first and taken back when the backend fails. When taking it back fails too,
that error goes to the caller instead. -/
def createVolume (volumeNamePrefix : String) (input : CreateVolumeDto) :
    VolumeAsync VolumeSummary := do
  match ← Prog.ofExcept (normalizeName (some input.name)) with
  | none => throw ⟨.conflict, "Volume name is required"⟩
  | some name =>
    match ← findVolumeByIdOrName name with
    | some _ => throw ⟨.conflict, "Volume name already exists: " ++ name⟩
    | none =>
      -- the name is not blank, so no random id is drawn
      let volumeId ← Prog.ofExcept (createSandboxId (some name) "")
      let backendName ← Prog.ofExcept (volumeBackendName volumeNamePrefix volumeId)
      let saved ← awaitVolume (.saveVolume name backendName input.quotaMiB)
      let volume ← Prog.ofExcept saved
      tryCatch (ensureVolume volume.backendName volume.quotaMiB) fun error => do
        let _ ← awaitVolume (.deleteVolume volume.id)
        throw error
      return volumeSummary volume

/-- The volume, or a 404. -/
def requireVolume (volumeIdOrName : String) : VolumeAsync VolumeEntity := do
  match ← findVolumeByIdOrName volumeIdOrName with
  | none => throw ⟨.notFound, "Volume not found: " ++ volumeIdOrName⟩
  | some volume => return volume

def deleteVolume (volumeIdOrName : String) : VolumeAsync String := do
  let volume ← requireVolume volumeIdOrName
  removeVolume volume.backendName
  let deleted ← awaitVolume (.deleteVolume volume.id)
  Prog.ofExcept deleted
  return volume.id

end VolumeControl

/-! ## Calls

The calls of clients, and the writes of sandboxes between them, run one at a time. -/

/-- A call of the service, or a write of a sandbox. -/
inductive VolumeCall where
  | createVolume (input : CreateVolumeDto)
  | deleteVolume (volumeIdOrName : String)
  | write (volumeId data : String)

/-- What such a call returns. -/
inductive VolumeReply where
  | created (summary : VolumeSummary)
  | deleted (volumeId : String)
  | written

/-- The program of a call. -/
def VolumeCall.prog (volumeNamePrefix : String) : VolumeCall → VolumeAsync VolumeReply
  | .createVolume input => return .created (← VolumeControl.createVolume volumeNamePrefix input)
  | .deleteVolume volumeIdOrName => return .deleted (← VolumeControl.deleteVolume volumeIdOrName)
  | .write volumeId data => do
    awaitVolume (.write volumeId data)
    return .written

/-- The calls with how each ended, oldest first. -/
abbrev VolumeLog := List (VolumeCall × Except ServiceError VolumeReply)

/-! ## What a call leaves of the volumes there were

One relation for all calls: what was there before is there as it was, or is gone, or has grown by
its own writes. What is new has an id that was not handed out before. -/

/-- A creation does not find a backend volume left over under the name it asks for. -/
def NoLeftover (ev : Event volumeRequests VolumeWorld VolumeAnswer) : Prop :=
  ∀ name, ev.op = .getBackend name → ev.before.backend name = none

/-- Volumes whose ids were handed out before keep their rows, or lose them, and their backend
volumes only grow by what is written under themselves, or are lost. -/
structure Carries (s s' : VolumeWorld) : Prop where
  issued : s.issued ⊆ s'.issued
  row : ∀ v ∈ s'.volumes, v.id ∈ s.issued → v ∈ s.volumes
  backend : ∀ v ∈ s'.volumes, v.id ∈ s.issued → ∀ b, s'.backend v.backendName = some b →
    ∃ b₀, s.backend v.backendName = some b₀ ∧ b.quotaMiB = b₀.quotaMiB ∧
      ∀ w ∈ b.contents, w ∈ b₀.contents ∨ w.volumeId = v.id

namespace Carries

variable {s s₁ s' : VolumeWorld}

theorem refl (s : VolumeWorld) : Carries s s where
  issued := fun _ h => h
  row := fun _ hv _ => hv
  backend := fun _ _ _ b hb => ⟨b, hb, rfl, fun _ hw => Or.inl hw⟩

theorem trans (h : Carries s s₁) (h' : Carries s₁ s') : Carries s s' where
  issued := fun _ hid => h'.issued (h.issued hid)
  row := fun v hv hid => h.row v (h'.row v hv (h.issued hid)) hid
  backend := by
    intro v hv hid b hb
    obtain ⟨b₁, hb₁, hquota₁, hcontents₁⟩ := h'.backend v hv (h.issued hid) b hb
    obtain ⟨b₀, hb₀, hquota₀, hcontents₀⟩ :=
      h.backend v (h'.row v hv (h.issued hid)) hid b₁ hb₁
    refine ⟨b₀, hb₀, hquota₁.trans hquota₀, fun w hw => ?_⟩
    rcases hcontents₁ w hw with hw | hw
    · exact hcontents₀ w hw
    · exact Or.inr hw

/-- Dropping a row and the backend volume of some name. -/
theorem of_deleteVolume (s : VolumeWorld) (id : String) : Carries s (s.deleteVolume id) where
  issued := fun _ h => h
  row := fun _ hv _ => (Table.mem_delete.mp hv).1
  backend := fun _ _ _ b hb => ⟨b, hb, rfl, fun _ hw => Or.inl hw⟩

/-- Only volumes of that backend name lose theirs. -/
theorem of_removeBackend (s : VolumeWorld) (name : String) : Carries s (s.setBackend name none) where
  issued := fun _ h => h
  row := fun _ hv _ => hv
  backend := by
    intro v hv hid b hb
    have hne : v.backendName ≠ name := by
      rintro rfl
      simp [VolumeWorld.setBackend] at hb
    simp only [VolumeWorld.setBackend, Function.update_of_ne hne] at hb
    exact ⟨b, hb, rfl, fun _ hw => Or.inl hw⟩

/-- A new row has a new id, and brings no backend volume. -/
theorem of_insertVolume {volume : VolumeEntity} (hfresh : volume.id ∉ s.issued)
    (h : s.insertVolume volume = some s') : Carries s s' := by
  obtain ⟨hrows, hissued, hbackend⟩ := VolumeWorld.insertVolume_spec h
  have hrow : ∀ v ∈ s'.volumes, v.id ∈ s.issued → v ∈ s.volumes := by
    intro v hv hid
    rcases (Table.mem_insert hrows).mp hv with hold | rfl
    · exact hold
    · exact absurd hid hfresh
  refine ⟨fun id hid => hissued ▸ List.mem_cons_of_mem _ hid, hrow, fun v _ _ b hb => ?_⟩
  rw [hbackend] at hb
  exact ⟨b, hb, rfl, fun _ hw => Or.inl hw⟩

/-- The backend volume of a new row is no other row's, so it may become anything. -/
theorem setBackend {volume : VolumeEntity} (h : Carries s s₁) (hrow : volume ∈ s₁.volumes)
    (hfresh : volume.id ∉ s.issued) (b : Option BackendVolume) :
    Carries s (s₁.setBackend volume.backendName b) where
  issued := h.issued
  row := h.row
  backend := by
    intro v hv hid b' hb'
    have hne : v.backendName ≠ volume.backendName := by
      intro hname
      have heq : v = volume := Table.eq_of_clash hv hrow (Or.inr (Or.inr hname))
      exact hfresh (heq ▸ hid)
    simp only [VolumeWorld.setBackend, Function.update_of_ne hne] at hb'
    exact h.backend v hv hid b' hb'

/-- A write adds to the backend volume of its own row. -/
theorem of_write {volume : VolumeEntity} {b : BackendVolume} {data : String}
    (hrow : volume ∈ s.volumes) (hb : s.backend volume.backendName = some b) :
    Carries s (s.setBackend volume.backendName
      (some { b with contents := ⟨volume.id, data⟩ :: b.contents })) where
  issued := fun _ h => h
  row := fun _ hv _ => hv
  backend := by
    intro v hv hid b' hb'
    -- stored volumes have distinct backend names, so no other volume sees the write
    by_cases hname : v.backendName = volume.backendName
    · obtain rfl : v = volume := Table.eq_of_clash hv hrow (Or.inr (Or.inr hname))
      simp only [VolumeWorld.setBackend, Function.update_self, Option.some.injEq] at hb'
      subst hb'
      refine ⟨b, hb, rfl, fun w hw => ?_⟩
      rcases List.mem_cons.mp hw with rfl | hw
      · exact Or.inr rfl
      · exact Or.inl hw
    · simp only [VolumeWorld.setBackend, Function.update_of_ne hname] at hb'
      exact ⟨b', hb', rfl, fun _ hw => Or.inl hw⟩

end Carries

/-! ## What each call does

One lemma for each function. The condition that no leftover is found is used at one place, where
`ensureVolume` would take it. -/

section Calls

variable {safe : Event volumeRequests VolumeWorld VolumeAnswer → Prop} {s : VolumeWorld}

/-- A lookup changes nothing, and finds stored rows. -/
theorem findVolumeByIdOrName_spec (value : String) :
    Ensures volumeBackend safe (VolumeControl.findVolumeByIdOrName value) s fun x s' =>
      s' = s ∧ ∀ volume, x = .ok (some volume) → volume ∈ s.volumes := by
  unfold VolumeControl.findVolumeByIdOrName
  refine Ensures.bind (Ensures.ofExcept ?_)
  cases normalizeName (some value) with
  | error e => exact ⟨rfl, fun _ h => by cases h⟩
  | ok normalized =>
    cases normalized with
    | none => exact Ensures.pure ⟨rfl, fun _ h => by cases h⟩
    | some normalized =>
      refine Ensures.request_bind fun a r s₁ hact _ => ?_
      cases hact
      refine Ensures.pure ⟨rfl, fun volume h => ?_⟩
      exact (pickRow_some (Except.ok.inj h)).1

/-- An accepted quota is the one the builder gets. -/
theorem CreateVolumeDto.builderQuota_eq (input : CreateVolumeDto) :
    builderQuota input.quotaMiB = input.quotaMiB := by
  unfold builderQuota
  cases h : input.quotaMiB with
  | none => rfl
  | some quota =>
    have hmin := input.quotaMiB_min quota h
    simp only [Option.filter_eq_some_iff, decide_eq_true_eq, true_and]
    omega

theorem deleteVolume_spec (volumeIdOrName : String) :
    Ensures volumeBackend safe (VolumeControl.deleteVolume volumeIdOrName) s fun x s' =>
      Carries s s' ∧ ∀ id, x = .ok id → id ∈ s.issued := by
  unfold VolumeControl.deleteVolume VolumeControl.requireVolume VolumeControl.removeVolume
  simp only [Prog.bind_assoc]
  refine Ensures.bind ((findVolumeByIdOrName_spec volumeIdOrName).mono ?_)
  rintro x s' ⟨rfl, hfound⟩
  cases x with
  | error e => exact ⟨.refl s', fun _ h => by cases h⟩
  | ok found =>
    cases found with
    | none => exact Ensures.throw ⟨.refl s', fun _ h => by cases h⟩
    | some volume =>
      have hrow : volume ∈ s'.volumes := hfound volume rfl
      refine Ensures.request_bind fun a r s₁ hact _ => ?_
      -- the answer is not looked at: the backend volume may be gone or still there
      have hremoved : Carries s' s₁ := by
        cases hact
        split_ifs
        · exact .of_removeBackend s' volume.backendName
        · exact .refl s'
      refine Ensures.request_bind fun a r s₂ hact _ => ?_
      -- the row goes in both cases, and an error of the database goes to the caller
      have hdeleted : Carries s₁ s₂ := by
        cases hact
        split_ifs
        · exact .of_deleteVolume s₁ volume.id
        · exact .refl s₁
      refine Ensures.bind (Ensures.ofExcept ?_)
      cases r with
      | error e => exact ⟨hremoved.trans hdeleted, fun _ h => by cases h⟩
      | ok _ =>
        refine Ensures.pure ⟨hremoved.trans hdeleted, fun id h => ?_⟩
        rw [← Except.ok.inj h]
        exact s'.issued_ids volume hrow

theorem write_spec (volumeNamePrefix volumeId data : String) :
    Ensures volumeBackend safe ((VolumeCall.write volumeId data).prog volumeNamePrefix) s
      fun x s' => Carries s s' ∧ x = .ok .written := by
  refine Ensures.request_bind fun a r s₁ hact _ => ?_
  simp only [volumeBackend, VolumeRequest.act] at hact
  split at hact
  · cases hact
  · rename_i volume hfound
    split at hact
    · cases hact
    · rename_i b hb
      cases hact
      have hrow : volume ∈ s.volumes := List.mem_of_find?_eq_some hfound
      obtain rfl : volume.id = volumeId := by simpa using List.find?_some hfound
      exact Ensures.pure ⟨.of_write hrow hb, rfl⟩

/-- Without a leftover the backend volume is created, and is empty. -/
theorem ensureVolume_spec (name : String) (quotaMiB : Option Int) :
    Ensures volumeBackend NoLeftover (VolumeControl.ensureVolume name quotaMiB) s fun x s' =>
      (s' = s ∨ ∃ b, s' = s.setBackend name b) ∧
        ∀ u, x = .ok u → s' = s.setBackend name (some ⟨[], builderQuota quotaMiB⟩) := by
  refine Ensures.request_bind fun a r s₁ hact hnone => ?_
  -- there is no leftover, so `Volume.get` throws and a volume is created
  have hmissing : s.backend name = none := hnone name rfl
  simp only [volumeBackend, VolumeRequest.act, hmissing, if_true, Option.some.injEq,
    Prod.mk.injEq] at hact
  obtain ⟨rfl, rfl⟩ := hact
  refine Ensures.request_bind fun a r s₁ hact _ => ?_
  cases hact
  cases hfailure : a.failure with
  | none =>
    rw [if_pos (Uncertain.effective_of_none hfailure), Fallible.outcome_of_none hfailure]
    exact Ensures.pure ⟨Or.inr ⟨_, rfl⟩, fun _ _ => rfl⟩
  | some e =>
    rw [Fallible.outcome_of_some hfailure]
    refine Ensures.throw ⟨?_, fun _ h => by cases h⟩
    -- a creation that failed may have made the volume all the same
    split_ifs
    · exact Or.inr ⟨_, rfl⟩
    · exact Or.inl rfl

/-- A creation that returns hands out a new row, with an empty backend volume of the quota asked
for. -/
theorem createVolume_spec (volumeNamePrefix : String) (input : CreateVolumeDto) :
    Ensures volumeBackend NoLeftover (VolumeControl.createVolume volumeNamePrefix input) s
      fun x s' => Carries s s' ∧ ∀ summary, x = .ok summary → summary.volumeId ∉ s.issued ∧
        ∃ v ∈ s'.volumes, v.id = summary.volumeId ∧
          s'.backend v.backendName = some ⟨[], input.quotaMiB⟩ := by
  have hthrow : ∀ (e : ServiceError) (s' : VolumeWorld), Carries s s' → Carries s s' ∧
      ∀ summary, (Except.error e : Except ServiceError VolumeSummary) = .ok summary →
        summary.volumeId ∉ s.issued ∧ ∃ v ∈ s'.volumes, v.id = summary.volumeId ∧
          s'.backend v.backendName = some ⟨[], input.quotaMiB⟩ :=
    fun e s' h => ⟨h, fun _ h' => by cases h'⟩
  unfold VolumeControl.createVolume
  refine Ensures.bind (Ensures.ofExcept ?_)
  cases normalizeName (some input.name) with
  | error e => exact hthrow e s (.refl s)
  | ok name =>
  cases name with
  | none => exact Ensures.throw (hthrow _ s (.refl s))
  | some name =>
  refine Ensures.bind ((findVolumeByIdOrName_spec name).mono ?_)
  rintro x s' ⟨rfl, -⟩
  cases x with
  | error e => exact hthrow e s' (.refl s')
  | ok found =>
  cases found with
  | some volume => exact Ensures.throw (hthrow _ s' (.refl s'))
  | none =>
  refine Ensures.bind (Ensures.ofExcept ?_)
  cases createSandboxId (some name) "" with
  | error e => exact hthrow e s' (.refl s')
  | ok volumeId =>
  refine Ensures.bind (Ensures.ofExcept ?_)
  cases volumeBackendName volumeNamePrefix volumeId with
  | error e => exact hthrow e s' (.refl s')
  | ok backendName =>
  refine Ensures.request_bind fun a r s₁ hact _ => ?_
  simp only [volumeBackend, VolumeRequest.act, Option.ite_none_left_eq_some] at hact
  -- the database draws an id that no row ever had
  obtain ⟨hfresh, hact⟩ := hact
  split at hact
  · rename_i e he
    cases hact
    exact Ensures.throw (hthrow e s' (.refl s'))
  split at hact
  · rename_i t ht
    cases hact
    obtain ⟨hrows, -, -⟩ := VolumeWorld.insertVolume_spec ht
    have hinserted : Carries s' s₁ := .of_insertVolume hfresh ht
    have hrow : ⟨a.uuid, name, backendName, input.quotaMiB⟩ ∈ s₁.volumes :=
      (Table.mem_insert hrows).mpr (Or.inr rfl)
    refine Ensures.bind (Ensures.ofExcept ?_)
    refine Ensures.bind (Ensures.catchError ((ensureVolume_spec _ _).mono ?_))
    rintro x s₂ ⟨hchanged, hok⟩
    have hensured : Carries s' s₂ := by
      -- whatever the backend has made bears the name of the new row
      rcases hchanged with rfl | ⟨b, rfl⟩
      · exact hinserted
      · exact hinserted.setBackend hrow hfresh b
    cases x with
    | ok u =>
      refine Ensures.pure ⟨hensured, fun summary h => ?_⟩
      obtain rfl := hok u rfl
      cases h
      refine ⟨hfresh, _, hrow, rfl, ?_⟩
      simp [VolumeWorld.setBackend, input.builderQuota_eq]
    | error e =>
      -- the row is given back, if the database lets it
      refine Ensures.request_bind fun a' r s₃ hact' _ => ?_
      have hdropped : Carries s₂ s₃ := by
        cases hact'
        split_ifs
        · exact .of_deleteVolume s₂ _
        · exact .refl s₂
      exact Ensures.throw (hthrow e s₃ (hensured.trans hdropped))
  · cases hact
    exact Ensures.throw (hthrow _ s' (.refl s'))

/-- What a call does to the volumes there were, and what its answer says. -/
structure CallDone (c : VolumeCall) (s : VolumeWorld) (x : Except ServiceError VolumeReply)
    (s' : VolumeWorld) : Prop where
  carries : Carries s s'
  deleted : ∀ id, x = .ok (.deleted id) → id ∈ s.issued
  created : ∀ input summary, c = .createVolume input → x = .ok (.created summary) →
    summary.volumeId ∉ s.issued ∧ ∃ v ∈ s'.volumes, v.id = summary.volumeId ∧
      s'.backend v.backendName = some ⟨[], input.quotaMiB⟩

/-- One case for each call, from the lemma of its function. -/
theorem call_spec (volumeNamePrefix : String) (c : VolumeCall) :
    Ensures volumeBackend NoLeftover (c.prog volumeNamePrefix) s (CallDone c s) := by
  cases c with
  | createVolume input =>
    refine Ensures.bind ((createVolume_spec volumeNamePrefix input).mono ?_)
    rintro x s' ⟨hcarries, hcreated⟩
    cases x with
    | error e => exact ⟨hcarries, nofun, nofun⟩
    | ok summary =>
      refine Ensures.pure ⟨hcarries, nofun, fun input' summary' hc hx => ?_⟩
      cases hc
      cases hx
      exact hcreated summary rfl
  | deleteVolume volumeIdOrName =>
    refine Ensures.bind ((deleteVolume_spec volumeIdOrName).mono ?_)
    rintro x s' ⟨hcarries, hdeleted⟩
    cases x with
    | error e => exact ⟨hcarries, nofun, nofun⟩
    | ok id =>
      refine Ensures.pure ⟨hcarries, fun id' h => ?_, nofun⟩
      cases h
      exact hdeleted id rfl
  | write volumeId data =>
    refine (write_spec volumeNamePrefix volumeId data).mono ?_
    rintro x s' ⟨hcarries, rfl⟩
    exact ⟨hcarries, nofun, nofun⟩

end Calls

/-! ## Every run

The log says what was handed out and what was reported deleted, in which order. The invariant is
about the state and the log; the property follows from it, because an id is never handed out again.
-/

/-- A `deleteVolume` call has reported the volume as deleted. -/
def ReportedDeleted (log : VolumeLog) (volumeId : String) : Prop :=
  ∃ c, (c, .ok (.deleted volumeId)) ∈ log

/-- The log is that of `pre`, then a creation that handed out the volume of the summary, then
`rest`. -/
def HandedOut (log pre : VolumeLog) (input : CreateVolumeDto) (summary : VolumeSummary)
    (rest : VolumeLog) : Prop :=
  log = pre ++ (.createVolume input, .ok (.created summary)) :: rest

/-- Volumes handed out are what was asked for. -/
structure KeptApart (log : VolumeLog) (s : VolumeWorld) : Prop where
  /-- when a creation returns, its volume is there -/
  present : ∀ pre input summary, HandedOut log pre input summary [] →
    ∃ v ∈ s.volumes, v.id = summary.volumeId ∧ s.backend v.backendName ≠ none
  /-- it has the quota asked for, and no data of a volume reported deleted before -/
  apart : ∀ pre input summary rest, HandedOut log pre input summary rest →
    ∀ v ∈ s.volumes, v.id = summary.volumeId → ∀ b, s.backend v.backendName = some b →
      b.quotaMiB = input.quotaMiB ∧ ∀ w ∈ b.contents, ¬ ReportedDeleted pre w.volumeId

/-- The invariant: a volume handed out holds its own data only, under an id that was new. -/
structure HoldsOwn (log : VolumeLog) (s : VolumeWorld) : Prop where
  deleted : ∀ id, ReportedDeleted log id → id ∈ s.issued
  handedOut : ∀ pre input summary rest, HandedOut log pre input summary rest →
    summary.volumeId ∈ s.issued ∧ ¬ ReportedDeleted pre summary.volumeId
  own : ∀ pre input summary rest, HandedOut log pre input summary rest →
    ∀ v ∈ s.volumes, v.id = summary.volumeId → ∀ b, s.backend v.backendName = some b →
      b.quotaMiB = input.quotaMiB ∧ ∀ w ∈ b.contents, w.volumeId = v.id
  present : ∀ pre input summary, HandedOut log pre input summary [] →
    ∃ v ∈ s.volumes, v.id = summary.volumeId ∧ s.backend v.backendName ≠ none

/-- What a volume holds it wrote itself, after it was handed out, so under none of the ids reported
deleted before. -/
theorem HoldsOwn.keptApart {log : VolumeLog} {s : VolumeWorld} (h : HoldsOwn log s) :
    KeptApart log s where
  present := h.present
  apart := by
    intro pre input summary rest hout v hv hid b hb
    obtain ⟨hquota, hown⟩ := h.own pre input summary rest hout v hv hid b hb
    refine ⟨hquota, fun w hw hdeleted => ?_⟩
    rw [hown w hw, hid] at hdeleted
    exact (h.handedOut pre input summary rest hout).2 hdeleted

/-- **One call.** A call that finds no leftover keeps the invariant. -/
theorem HoldsOwn.call {log : VolumeLog} {s s' : VolumeWorld} {c : VolumeCall}
    {x : Except ServiceError VolumeReply} (h : HoldsOwn log s) (hdone : CallDone c s x s') :
    HoldsOwn (log ++ [(c, x)]) s' := by
  have hcarries := hdone.carries
  -- where a volume of the longer log was handed out
  have hcases : ∀ {pre input summary rest}, HandedOut (log ++ [(c, x)]) pre input summary rest →
      (pre = log ∧ rest = [] ∧ summary.volumeId ∉ s.issued ∧ ∃ v ∈ s'.volumes,
        v.id = summary.volumeId ∧ s'.backend v.backendName = some ⟨[], input.quotaMiB⟩) ∨
      ∃ rest', rest = rest' ++ [(c, x)] ∧ HandedOut log pre input summary rest' := by
    intro pre input summary rest hout
    rcases snoc_eq_append_cons hout with ⟨rfl, heq, rfl⟩ | ⟨rest', rfl, hout'⟩
    · cases heq
      exact Or.inl ⟨rfl, rfl, hdone.created input summary rfl rfl⟩
    · exact Or.inr ⟨rest', rfl, hout'⟩
  refine ⟨?_, ?_, ?_, ?_⟩
  -- what was reported deleted had been handed out
  · rintro id ⟨c', hmem⟩
    rcases List.mem_append.mp hmem with hmem | hmem
    · exact hcarries.issued (h.deleted id ⟨c', hmem⟩)
    · cases List.mem_singleton.mp hmem
      exact hcarries.issued (hdone.deleted id rfl)
  · intro pre input summary rest hout
    rcases hcases hout with ⟨rfl, -, hnew, v, hv, hid, -⟩ | ⟨rest', -, hout'⟩
    · refine ⟨hid ▸ s'.issued_ids v hv, fun hdeleted => hnew (h.deleted _ hdeleted)⟩
    · obtain ⟨hissued, hnot⟩ := h.handedOut pre input summary rest' hout'
      exact ⟨hcarries.issued hissued, hnot⟩
  · intro pre input summary rest hout v hv hid b hb
    rcases hcases hout with ⟨-, -, -, u, hu, huid, hempty⟩ | ⟨rest', -, hout'⟩
    · obtain rfl : v = u := Table.eq_of_clash hv hu (Or.inl (hid.trans huid.symm))
      rw [hempty] at hb
      cases hb
      exact ⟨rfl, fun w hw => by cases hw⟩
    · have hissued : v.id ∈ s.issued := hid ▸ (h.handedOut pre input summary rest' hout').1
      obtain ⟨b₀, hb₀, hquota, hcontents⟩ := hcarries.backend v hv hissued b hb
      obtain ⟨hquota₀, hown⟩ := h.own pre input summary rest' hout' v
        (hcarries.row v hv hissued) hid b₀ hb₀
      refine ⟨hquota.trans hquota₀, fun w hw => ?_⟩
      rcases hcontents w hw with hw | hw
      · exact hown w hw
      · exact hw
  · intro pre input summary hout
    rcases hcases hout with ⟨-, -, -, v, hv, hid, hempty⟩ | ⟨rest', hrest, -⟩
    · exact ⟨v, hv, hid, by simp [hempty]⟩
    · simp at hrest

/-- **Deleted data stays deleted.** In every run from no volumes in which no creation finds a
backend volume left over under the name it asks for, volumes handed out have the quota asked for
and hold nothing that was written under a volume reported deleted before. -/
theorem volumes_kept_apart (volumeNamePrefix : String) {log : VolumeLog} {s : VolumeWorld}
    (hrun : Logged volumeBackend (VolumeCall.prog volumeNamePrefix) NoLeftover .fresh log s) :
    KeptApart log s := by
  have hinv : HoldsOwn log s := by
    refine hrun.invariant ?_ fun c log s h => (call_spec volumeNamePrefix c).mono fun _ _ => h.call
    constructor
    · rintro id ⟨c, hmem⟩
      cases hmem
    all_goals
      intro pre input summary
      simp [HandedOut]
  exact hinv.keptApart

/-! ## Runs

A volume is deleted and its name used again, with a removal that works and with one that fails. -/

/-- `NoLeftover`, evaluated. -/
def noLeftover (ev : Event volumeRequests VolumeWorld VolumeAnswer) : Bool :=
  match ev.op with
  | .getBackend name => (ev.before.backend name).isNone
  | _ => true

theorem noLeftover_of_check (ev : Event volumeRequests VolumeWorld VolumeAnswer)
    (h : noLeftover ev = true) : NoLeftover ev := by
  intro name hop
  rw [noLeftover, hop] at h
  simpa using h

/-- A body that asks for a volume of the name and quota. -/
def volumeBody (name : String) (quota : Int) (h : 1 ≤ quota) : CreateVolumeDto where
  name := name
  quotaMiB := some quota
  quotaMiB_min := by
    rintro _ ⟨⟩
    exact h

/-- A volume is created, written to, deleted, and created again. -/
def recreation (removal : VolumeAnswer) : List (VolumeCall × List VolumeAnswer) :=
  [(.createVolume (volumeBody "a" 64 (by decide)), [{}, { uuid := "first" }]),
    (.write "first" "secret", []),
    (.deleteVolume "a", [{}, removal]),
    (.createVolume (volumeBody "A" 8 (by decide)), [{}, { uuid := "second" }])]

/-- The backend volume is removed, and the second volume is a new one. -/
theorem volumes_kept_apart_recreation : ∃ log s,
    Logged volumeBackend (VolumeCall.prog "runtime-data") NoLeftover .fresh log s ∧
      log.length = 4 ∧ KeptApart log s := by
  obtain ⟨log, s, hrun, hlen⟩ := exists_logged volumeBackend (VolumeCall.prog "runtime-data")
    .fresh noLeftover_of_check (recreation {})
    (fun log _ => log.length == 4) (by decide +kernel)
  exact ⟨log, s, hrun, by simpa using hlen, volumes_kept_apart "runtime-data" hrun⟩

/-- The last of four calls handed out a volume that holds data of the one the third deleted. -/
def leaked (log : VolumeLog) (s : VolumeWorld) : Bool :=
  match log with
  | [_, _, (_, .ok (.deleted id)), (.createVolume _, .ok (.created summary))] =>
    s.volumes.rows.any fun v => v.id == summary.volumeId &&
      (s.backend v.backendName).any fun b => b.contents.any fun w => w.volumeId == id
  | _ => false

/-- Any outcome of any request. -/
def anyOutcome (_ : Event volumeRequests VolumeWorld VolumeAnswer) : Prop := True

/-- The removal fails, and the second volume is the first one. -/
theorem deleted_volume_handed_out :
    ¬ ∀ (volumeNamePrefix : String) (log : VolumeLog) (s : VolumeWorld),
      Logged volumeBackend (VolumeCall.prog volumeNamePrefix) anyOutcome .fresh log s →
      KeptApart log s := by
  intro hclaim
  obtain ⟨log, s, hrun, hleaked⟩ := exists_logged volumeBackend (VolumeCall.prog "runtime-data")
    .fresh (fun ev (_ : (fun _ => true) ev = true) => show anyOutcome ev from trivial)
    (recreation { failure := some ⟨.error, "volume is in use"⟩ }) leaked (by decide +kernel)
  have hkept := hclaim "runtime-data" log s hrun
  unfold leaked at hleaked
  split at hleaked
  · rename_i c₁ c₂ c₃ id input summary
    simp only [List.any_eq_true, Bool.and_eq_true, beq_iff_eq, Option.any_eq_true] at hleaked
    obtain ⟨v, hv, hid, b, hb, w, hw, hwritten⟩ := hleaked
    obtain ⟨-, hnot⟩ := hkept.apart [c₁, c₂, (c₃, .ok (.deleted id))] input summary [] rfl v hv hid
      b hb
    exact hnot w hw ⟨c₃, by simp [hwritten]⟩
  · cases hleaked

end Microsandbox
