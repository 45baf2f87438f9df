import MicrosandboxCloud.Calls

/-!
# Microsandbox — what a provisioning call leaves in the row

* **`requiresRecreate_stored`** — however a provisioning run that returns came about, the row it
  stored compares equal, text by text, with the spec it was for.
* **`WellStored`** — the texts, the name and the bindings of such a row.
* **`StoredBy`** — the row of a sandbox after a call that returned, with the request it was for.
-/

namespace Microsandbox

open Process Data Text

namespace RuntimeControl

open Registry

/-! ## Ports that were assigned

To assign host ports is to write them into the ports of the spec, so the bindings of a launched row
are the ports of its spec on some host ports. -/

/-- A binding is the port on some host port. -/
def OnHostPort (binding port : RuntimePortBindingRecord) : Prop :=
  binding = { port with hostPort := binding.hostPort }

/-- The leased host ports are written into the ports in order. -/
theorem setHostPorts_onHostPort (ports : List RuntimePortBindingRecord) (leased : List Int) :
    List.Forall₂ OnHostPort (setHostPorts ports leased) ports := by
  induction ports generalizing leased with
  | nil => cases leased <;> exact .nil
  | cons port ports ih =>
    cases leased with
    | nil => exact List.forall₂_same.mpr fun port _ => rfl
    | cons hostPort leased => exact .cons rfl (ih leased)

/-- The same, with the host ports of the row first. Induction on its bindings. -/
theorem assignHostPorts_onHostPort (existing ports : List RuntimePortBindingRecord)
    (leased : List Int) :
    List.Forall₂ OnHostPort (assignHostPorts existing ports leased) ports := by
  induction existing generalizing ports with
  | nil => exact setHostPorts_onHostPort ports leased
  | cons binding existing ih =>
    cases ports with
    | nil => exact .nil
    | cons port ports => exact .cons rfl (ih ports)

/-- The ports of a row, put on the row's host ports, are the row's bindings. -/
theorem onRowPorts_eq {row : RuntimeEntity} {ports : List RuntimePortBindingRecord}
    (h : List.Forall₂ OnHostPort row.portBindings ports) :
    onRowPorts row ports = row.portBindings := by
  unfold onRowPorts
  generalize row.portBindings = bindings at h
  generalize row.hostPort = hostPort
  apply List.ext_getElem?
  intro i
  rw [List.getElem?_mapIdx]
  have hlength := h.length_eq
  by_cases hi : i < bindings.length
  · have hi' : i < ports.length := hlength ▸ hi
    rw [List.getElem?_eq_getElem hi, List.getElem?_eq_getElem hi', Option.map_some, Option.map_some,
      Option.getD_some]
    have hport : OnHostPort bindings[i] ports[i] := h.get hi hi'
    exact congrArg some hport.symm
  · rw [List.getElem?_eq_none (by omega), List.getElem?_eq_none (by omega), Option.map_none]

/-! ## The comparison of a stored row with its spec

What a run has stored is compared with the spec that it was stored from. Nothing should differ,
however the run came about; the ports are the part where that needs a proof. -/

/-- Nothing to recreate where every column agrees and the bindings have the same texts. -/
theorem requiresRecreate_of_same {row : RuntimeEntity} {spec : RuntimeSpec} {name : Option String}
    (h : Unchanged row spec name)
    (hports : row.portBindings.map (·.toJson) = (onRowPorts row spec.ports).map (·.toJson)) :
    requiresRecreate row spec name = false := by
  simp only [requiresRecreate, Bool.or_eq_false_iff, bne_eq_false_iff_eq, Bool.not_eq_false',
    textsDiffer, portBindingsEqual, mountRecordsEqual, beq_iff_eq]
  refine ⟨⟨⟨⟨⟨⟨⟨⟨⟨⟨⟨⟨⟨h.name, h.image⟩, ?_⟩, ?_⟩, ?_⟩, h.workingDir⟩, ?_⟩, ?_⟩, h.isPublic⟩, h.cpu⟩,
    h.memoryMiB⟩, h.diskGiB⟩, h.autoStopMinutes⟩, h.ephemeral⟩
  · rw [h.command]
  · rw [h.environment]
  · rw [h.secrets]
  · rw [hports]
  · rw [h.mounts]

/-- A row that is kept has bindings with the texts of the spec's ports. -/
theorem portTexts_of_keep {row : RuntimeEntity} {spec : RuntimeSpec} {name : Option String}
    (h : requiresRecreate row spec name = false) :
    row.portBindings.map (·.toJson) = (onRowPorts row spec.ports).map (·.toJson) := by
  simp only [requiresRecreate, Bool.or_eq_false_iff, Bool.not_eq_false', portBindingsEqual] at h
  exact Json.arr.inj (Json.stringify_inj (beq_iff_eq.mp h.1.1.1.1.1.1.1.2))

/-- What the end of a launch saves needs no re-creation for the spec of the launch. -/
theorem requiresRecreate_provisioned {name : Option String} {spec : RuntimeSpec}
    {row : RuntimeEntity} {ports : List RuntimePortBindingRecord}
    (hports : List.Forall₂ OnHostPort ports spec.ports) (primary : RuntimePortBindingRecord)
    (appHealthy sshHealthy : Bool) (lastActiveAt : Option Int) :
    requiresRecreate
      (provisionedRow name spec row ports primary appHealthy sshHealthy lastActiveAt) spec name =
        false := by
  let saved : RuntimeEntity :=
    provisionedRow name spec row ports primary appHealthy sshHealthy lastActiveAt
  have hrow : onRowPorts saved spec.ports = saved.portBindings := onRowPorts_eq hports
  refine requiresRecreate_of_same ⟨rfl, rfl, rfl, rfl, rfl, rfl, ?_, rfl, rfl, rfl, rfl, rfl, rfl,
    rfl⟩ ?_
  · rw [hrow]
    exact List.forall₂_same.mpr fun b _ => ⟨rfl, rfl, rfl, rfl⟩
  · rw [hrow]

/-- A run that returns has stored a row that needs no re-creation for the spec. -/
def Stores (name : Option String) (spec : RuntimeSpec) (sandboxId : String)
    (x : Except ServiceError RuntimeSummary) (s : World) : Prop :=
  ∀ summary, x = .ok summary → ∃ row ∈ s.runtimes, summary = runtimeStatusSummary row ∧
    row.sandboxId = sandboxId ∧ requiresRecreate row spec name = false

section Stores

variable {cfg : AppConfig} {safe : Event requests World Answer → Prop} {s : World}
  {input : ProvisionInput} {name : Option String} {spec : RuntimeSpec} {row : RuntimeEntity}

theorem Stores.error (e : ServiceError) : Stores name spec input.sandboxId (.error e) s :=
  fun _ h => by cases h

/-- The save of the healthy existing branch changes nothing that is compared. -/
theorem requiresRecreate_synced (h : requiresRecreate row spec name = false)
    (lastActiveAt : Option Int) :
    requiresRecreate (syncedRow name spec row lastActiveAt) spec name = false := by
  have hsame := requiresRecreate_eq_false h
  have htexts := portTexts_of_keep h
  exact requiresRecreate_of_same
    ⟨rfl, hsame.image, hsame.command, hsame.environment, hsame.secrets, hsame.workingDir,
      hsame.ports, hsame.mounts, hsame.isPublic, hsame.cpu, hsame.memoryMiB, hsame.diskGiB,
      hsame.autoStopMinutes, hsame.ephemeral⟩ htexts

/-- A launch that returns has saved its row. -/
theorem LaunchOutcome.stores {x : Except ServiceError RuntimeSummary} {s' : World}
    (h : LaunchOutcome cfg safe name spec row s x s') (hid : row.sandboxId = input.sandboxId) :
    Stores name spec input.sandboxId x s' := by
  cases h with
  | outOfPorts => exact Stores.error _
  | createFailed => exact Stores.error _
  | provisioned hports hsafe hprimary hsave =>
    intro summary hsummary
    cases hsummary
    refine ⟨_, (World.mem_saveRuntime hsave).mpr (Or.inl rfl), rfl, hid,
      requiresRecreate_provisioned ?_ _ _ _ _⟩
    rw [hports.ports_eq]
    exact assignHostPorts_onHostPort _ _ _

/-- **What was persisted compares equal.** A provisioning run that returns has stored, under the id
it returns, a row that needs no re-creation for the spec of the run. -/
theorem ProvisionOutcome.stored {s' : World} {summary : RuntimeSummary}
    (h : ProvisionOutcome cfg safe input s (.ok summary) s') :
    ∃ name spec row, Planned cfg s input name spec ∧ row ∈ s'.runtimes ∧
      summary = runtimeStatusSummary row ∧ row.sandboxId = input.sandboxId ∧
      requiresRecreate row spec name = false := by
  generalize hx : (Except.ok summary : Except ServiceError RuntimeSummary) = x at h
  cases h with
  | refused hwhy => cases hx
  | rolledBack => cases hx
  | @existing name spec row lastActiveAt s' hplan hrow hid hforce hkeep hlive hsave =>
    cases hx
    exact ⟨name, spec, syncedRow name spec row lastActiveAt, hplan,
      (World.mem_saveRuntime hsave).mpr (Or.inl rfl), rfl, hid,
      requiresRecreate_synced hkeep lastActiveAt⟩
  | @launched name spec row s₁ s' x hplan hstart houtcome =>
    obtain ⟨saved, hsaved⟩ := houtcome.stores hstart.row_mem.2.1 summary hx.symm
    exact ⟨name, spec, saved, hplan, hsaved⟩

end Stores

end RuntimeControl

namespace RuntimeControl

open Registry

/-! ## Rows as requests left them

A row is made of a spec, and a spec is made of trimmed texts. So the next request that takes them
over, as an update does, finds them trimmed already. -/

/-- What a row looks like after a provisioning call: its texts are trimmed, its name is normal, and
it has bindings. -/
structure WellStored (row : RuntimeEntity) : Prop where
  name : normalizeName row.name = .ok row.name
  image : trimmed (some row.image) = some row.image
  workingDir : trimmed row.workingDir = row.workingDir
  autoStopMinutes : row.autoStopMinutes.filter (0 < ·) = row.autoStopMinutes
  bound : row.portBindings ≠ []
  portNames : ∀ b ∈ row.portBindings, trimmed b.name = b.name

/-- To normalise a name twice is to do it once. -/
theorem normalizeName_normalizeName {value name : Option String}
    (h : normalizeName value = .ok name) : normalizeName name = .ok name := by
  cases name with
  | none => rfl
  | some n => exact normalizeName_eq_self (normalizeName_isNormal h)

/-- The names of the ports are trimmed, and that of the added SSH port is trimmed as it stands. -/
theorem specPorts_name {cfg : AppConfig} {input : SandboxSpecDto} :
    ∀ p ∈ specPorts cfg input, trimmed p.name = p.name := by
  have hresolved : ∀ p ∈ resolvePorts cfg input.ports input.primaryPort,
      trimmed p.name = p.name := by
    intro p hp
    obtain ⟨entry, -, rfl⟩ := List.mem_map.mp hp
    exact trimmed_trimmed entry.name
  intro p hp
  obtain ⟨q, hq, rfl⟩ := List.mem_map.mp hp
  show trimmed q.name = q.name
  split_ifs at hq with hadd
  · rcases List.mem_append.mp hq with hq | hq
    · exact hresolved q hq
    · rw [List.mem_singleton.mp hq]
      decide
  · exact hresolved q hq

/-- A row that needs no replacement for a spec is made of what the spec is made of. -/
theorem wellStored_of_keep {cfg : AppConfig} {s : World} {input : ProvisionInput}
    {name : Option String} {spec : RuntimeSpec} {row : RuntimeEntity}
    (hplan : Planned cfg s input name spec) (hkeep : requiresRecreate row spec name = false) :
    WellStored row := by
  have hsame := requiresRecreate_eq_false hkeep
  have hlength := hsame.ports_length
  obtain ⟨records, inputs, -, hspec⟩ := hplan.spec_eq
  exact {
    name := by
      rw [hsame.name]
      exact normalizeName_normalizeName hplan.name_eq
    image := by
      rw [hsame.image, hspec]
      show trimmed (some ((trimmed input.image).getD cfg.defaultImage)) =
        some ((trimmed input.image).getD cfg.defaultImage)
      cases himage : trimmed input.image with
      | none => exact cfg.defaultImage_trimmed
      | some image =>
        have htwice := trimmed_trimmed input.image
        rwa [himage] at htwice
    workingDir := by
      rw [hsame.workingDir, hspec]
      exact trimmed_trimmed input.workingDir
    autoStopMinutes := by
      rw [hsame.autoStopMinutes, hspec]
      show (input.autoStopMinutes.filter (0 < ·)).filter (0 < ·) =
        input.autoStopMinutes.filter (0 < ·)
      cases input.autoStopMinutes with
      | none => rfl
      | some minutes => by_cases hpos : 0 < minutes <;> simp [Option.filter, hpos]
    bound := by
      intro hnil
      rw [hnil] at hlength
      exact hplan.ports_ne_nil (List.length_eq_zero_iff.mp hlength.symm)
    portNames := by
      -- the bindings are compared by position, and only their host ports may differ
      intro b hb
      obtain ⟨i, hi, rfl⟩ := List.getElem_of_mem hb
      have hi' : i < (onRowPorts row spec.ports).length := hsame.ports.length_eq ▸ hi
      have hnames : row.portBindings[i].name = (onRowPorts row spec.ports)[i].name :=
        (hsame.ports.get hi hi').name
      have hport : i < spec.ports.length := hlength ▸ hi
      have hmem : spec.ports[i] ∈ specPorts cfg input.toSandboxSpecDto := by
        rw [← hplan.ports_eq]
        exact List.getElem_mem hport
      rw [hnames]
      simpa [onRowPorts] using specPorts_name _ hmem }

end RuntimeControl

open RuntimeControl Registry

/-- The row is what a provisioning call, that was to provision `input` and returned, has stored. -/
structure StoredBy (cfg : AppConfig) (call : SandboxCall) (input : ProvisionInput)
    (row : RuntimeEntity) : Prop where
  stored : ∃ s₀ tr summary s₁, Exec backend (call.prog cfg) s₀ tr (.ok (.summary summary)) s₁ ∧
    call.request s₀ (drawnText tr) = some input ∧ row ∈ s₁.runtimes ∧
    row.id = summary.runtimeId

/-- Such a row needs no re-creation for the spec of the call. -/
theorem StoredBy.keep {cfg : AppConfig} {call : SandboxCall} {input : ProvisionInput}
    {row : RuntimeEntity} (h : StoredBy cfg call input row) : ∃ s₀ name spec,
      Planned cfg s₀ input name spec ∧ row.sandboxId = input.sandboxId ∧
      requiresRecreate row spec name = false := by
  obtain ⟨s₀, tr, summary, s₁, hexec, hrequest, hrow, hid⟩ := h.stored
  generalize hx : (Except.ok (Reply.summary summary) : Except ServiceError Reply) = x at hexec
  cases call_outcome hexec with
  | refused hnone => simp [hnone] at hrequest
  | touched hrow hsave hruntimes hleases hvms hcall =>
    simp [SandboxCall.request_eq_none hcall] at hrequest
  | deleted hrow hcall hruntimes hleases hvms hremoved =>
    obtain ⟨value, v, rfl, -⟩ := hcall
    simp [SandboxCall.request] at hrequest
  -- the row of the summary is the one that the run has saved
  | @provisioned input' x s' hrequest' hnormal houtcome =>
    obtain rfl : input = input' := Option.some.inj (hrequest.symm.trans hrequest')
    cases x with
    | error e => cases hx
    | ok summary' =>
      cases hx
      obtain ⟨name, spec, row', hplan, hrow', hsummary, hsandbox, hkeep⟩ := houtcome.stored
      have hids : row.id = row'.id := by rw [hid, hsummary]; rfl
      rw [World.eq_of_id hrow hrow' hids]
      exact ⟨s₀, name, spec, hplan, hsandbox, hkeep⟩

/-- What a call has stored is well stored. -/
theorem StoredBy.wellStored {cfg : AppConfig} {call : SandboxCall} {input : ProvisionInput}
    {row : RuntimeEntity} (h : StoredBy cfg call input row) : WellStored row := by
  obtain ⟨s₀, name, spec, hplan, -, hkeep⟩ := h.keep
  exact wellStored_of_keep hplan hkeep

/-- Evaluating the call from an empty store stores a row of which `q` holds. -/
def storesRow (cfg : AppConfig) (call : SandboxCall)
    (q : ProvisionInput → RuntimeEntity → World → Bool) : Bool :=
  (run backend (call.prog cfg) [] (World.fresh .empty)).any fun r =>
    match r.2.1, call.request (World.fresh .empty) (drawnText r.1) with
    | .ok (.summary summary), some input =>
      r.2.2.runtimes.rows.any fun row => row.id == summary.runtimeId && q input row r.2.2
    | _, _ => false

/-- What evaluation has stored, the call can store. -/
theorem exists_of_storesRow {cfg : AppConfig} {call : SandboxCall}
    {q : ProvisionInput → RuntimeEntity → World → Bool} (h : storesRow cfg call q = true) :
    ∃ input row s, StoredBy cfg call input row ∧ row ∈ s.runtimes ∧ q input row s = true := by
  obtain ⟨⟨tr, x, s⟩, hrun, hq⟩ := (Option.any_eq_true _ _).mp h
  dsimp only at hq
  split at hq
  · rename_i summary input hrequest
    simp only [List.any_eq_true, Bool.and_eq_true, beq_iff_eq] at hq
    obtain ⟨row, hrow, hid, hq⟩ := hq
    exact ⟨input, row, s, ⟨_, tr, summary, s, exec_of_run hrun, hrequest, hrow, hid⟩, hrow, hq⟩
  · cases hq

end Microsandbox
