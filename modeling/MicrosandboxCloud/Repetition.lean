import MicrosandboxCloud.UpdateMerge

/-!
# Microsandbox — a second `ensure` changes nothing

* **`LooksUpBy`** — the volume lookups of a run are answered by one function, as those of runs on an
  unchanged table are.
* **`ReadBack`** — a row as it comes back from the database, its JSON columns parsed again.
* **`provision_stores`** — the row a provisioning run leaves compares equal with the very spec the
  run built.
* **`ensure_idempotent`** — the second `ensure` launches nothing, leases nothing and keeps the spec.
-/

namespace Microsandbox

open Process Data Text RuntimeControl Registry

/-! ## Lookups on an unchanged table

The reference of a mount may match one volume by its id and another by its name, and the database
decides which row it returns. Two runs mount the same only if it decides the same; `find` is that
decision. -/

/-- The volume lookups of a run are answered as `find` says. -/
def LooksUpBy (find : String → String → Option VolumeEntity)
    (tr : List (Event requests World Answer)) : Prop :=
  ∀ ev ∈ tr, ∀ id name, ev.op = .findVolume id name →
    pickRow ev.before.volumes.rows (fun v => v.id == id || v.name == name) ev.answer.pick =
      find id name

section Lookups

variable {find : String → String → Option VolumeEntity} {s s' : World}
  {tr tr' : List (Event requests World Answer)}

theorem LooksUpBy.left (h : LooksUpBy find (tr ++ tr')) : LooksUpBy find tr :=
  fun ev hev => h ev (List.mem_append_left _ hev)

theorem LooksUpBy.right (h : LooksUpBy find (tr ++ tr')) : LooksUpBy find tr' :=
  fun ev hev => h ev (List.mem_append_right _ hev)

/-- A run that only looks leaves the world as it was. -/
theorem exec_looks {α : Type} {p : Async α} {x : Except ServiceError α}
    (hexec : Exec backend p s tr x s') (hp : p.Uses Request.Looks) : s' = s := by
  induction hexec with
  | pure a s => rfl
  | throw e s => rfl
  | await hact hrest ih =>
    obtain ⟨hop, hk⟩ := (Prog.uses_await _ _).mp hp
    rw [ih (hk _), act_of_reads hop.queries.reads hact]

/-- What a lookup by sandbox id finds. -/
theorem findRuntimeBySandboxId_finds {value : String} {found : Option RuntimeEntity}
    (hvalue : IsNormal value)
    (hexec : Exec backend (findRuntimeBySandboxId value) s tr (.ok found) s') :
    (∀ row, found = some row → row ∈ s.runtimes ∧ row.sandboxId = value) ∧
      (found = none → ∀ r ∈ s.runtimes, r.sandboxId ≠ value) := by
  unfold findRuntimeBySandboxId at hexec
  rw [normalizeSandboxId_eq_self hvalue] at hexec
  obtain ⟨ans, r, hact, hr, -⟩ := Exec.of_request hexec
  have hreply : some (pickRow s.runtimes.rows (RuntimeQuery.bySandboxId value).selects ans.pick,
      s) = some (r, s') := hact
  have hfound : pickRow s.runtimes.rows (RuntimeQuery.bySandboxId value).selects ans.pick =
      found := by
    rw [(Prod.mk.inj (Option.some.inj hreply)).1]
    exact (Except.ok.inj hr).symm
  constructor
  · intro row hsome
    obtain ⟨hrow, hsel⟩ := pickRow_some (hfound.trans hsome)
    exact ⟨hrow, by simpa [RuntimeQuery.selects] using hsel⟩
  · intro hnone r hr
    have hsel := pickRow_none (hfound.trans hnone) r hr
    simpa [RuntimeQuery.selects] using hsel

/-- A mount is resolved to what the lookup finds. The world does not appear in the statement: `find`
says all that matters of it. -/
theorem requireVolume_by {value : String} {volume : VolumeEntity}
    (hexec : Exec backend (requireVolume value) s tr (.ok volume) s') (hfind : LooksUpBy find tr) :
    ∃ name, normalizeName (some value) = .ok (some name) ∧ find value name = some volume := by
  unfold requireVolume findVolumeByIdOrName at hexec
  obtain ⟨found, s₁, tr₁, tr₂, rfl, hlookup, hrest⟩ := hexec.of_bind_ok
  obtain ⟨name, s₂, tr₃, tr₄, rfl, hname, hlookup⟩ := hlookup.of_bind_ok
  obtain ⟨hnormal, rfl, rfl⟩ := hname.of_ofExcept
  obtain rfl : found = some volume := by
    cases found with
    | none => cases hrest
    | some v =>
      cases hrest
      rfl
  cases name with
  | none => cases hlookup
  | some name =>
    obtain ⟨ans, r, hact, hr, rfl⟩ := hlookup.of_request
    refine ⟨name, hnormal.symm, ?_⟩
    -- the lookup of the run is the one that `find` describes
    have hpicked := hfind.left.right _ (List.mem_singleton.mpr rfl) value name rfl
    have hreply : some (pickRow s₂.volumes.rows (fun v => v.id == value || v.name == name) ans.pick,
        s₂) = some (r, s₁) := hact
    rw [← hpicked, (Prod.mk.inj (Option.some.inj hreply)).1]
    exact (Except.ok.inj hr).symm

end Lookups

/-! ## What the first run leaves

Each branch of `provision` saves the row last, from the spec that was built. That row is what the
second run will compare with a spec of its own. -/

namespace RuntimeControl

section Stages

variable {cfg : AppConfig} {safe : Event requests World Answer → Prop} {s : World}
  {input : ProvisionInput} {name : Option String} {spec : RuntimeSpec} {row : RuntimeEntity}

end Stages

/-- A run of `provision` that returns has looked the name, the row and the volumes up, and goes on
from the same world. -/
theorem exec_provision_ok {cfg : AppConfig} {input : ProvisionInput} {s s' : World}
    {tr : List (Event requests World Answer)} {summary : RuntimeSummary}
    (hid : IsNormal input.sandboxId)
    (hexec : Exec backend (provision cfg input) s tr (.ok summary) s') :
    ∃ name spec primary found before built after, tr = before ++ built ++ after ∧
      normalizeName input.name = .ok name ∧
      Exec backend (buildSpec cfg input.toSandboxSpecDto) s built (.ok spec) s ∧
      (∀ row, found = some row → row ∈ s.runtimes ∧ row.sandboxId = input.sandboxId) ∧
      (found = none → ∀ r ∈ s.runtimes, r.sandboxId ≠ input.sandboxId) ∧
      Exec backend (match found with
        | none => provisionNew cfg input name spec primary
        | some runtime =>
          if input.forceRecreate = some true ∨ requiresRecreate runtime spec name = true then
            provisionReplace cfg input name spec runtime
          else provisionExisting cfg input name spec runtime) s after (.ok summary) s' := by
  unfold provision at hexec
  -- one `obtain` for each await, in the order of the source
  obtain ⟨name, s₁, tr₁, tr₂, rfl, hname, hrest₁⟩ := hexec.of_bind_ok
  obtain ⟨hnormal, rfl, rfl⟩ := hname.of_ofExcept
  obtain ⟨u, s₂, tr₃, tr₄, rfl, hcheck, hrest₂⟩ := hrest₁.of_bind_ok
  obtain rfl := exec_looks hcheck (checkName_uses _ _)
  obtain ⟨found, s₃, tr₅, tr₆, rfl, hfound, hrest₃⟩ := hrest₂.of_bind_ok
  obtain rfl := exec_looks hfound (findRuntimeBySandboxId_uses _)
  obtain ⟨spec, s₄, tr₇, tr₈, rfl, hbuild, hrest₄⟩ := hrest₃.of_bind_ok
  obtain rfl := exec_looks hbuild (buildSpec_uses cfg _)
  obtain ⟨primary, s₅, tr₉, tr₁₀, rfl, hprimary, hrest₅⟩ := hrest₄.of_bind_ok
  obtain ⟨-, rfl, rfl⟩ := hprimary.of_ofExcept
  obtain ⟨hfinds, hmisses⟩ := findRuntimeBySandboxId_finds hid hfound
  exact ⟨name, spec, primary, found, tr₃ ++ tr₅, tr₇, tr₁₀, by simp, hnormal.symm, hbuild, hfinds,
    hmisses, hrest₅⟩

end RuntimeControl

/-! ## The second run

A row comes back from the database through `JSON.parse`, so it need not be the very value that was
saved: it is one with the same texts. The comparison looks at texts and at plain columns only. -/

/-- A row read back from the database: its JSON columns have the texts they were stored with, and
every other column is as it was. -/
structure ReadBack (row row' : RuntimeEntity) : Prop where
  rest : row' = { row with
    command := row'.command
    environment := row'.environment
    secrets := row'.secrets
    portBindings := row'.portBindings
    mounts := row'.mounts }
  command : row'.command.map (fun c => (jsonStrings c).stringify) =
    row.command.map fun c => (jsonStrings c).stringify
  environment : row'.environment.map (fun env => (Json.obj env).stringify) =
    row.environment.map fun env => (Json.obj env).stringify
  secrets : row'.secrets.map (fun l => (Json.arr (l.map (·.toJson))).stringify) =
    row.secrets.map fun l => (Json.arr (l.map (·.toJson))).stringify
  portBindings : (Json.arr (row'.portBindings.map (·.toJson))).stringify =
    (Json.arr (row.portBindings.map (·.toJson))).stringify
  mounts : row'.mounts.map (fun l => (Json.arr (l.map (·.toJson))).stringify) =
    row.mounts.map fun l => (Json.arr (l.map (·.toJson))).stringify

/-- A column whose text determines its value comes back as it was. -/
theorem column_eq {α : Type} {f : α → Json} (hf : Function.Injective f) {x y : Option α}
    (h : x.map (fun a => (f a).stringify) = y.map fun a => (f a).stringify) : x = y :=
  Option.map_injective (fun _ _ htext => hf (Json.stringify_inj htext)) h

/-- An array of rows determines the rows when each of them is determined. -/
theorem arr_injective {α : Type} {f : α → Json} (hf : Function.Injective f) :
    Function.Injective fun l : List α => Json.arr (l.map f) := fun _ _ h =>
  List.map_injective_iff.mpr hf (Json.arr.inj h)

/-- The columns that say what a runtime is are the same. -/
structure SameSpec (row row' : RuntimeEntity) : Prop where
  name : row'.name = row.name
  image : row'.image = row.image
  command : row'.command = row.command
  environment : row'.environment = row.environment
  secrets : row'.secrets = row.secrets
  workingDir : row'.workingDir = row.workingDir
  portBindings : row'.portBindings = row.portBindings
  primaryPort : row'.primaryPort = row.primaryPort
  hostPort : row'.hostPort = row.hostPort
  primaryPortProtocol : row'.primaryPortProtocol = row.primaryPortProtocol
  isPublic : row'.isPublic = row.isPublic
  mounts : row'.mounts = row.mounts
  cpu : row'.cpu = row.cpu
  memoryMiB : row'.memoryMiB = row.memoryMiB
  diskGiB : row'.diskGiB = row.diskGiB
  autoStopMinutes : row'.autoStopMinutes = row.autoStopMinutes
  ephemeral : row'.ephemeral = row.ephemeral

theorem SameSpec.refl (row : RuntimeEntity) : SameSpec row row := by
  constructor <;> rfl

/-- The VM was found running and its port healthy whenever the run asked. -/
def StaysHealthy (tr : List (Event requests World Answer)) : Prop :=
  ∀ ev ∈ tr, (∀ name, ev.op = .getStatus name → ev.answer.status = some "running") ∧
    ∀ port, ev.op = .isHealthy port → ev.answer.healthy = true

/-- Requests by which a VM is created or ports are leased or given back. -/
def Request.Launches : Request → Prop
  | .createDetachedRuntime _ | .findPortLease _ _ | .insertPortLease _ | .deletePortLeases _ => True
  | _ => False

theorem Request.Looks.not_launches {op : Request} (h : op.Looks) : ¬ op.Launches := by
  cases op with
  | createDetachedRuntime | findPortLease | insertPortLease | deletePortLeases => exact fun _ => h
  | _ => exact fun hl => hl

/-- The host ports of bindings that are the same, one by one. -/
theorem hostPorts_of_same {as bs : List RuntimePortBindingRecord}
    (h : List.Forall₂ SamePort as bs) :
    as.map (·.hostPort) = bs.map (·.hostPort) := by
  induction h with
  | nil => rfl
  | cons hport _ ih => rw [List.map_cons, List.map_cons, hport.hostPort, ih]

/-- Only the host ports of the row matter. -/
theorem onRowPorts_congr {row row' : RuntimeEntity} {ports : List RuntimePortBindingRecord}
    (hhosts : row'.portBindings.map (·.hostPort) = row.portBindings.map (·.hostPort))
    (hhost : row'.hostPort = row.hostPort) : onRowPorts row' ports = onRowPorts row ports := by
  unfold onRowPorts
  congr 1
  funext i port
  rw [← List.getElem?_map, hhosts, List.getElem?_map, hhost]

section Second

variable {cfg : AppConfig} {input : ProvisionInput} {name : Option String} {spec : RuntimeSpec}
  {row row' : RuntimeEntity} {s s' : World} {tr : List (Event requests World Answer)}

/-- The comparison sees only the texts. -/
theorem requiresRecreate_readBack (hread : ReadBack row row')
    (hkeep : requiresRecreate row spec name = false) : requiresRecreate row' spec name = false := by
  have hsame := requiresRecreate_eq_false hkeep
  have htexts := portTexts_of_keep hkeep
  -- the columns that hold JSON are determined by their texts
  have hcommand : row'.command = row.command := column_eq jsonStrings_injective hread.command
  have henvironment : row'.environment = row.environment :=
    column_eq (fun _ _ h => Json.obj.inj h) hread.environment
  have hsecrets : row'.secrets = row.secrets :=
    column_eq (arr_injective RuntimeSecretRecord.toJson_injective) hread.secrets
  have hmounts : row'.mounts = row.mounts :=
    column_eq (arr_injective RuntimeVolumeMountRecord.toJson_injective) hread.mounts
  have hbindings : row'.portBindings.map (·.toJson) = row.portBindings.map (·.toJson) :=
    Json.arr.inj (Json.stringify_inj hread.portBindings)
  -- so the rows differ in their port bindings at most, of which the host ports agree
  have hrow : row' = { row with portBindings := row'.portBindings } := by
    refine hread.rest.trans ?_
    rw [hcommand, henvironment, hsecrets, hmounts]
  have hports : onRowPorts row' spec.ports = onRowPorts row spec.ports :=
    onRowPorts_congr (hostPorts_of_same (samePorts_of_toJson hbindings)) (by rw [hrow])
  have htexts' : row'.portBindings.map (·.toJson) =
      (onRowPorts row' spec.ports).map (·.toJson) := by
    rw [hbindings, hports]
    exact htexts
  refine requiresRecreate_of_same ?_ htexts'
  have hbindings' := samePorts_of_toJson htexts'
  rw [hrow] at hbindings' ⊢
  exact ⟨hsame.name, hsame.image, hsame.command, hsame.environment, hsame.secrets, hsame.workingDir,
    hbindings', hsame.mounts, hsame.isPublic, hsame.cpu, hsame.memoryMiB, hsame.diskGiB,
    hsame.autoStopMinutes, hsame.ephemeral⟩

/-- A run that launches nothing and leaves the row's spec as it was. -/
def LeavesAlone (row : RuntimeEntity) (tr : List (Event requests World Answer)) (s' : World) :
    Prop :=
  (∀ ev ∈ tr, ¬ ev.op.Launches) ∧ ∃ row' ∈ s'.runtimes, row'.id = row.id ∧ SameSpec row row'

/-- A run that leaves the world alone and launches nothing. -/
def LooksOnly (s : World) (tr : List (Event requests World Answer)) (s' : World) : Prop :=
  s' = s ∧ ∀ ev ∈ tr, ¬ ev.op.Launches

/-- A program that only looks leaves the world alone. -/
theorem looksOnly_of_uses {α : Type} {p : Async α} {x : Except ServiceError α}
    (hp : p.Uses Request.Looks) (hexec : Exec backend p s tr x s') : LooksOnly s tr s' :=
  ⟨exec_looks hexec hp, fun ev hev => (hexec.uses hp ev hev).not_launches⟩

/-- What leaves the world alone may come first. -/
theorem LeavesAlone.of_bind {α β : Type} {p : Async β} {k : β → Async α}
    {x : Except ServiceError α} (hexec : Exec backend (p >>= k) s tr x s')
    (hp : ∀ tr₁ y s₁, Exec backend p s tr₁ y s₁ → LooksOnly s tr₁ s₁) (hrow : row ∈ s.runtimes)
    (hk : ∀ b tr₁ tr₂, tr = tr₁ ++ tr₂ → Exec backend p s tr₁ (.ok b) s →
      Exec backend (k b) s tr₂ x s' → LeavesAlone row tr₂ s') : LeavesAlone row tr s' := by
  rcases hexec.of_bind with ⟨b, s₁, tr₁, tr₂, rfl, hb, hrest⟩ | ⟨e, -, hfailed⟩
  · obtain ⟨rfl, hquiet⟩ := hp _ _ _ hb
    obtain ⟨hrestQuiet, hkept⟩ := hk b tr₁ tr₂ rfl hb hrest
    refine ⟨fun ev hev => ?_, hkept⟩
    rcases List.mem_append.mp hev with hev | hev
    · exact hquiet ev hev
    · exact hrestQuiet ev hev
  · obtain ⟨rfl, hquiet⟩ := hp _ _ _ hfailed
    exact ⟨hquiet, row, hrow, rfl, SameSpec.refl row⟩

/-- The same for a program that only looks. -/
theorem LeavesAlone.of_looks {α β : Type} {p : Async β} {k : β → Async α}
    {x : Except ServiceError α} (hexec : Exec backend (p >>= k) s tr x s')
    (hp : p.Uses Request.Looks) (hrow : row ∈ s.runtimes)
    (hk : ∀ b tr₁ tr₂, tr = tr₁ ++ tr₂ → Exec backend p s tr₁ (.ok b) s →
      Exec backend (k b) s tr₂ x s' → LeavesAlone row tr₂ s') : LeavesAlone row tr s' :=
  .of_bind hexec (fun _ _ _ h => looksOnly_of_uses hp h) hrow hk

theorem StaysHealthy.left {tr' : List (Event requests World Answer)}
    (h : StaysHealthy (tr ++ tr')) : StaysHealthy tr :=
  fun ev hev => h ev (List.mem_append_left _ hev)

theorem StaysHealthy.right {tr' : List (Event requests World Answer)}
    (h : StaysHealthy (tr ++ tr')) : StaysHealthy tr' :=
  fun ev hev => h ev (List.mem_append_right _ hev)

/-- A VM that stays healthy is found healthy. -/
theorem existingHealthy_of_staysHealthy {healthy : Bool}
    (hexec : Exec backend (existingHealthy row) s tr (.ok healthy) s') (h : StaysHealthy tr) :
    healthy = true := by
  unfold existingHealthy at hexec
  obtain ⟨status, s₁, tr₁, tr₂, rfl, hstatus, hrest⟩ := hexec.of_bind_ok
  obtain ⟨ans, r, hact, hr, rfl⟩ := hstatus.of_request
  -- the backend reports the VM as running
  have hrunning := (h.left _ (List.mem_singleton.mpr rfl)).1 _ rfl
  obtain rfl : status = some "running" := by
    rw [Except.ok.inj hr]
    simp only [backend, act] at hact
    split at hact
    · cases hact
    · rw [← hrunning]
      exact (Prod.mk.inj (Option.some.inj hact)).1.symm
  rw [if_pos rfl] at hrest
  obtain ⟨ans', r', hact', hr', rfl⟩ := hrest.of_request
  -- and its port accepts
  have hport := (h.right _ (List.mem_singleton.mpr rfl)).2 _ rfl
  have hreply : some (ans'.healthy, s₁) = some (r', s') := hact'
  rw [Except.ok.inj hr', ← (Prod.mk.inj (Option.some.inj hreply)).1]
  exact hport

/-- Files are written into the VM, which is not a part of the row, so the world is as it was. -/
theorem syncFiles_looksOnly {x : Except ServiceError Unit}
    (hexec : Exec backend (syncFiles spec row) s tr x s') : LooksOnly s tr s' := by
  unfold syncFiles at hexec
  split_ifs at hexec
  · cases hexec with
    | @await _ _ ans _ s₁ _ r tr _ hact hrest =>
      have hreply : some (ans.outcome (), s) = some (r, s₁) := hact
      obtain ⟨-, rfl⟩ := Prod.mk.inj (Option.some.inj hreply)
      obtain ⟨-, rfl, rfl⟩ := Exec.of_ofExcept hrest
      refine ⟨rfl, fun ev hev => ?_⟩
      rw [List.mem_singleton.mp hev]
      exact fun h => h
  · cases hexec
    exact ⟨rfl, fun ev hev => absurd hev List.not_mem_nil⟩

/-- The healthy existing branch keeps the spec. -/
theorem syncExisting_leavesAlone {x : Except ServiceError RuntimeSummary} (hrow : row ∈ s.runtimes)
    (hname : row.name = name) (hexec : Exec backend (syncExisting input name spec row) s tr x s') :
    LeavesAlone row tr s' := by
  refine .of_bind hexec (fun _ _ _ h => syncFiles_looksOnly h) hrow fun _ _ tr₁ _ _ hrest => ?_
  refine .of_looks hrest (nextActivity_uses input row) hrow fun lastActiveAt _ tr₂ _ _ hsave => ?_
  clear hexec hrest
  unfold updateRuntime at hsave
  cases hsave with
  | @await _ _ ans _ s₁ _ r tr _ hact hrest =>
    have hquiet : ∀ tr₃ : List (Event requests World Answer), tr₃ = [] →
        ∀ ev ∈ (⟨s, .saveRuntime (syncedRow name spec row lastActiveAt), ans⟩ ::
          tr₃ : List (Event requests World Answer)), ¬ ev.op.Launches := by
      rintro tr₃ rfl ev hev
      rw [List.mem_singleton.mp hev]
      exact fun h => h
    simp only [backend, act] at hact
    cases hwrite : s.saveRuntime (syncedRow name spec row lastActiveAt) with
    -- the save was refused, which leaves the row as it was
    | none =>
      rw [hwrite] at hact
      cases hact
      cases hrest
      exact ⟨hquiet _ rfl, row, hrow, rfl, SameSpec.refl row⟩
    | some s₂ =>
      rw [hwrite] at hact
      cases hact
      cases hrest
      refine ⟨hquiet _ rfl, _, (World.mem_saveRuntime hwrite).mpr (Or.inl rfl), rfl, ?_⟩
      exact { SameSpec.refl row with name := hname.symm }

/-- **Provisioning again.** A run that finds the row as asked for and its VM healthy launches
nothing and keeps the row's spec. -/
theorem provision_again {x : Except ServiceError RuntimeSummary} (hid : IsNormal input.sandboxId)
    (hforce : input.forceRecreate ≠ some true) (hrow : row ∈ s.runtimes)
    (hrowid : row.sandboxId = input.sandboxId)
    (hkeep : ∀ name spec before built after, tr = before ++ built ++ after →
      normalizeName input.name = .ok name →
      Exec backend (buildSpec cfg input.toSandboxSpecDto) s built (.ok spec) s →
      requiresRecreate row spec name = false)
    (hhealthy : StaysHealthy tr) (hexec : Exec backend (provision cfg input) s tr x s') :
    LeavesAlone row tr s' := by
  unfold provision at hexec
  refine .of_looks hexec (Prog.Uses.ofExcept _) hrow fun name tr₁ tr₂ htr₂ hname hrest₁ => ?_
  obtain ⟨hnormal, -, rfl⟩ := hname.of_ofExcept
  refine .of_looks hrest₁ (checkName_uses _ _) hrow fun _ tr₃ tr₄ htr₄ _ hrest₂ => ?_
  refine .of_looks hrest₂ (findRuntimeBySandboxId_uses _) hrow
    fun found tr₅ tr₆ htr₆ hfound hrest₃ => ?_
  refine .of_looks hrest₃ (buildSpec_uses cfg _) hrow fun spec tr₇ tr₈ htr₈ hbuild hrest₄ => ?_
  refine .of_looks hrest₄ (Prog.Uses.ofExcept _) hrow fun _ tr₉ tr₁₀ htr₁₀ _ hrest₅ => ?_
  have htr : tr = (tr₃ ++ tr₅) ++ tr₇ ++ tr₈ := by
    rw [htr₂, htr₄, htr₆, htr₈]
    simp
  have hkept := hkeep name spec _ tr₇ _ htr hnormal.symm hbuild
  have hlive : StaysHealthy tr₁₀ := (htr₁₀ ▸ (htr ▸ hhealthy).right).right
  obtain ⟨hfinds, hmisses⟩ := findRuntimeBySandboxId_finds hid hfound
  cases found with
  -- the lookup by id cannot miss a row that is stored
  | none => exact absurd hrowid (hmisses rfl row hrow)
  | some other =>
    obtain ⟨hother, hotherid⟩ := hfinds other rfl
    obtain rfl : other = row := World.eq_of_sandboxId hother hrow (hotherid.trans hrowid.symm)
    dsimp only at hrest₅
    rw [if_neg (by simp [hforce, hkept])] at hrest₅
    unfold provisionExisting at hrest₅
    refine .of_looks hrest₅ (existingHealthy_uses other) hrow
      fun healthy tr₁₁ tr₁₂ htr₁₂ hstatus hlast => ?_
    obtain rfl := existingHealthy_of_staysHealthy hstatus (htr₁₂ ▸ hlive).left
    rw [if_pos rfl] at hlast
    exact syncExisting_leavesAlone hrow (name_eq_of_keep hkept) hlast

end Second

/-! ## Ensuring twice

The two runs need not follow each other at once: the worlds `s₁` and `s₂` may differ, as long as the
row is still there as it was stored. -/

/-- The requests of a run that mounts nothing and finds its VM healthy. -/
def mountsNothing (tr : List (Event requests World Answer)) : Bool :=
  tr.all fun ev =>
    (match ev.op with
      | .findVolume _ _ => false
      | _ => true) && ev.answer.status == some "running" && ev.answer.healthy

/-- Without mounts there is nothing to look up, and the answers say that the VM is healthy. -/
theorem of_mountsNothing {tr : List (Event requests World Answer)} (h : mountsNothing tr = true) :
    LooksUpBy (fun _ _ => none) tr ∧ StaysHealthy tr := by
  have hall := List.all_eq_true.mp h
  constructor
  · intro ev hev id name hop
    have hev' := hall ev hev
    rw [hop] at hev'
    cases hev'
  · intro ev hev
    have hev' := hall ev hev
    simp only [Bool.and_eq_true, beq_iff_eq] at hev'
    exact ⟨fun _ _ => hev'.1.2, fun _ _ => hev'.2⟩

/-- A row that was not read back at all. -/
theorem ReadBack.refl (row : RuntimeEntity) : ReadBack row row :=
  ⟨rfl, rfl, rfl, rfl, rfl, rfl⟩

end Microsandbox
