import MicrosandboxCloud.Provisioning
import MicrosandboxCloud.Queries

/-!
# Microsandbox — the calls on sandboxes, run one at a time

* **`SandboxCall`** — the calls that change what is stored about sandboxes.
* **`SandboxCall.request`** — what a `create`, `ensure` or `update` hands to `provision`, read off
  the state before the call and the random text it drew.
* **`accepts`** — does a request pass the checks that come before the first write?
* **`CallOutcome`** — everything a call can do; `call_outcome` derives it from `provision_spec`.
-/

namespace Microsandbox

open Process Data Text RuntimeControl Registry

/-- The calls on sandboxes. -/
inductive SandboxCall where
  | create (input : SandboxSpecDto)
  | ensure (input : EnsureRuntimeDto)
  | update (sandboxId : String) (input : UpdateSandboxDto)
  | start (sandboxIdOrName : String)
  | stop (sandboxIdOrName : String)
  | delete (sandboxIdOrName : String)

/-- What the calls return. -/
inductive Reply where
  | summary (runtime : RuntimeSummary)
  | deleted (sandboxId : String)

namespace SandboxCall

/-- Each call with the function of the service that serves it. -/
def prog (cfg : AppConfig) : SandboxCall → Async Reply
  | .create input => return .summary (← RuntimeControl.create cfg input)
  | .ensure input => return .summary (← RuntimeControl.ensure cfg input)
  | .update sandboxId input => return .summary (← RuntimeControl.update cfg sandboxId input)
  | .start sandboxIdOrName => return .summary (← RuntimeControl.start sandboxIdOrName)
  | .stop sandboxIdOrName => return .summary (← RuntimeControl.stop sandboxIdOrName)
  | .delete sandboxIdOrName => return .deleted (← RuntimeControl.delete sandboxIdOrName)

/-- The row an id names. -/
def findRow (s : World) (sandboxId : String) : Option RuntimeEntity :=
  s.runtimes.rows.find? fun r => r.sandboxId == sandboxId

/-- Somebody uses `name` as an id or as a name. -/
def nameUsed (s : World) (name : String) : Bool :=
  s.runtimes.rows.any fun r => r.sandboxId == name || r.name == some name

/-- What the call hands to `provision`, if it gets there. `drawn` is the random text the call
draws when it has to make up an id. -/
def request (s : World) (drawn : String) : SandboxCall → Option ProvisionInput
  | .create input =>
    match normalizeName input.name with
    | .error _ => none
    | .ok name =>
      if name.any (nameUsed s) then none
      else match createSandboxId name drawn with
        | .error _ => none
        | .ok sandboxId => some (createRequest input sandboxId)
  | .ensure input =>
    match createSandboxId (input.sandboxId <|> input.name) drawn with
    | .error _ => none
    | .ok sandboxId => some (ensureRequest input sandboxId)
  | .update sandboxId input =>
    match normalizeSandboxId sandboxId with
    | .error _ => none
    | .ok id => (findRow s id).map fun runtime => buildUpdateInput runtime input
  | _ => none

/-- The calls that end in `provision`. -/
def provisions : SandboxCall → Bool
  | .create _ | .ensure _ | .update _ _ => true
  | _ => false

theorem request_eq_none {c : SandboxCall} (h : c.provisions = false) (s : World)
    (drawn : String) : c.request s drawn = none := by
  cases c <;> simp_all [provisions, request]

end SandboxCall

/-- The random text a call draws comes with its first request. -/
def drawnText (tr : List (Event requests World Answer)) : String :=
  (tr.head?.map fun ev => ev.answer.random).getD ""

/-- A request passes the checks before the first write: its name is free or its own, and its
volumes exist and are mounted whole. -/
def accepts (s : World) (input : ProvisionInput) : Bool :=
  (match normalizeName input.name with
    | .error _ => false
    | .ok name => name.all fun n =>
      (!SandboxCall.nameUsed s n || s.runtimes.rows.any fun r =>
        (r.sandboxId == n || r.name == some n) && r.sandboxId == input.sandboxId) &&
      s.runtimes.rows.all fun r => r.name != some n || r.sandboxId == input.sandboxId) &&
  (input.volumes.getD []).all fun mount =>
    trimmed mount.subpath == none &&
      (match normalizeName (some mount.volumeId) with
        | .ok (some name) => s.volumes.rows.any fun volume =>
          volume.id == mount.volumeId || volume.name == name
        | _ => false)

section Accepts

variable {cfg : AppConfig} {s : World} {input : ProvisionInput} {name : Option String}
  {spec : RuntimeSpec}

/-- A mount that was resolved is of a volume that is stored. -/
theorem resolved_mem {mounts : List RuntimeVolumeMountDto}
    {records : List RuntimeVolumeMountRecord} {inputs : List MountInput}
    (h : Resolved s mounts records inputs) :
    ∀ mount ∈ mounts, trimmed mount.subpath = none ∧
      ∃ volume ∈ s.volumes, Refers mount.volumeId volume := by
  induction h with
  | nil => simp
  | cons hvolume href hsubpath hrest ih =>
    exact List.forall_mem_cons.mpr ⟨⟨hsubpath, _, hvolume, href⟩, ih⟩

/-- What provisioning has planned passes the checks, when no other row has the name. -/
theorem accepts_of_planned (h : Planned cfg s input name spec)
    (hown : ∀ n, name = some n → ∀ r ∈ s.runtimes, r.name = some n →
      r.sandboxId = input.sandboxId) : accepts s input = true := by
  obtain ⟨records, inputs, hresolved, -⟩ := h.spec_eq
  unfold accepts
  rw [h.name_eq, Bool.and_eq_true, List.all_eq_true]
  constructor
  · cases name with
    | none => rfl
    | some n =>
      simp only [Option.all_some, Bool.and_eq_true, Bool.or_eq_true, Bool.not_eq_true',
        List.any_eq_true, List.all_eq_true, beq_iff_eq]
      constructor
      -- provisioning lets a used name pass if the row that answers to it has the id
      · rcases h.available n rfl with hfree | ⟨r, hr, huse, hid⟩
        · left
          simp only [SandboxCall.nameUsed, List.any_eq_false]
          intro r hr
          simpa using hfree r hr
        · exact Or.inr ⟨r, hr, huse, hid⟩
      · intro r hr
        by_cases hname : r.name = some n
        · exact Or.inr (hown n rfl r hr hname)
        · exact Or.inl (by simpa using hname)
  · intro mount hmount
    obtain ⟨hsubpath, volume, hvolume, href⟩ := resolved_mem hresolved mount hmount
    obtain ⟨n, hn, href⟩ := href
    simp only [hsubpath, hn, BEq.rfl, Bool.true_and, List.any_eq_true, Bool.or_eq_true, beq_iff_eq]
    exact ⟨volume, hvolume, href⟩

/-- A launch starts only from a request that passes the checks: another row under the name would
have refused the write. -/
theorem RuntimeControl.LaunchStart.accepts {safe : Event requests World Answer → Prop}
    {row : RuntimeEntity}
    {s₁ : World} (hplan : Planned cfg s input name spec)
    (h : LaunchStart cfg safe input name spec s row s₁) : accepts s input = true := by
  refine accepts_of_planned hplan fun n hn r hr hrname => ?_
  cases h with
  | unhealthy hrow hid hkeep =>
    -- names are unique among the stored rows
    rw [World.eq_of_name hr hrow hrname ((name_eq_of_keep hkeep).trans hn)]
    exact hid
  | @replaced row₀ s₁ hrow hid hreplace hsave =>
    -- another row with the name would still be stored beside the one that was saved
    by_contra hne
    have hr₁ : r ∈ s₁.runtimes := by
      refine (World.mem_saveRuntime hsave).mpr (Or.inr ⟨hr, fun hrid => hne ?_⟩)
      rw [World.eq_of_id hr hrow hrid]
      exact hid
    have hsaved : replacingRow input name spec row₀ ∈ s₁.runtimes :=
      (World.mem_saveRuntime hsave).mpr (Or.inl rfl)
    rw [World.eq_of_name hr₁ hsaved hrname hn] at hne
    exact hne hid
  | new hnew hvm hinsert hsafe henough hleased =>
    rcases hplan.available n hn with hfree | ⟨q, hq, -, hqid⟩
    · exact absurd hrname (hfree r hr).2
    · exact absurd hqid (hnew q hq)

/-- A request for a stored row that was planned has passed the checks. -/
theorem accepts_of_existing {row : RuntimeEntity} (hplan : Planned cfg s input name spec)
    (hrow : row ∈ s.runtimes) (hid : row.sandboxId = input.sandboxId)
    (hkeep : requiresRecreate row spec name = false) : accepts s input = true := by
  refine accepts_of_planned hplan fun n hn r hr hrname => ?_
  rw [World.eq_of_name hr hrow hrname ((name_eq_of_keep hkeep).trans hn)]
  exact hid

/-- So has one for an id that is not stored. -/
theorem accepts_of_new (hplan : Planned cfg s input name spec)
    (hnew : ∀ r ∈ s.runtimes, r.sandboxId ≠ input.sandboxId) : accepts s input = true := by
  refine accepts_of_planned hplan fun n hn r hr hrname => ?_
  rcases hplan.available n hn with hfree | ⟨q, hq, -, hqid⟩
  · exact absurd hrname (hfree r hr).2
  · exact absurd hqid (hnew q hq)

/-- A request that does not pass the checks is refused. -/
theorem RuntimeControl.ProvisionOutcome.of_not_accepts {safe : Event requests World Answer → Prop}
    {x : Except ServiceError RuntimeSummary} {s' : World}
    (h : ProvisionOutcome cfg safe input s x s') (hnot : accepts s input = false) :
    (∃ e, x = .error e) ∧ s' = s := by
  cases h with
  | refused hwhy => exact ⟨⟨_, rfl⟩, rfl⟩
  | existing hplan hrow hid hforce hkeep hlive hsave =>
    simp [accepts_of_existing hplan hrow hid hkeep] at hnot
  | rolledBack hplan hnew hfew hleases hruntimes hvms =>
    simp [accepts_of_new hplan hnew] at hnot
  | launched hplan hstart houtcome => simp [LaunchStart.accepts hplan hstart] at hnot

end Accepts

/-! ## What a call can do

`CallOutcome` lists the ways in which a call can end, each with what it has changed and what it
returns. The invariants of runs are proved by going through this list, and never look into the
programs. -/

/-- A row with another status, status reason and time of activity. -/
def RuntimeEntity.withStatus (row : RuntimeEntity) (status : RuntimeStatus)
    (statusReason : Option String) (lastActiveAt : Option Int) : RuntimeEntity :=
  { row with status := status, statusReason := statusReason, lastActiveAt := lastActiveAt }

/-- The backend's VMs are as before, but for the one named, which may be gone. -/
def VmKeptOrGone (s : World) (name : String) (s' : World) : Prop :=
  s'.vms = s.vms ∨ s'.vms = Function.update s.vms name none

/-- The backend removed a VM. -/
def vmRemoved (tr : List (Event requests World Answer)) : Bool :=
  tr.any fun ev =>
    match ev.op with
    | .remove _ => ev.answer.failure.isNone
    | _ => false

/-- How a call ends. `tr` are the requests it issued. -/
inductive CallOutcome (cfg : AppConfig) (tr : List (Event requests World Answer))
    (c : SandboxCall) (s : World) : Except ServiceError Reply → World → Prop where
  | refused {e : ServiceError} (hrequest : c.request s (drawnText tr) = none) :
      CallOutcome cfg tr c s (.error e) s
  | provisioned {input : ProvisionInput} {x : Except ServiceError RuntimeSummary} {s' : World}
      (hrequest : c.request s (drawnText tr) = some input)
      (hnormal : IsNormal input.sandboxId)
      (houtcome : ProvisionOutcome cfg (· ∈ tr) input s x s') :
      CallOutcome cfg tr c s (x.map Reply.summary) s'
  | touched {row : RuntimeEntity} {status : RuntimeStatus} {reason : Option String}
      {lastActiveAt : Option Int} {s₁ s' : World} {x : Except ServiceError Reply}
      (hrow : row ∈ s.runtimes)
      (hsave : s.saveRuntime (row.withStatus status reason lastActiveAt) = some s₁)
      (hruntimes : s'.runtimes = s₁.runtimes) (hleases : s'.portLeases = s.portLeases)
      (hvms : VmKeptOrGone s row.sandboxName s') (hcall : c.provisions = false) :
      CallOutcome cfg tr c s x s'
  | deleted {row : RuntimeEntity} {s' : World} {x : Except ServiceError Reply}
      (hrow : row ∈ s.runtimes)
      (hcall : ∃ value v, c = .delete value ∧ normalizeSandboxId value = .ok v ∧
        (row.sandboxId = v ∨ row.name = some v))
      (hruntimes : s'.runtimes = s.runtimes.delete fun r => r.id == row.id)
      (hleases : s'.portLeases = s.portLeases.delete fun l => l.runtimeId == row.id)
      (hvms : VmKeptOrGone s row.sandboxName s') (hremoved : vmRemoved tr = true) :
      CallOutcome cfg tr c s x s'

/-! ## Every call ends in one of these ways

One lemma for each call. The three calls that provision come down to `ProvisionOutcome`; the others
look a row up, ask the backend, and save or delete the row. -/

section Rules

variable {cfg : AppConfig} {safe : Event requests World Answer → Prop} {α : Type} {s : World}
  {Q : Except ServiceError α → World → Prop}

/-- The row that is found, or the exception that there is none. -/
theorem ensures_requireRuntime {value : String} {k : RuntimeEntity → Async α}
    (hok : ∀ v, normalizeSandboxId value = .ok v → ∀ row ∈ s.runtimes,
      (row.sandboxId = v ∨ row.name = some v) → Ensures backend safe (k row) s Q)
    (herr : ∀ e, Q (.error e) s) : Ensures backend safe (requireRuntime value >>= k) s Q := by
  unfold requireRuntime Registry.findRuntimeBySandboxIdOrName
  rw [Prog.bind_assoc, Prog.bind_assoc]
  refine ensures_sync (fun v hv => ?_) fun e _ => herr e
  refine ensures_findRuntime (fun row hrow hsel => ?_) fun _ => Ensures.throw (herr _)
  exact hok v hv row hrow (by simpa [RuntimeQuery.selects] using hsel)

/-- The row with its new status, if no other row stands in its way. -/
theorem ensures_setRuntimeStatus {row : RuntimeEntity} {status : RuntimeStatus} {reason : String}
    {k : RuntimeEntity → Async α}
    (hok : ∀ lastActiveAt s₁,
      s.saveRuntime (row.withStatus status (some reason) lastActiveAt) = some s₁ →
      Ensures backend safe (k (row.withStatus status (some reason) lastActiveAt)) s₁ Q)
    (herr : ∀ e, Q (.error e) s) :
    Ensures backend safe (Registry.setRuntimeStatus row status reason >>= k) s Q := by
  unfold Registry.setRuntimeStatus
  split_ifs
  · rw [Prog.bind_assoc]
    refine ensures_read trivial fun now => ?_
    exact ensures_updateRuntime (fun a s₁ hsave _ => hok (some now) s₁ hsave) fun _ => herr _
  · exact ensures_updateRuntime (fun a s₁ hsave _ => hok row.lastActiveAt s₁ hsave)
      fun _ => herr _

end Rules

section Outcome

variable {cfg : AppConfig} {tr : List (Event requests World Answer)} {s : World}

/-- The random text does not matter when there is a seed. -/
theorem createSandboxId_congr {seed : Option String} (hseed : needsRandomId seed = false)
    (hex hex' : String) : createSandboxId seed hex = createSandboxId seed hex' := by
  cases htrimmed : trimmed seed with
  | none => simp [needsRandomId, htrimmed] at hseed
  | some v =>
    cases seed with
    | none => simp [trimmed] at htrimmed
    | some w => simp [createSandboxId, htrimmed]

theorem needsRandomId_of_isNormal {v : String} (h : IsNormal v) :
    needsRandomId (some v) = false := by
  simp [needsRandomId, trimmed, h.trim_ne_nil]

/-- A run that begins by choosing an id has drawn it with its first request, if at all. -/
theorem exec_chooseSandboxId {α : Type} {seed : Option String} {k : String → Async α}
    {x : Except ServiceError α} {s' : World}
    (hexec : Exec backend (chooseSandboxId seed >>= k) s tr x s') :
    (∃ e, createSandboxId seed (drawnText tr) = .error e ∧ x = .error e ∧ s' = s) ∨
      ∃ id tr', createSandboxId seed (drawnText tr) = .ok id ∧ Exec backend (k id) s tr' x s' ∧
        ∀ ev ∈ tr', ev ∈ tr := by
  have hchosen : ∀ (hex : String) (tr' : List (Event requests World Answer)),
      Exec backend (sync (createSandboxId seed hex) >>= k) s tr' x s' →
      (∃ e, createSandboxId seed hex = .error e ∧ x = .error e ∧ s' = s) ∨
        ∃ id, createSandboxId seed hex = .ok id ∧ Exec backend (k id) s tr' x s' := by
    intro hex tr' hexec
    cases hid : createSandboxId seed hex with
    | error e =>
      rw [hid] at hexec
      cases hexec
      exact Or.inl ⟨e, rfl, rfl, rfl⟩
    | ok id =>
      rw [hid] at hexec
      exact Or.inr ⟨id, rfl, hexec⟩
  unfold chooseSandboxId at hexec
  split_ifs at hexec with hseed
  -- without a seed the first request draws the id
  · cases hexec with
    | await hact hrest =>
      rename_i a s₁ tr' r
      simp only [backend, act, Option.some.injEq, Prod.mk.injEq] at hact
      obtain ⟨rfl, rfl⟩ := hact
      rcases hchosen _ _ hrest with herr | ⟨id, hid, hk⟩
      · exact Or.inl herr
      · exact Or.inr ⟨id, tr', hid, hk, fun ev hev => List.mem_cons_of_mem _ hev⟩
  -- with a seed the random text does not matter
  · rw [createSandboxId_congr (by simpa using hseed) (drawnText tr) ""]
    rcases hchosen _ _ hexec with herr | ⟨id, hid, hk⟩
    · exact Or.inl herr
    · exact Or.inr ⟨id, tr, hid, hk, fun _ h => h⟩

/-- The provisioning part of a call. -/
theorem ensures_provisionCall {c : SandboxCall} {input : ProvisionInput}
    (hrequest : c.request s (drawnText tr) = some input) (hnormal : IsNormal input.sandboxId) :
    Ensures backend (· ∈ tr) (do return Reply.summary (← provision cfg input)) s
      (CallOutcome cfg tr c s) := by
  refine Ensures.bind ((provision_spec hnormal).mono fun x s' houtcome => ?_)
  have hcall := CallOutcome.provisioned (c := c) hrequest hnormal houtcome
  cases x with
  | ok summary => exact Ensures.pure hcall
  | error e => exact hcall

/-- A taken name is refused before the id is chosen; the rest is `provision`. -/
theorem create_outcome {input : SandboxSpecDto} {x : Except ServiceError Reply} {s' : World}
    (hexec : Exec backend ((SandboxCall.create input).prog cfg) s tr x s') :
    CallOutcome cfg tr (.create input) s x s' := by
  simp only [SandboxCall.prog, RuntimeControl.create, Prog.bind_assoc] at hexec
  cases hname : normalizeName input.name with
  | error e =>
    rw [hname] at hexec
    cases hexec
    exact .refused (by simp [SandboxCall.request, hname])
  | ok name =>
    rw [hname] at hexec
    simp only [sync, Prog.ofExcept_ok, Prog.pure_bind] at hexec
    cases name with
    -- without a name nothing is looked up
    | none =>
      simp only [checkFreeName, Prog.pure_eq, Prog.pure_bind] at hexec
      rcases exec_chooseSandboxId hexec with ⟨e, hid, rfl, rfl⟩ | ⟨id, tr', hid, hk, hsub⟩
      · exact .refused (by simp [SandboxCall.request, hname, hid])
      · refine ensures_provisionCall ?_ (createSandboxId_isNormal hid) _ _ _ hk hsub
        simp [SandboxCall.request, hname, hid]
    | some name =>
      have hnormal := normalizeName_isNormal hname
      -- a name is its own sandbox id: a normal form normalises to itself
      have hid : createSandboxId (some name) "" = .ok name := by
        simp [createSandboxId, trimmed, hnormal.trim_ne_nil, normalizeSandboxId_eq_self hnormal]
      have hens : Ensures backend (· ∈ tr) (do
          checkFreeName (some name)
          let sandboxId ← chooseSandboxId (some name)
          return Reply.summary (← provision cfg (createRequest input sandboxId))) s
          (CallOutcome cfg tr (.create input) s) := by
        unfold checkFreeName
        rw [Prog.bind_assoc]
        refine ensures_findRuntimeBySandboxIdOrName hnormal
          (fun r hr hsel => Ensures.throw (.refused ?_)) fun hfree => ?_
        · have hused : SandboxCall.nameUsed s name = true :=
            List.any_eq_true.mpr ⟨r, hr, by simpa using hsel⟩
          simp [SandboxCall.request, hname, hused]
        unfold chooseSandboxId
        rw [needsRandomId_of_isNormal hnormal, hid]
        refine ensures_provisionCall ?_ hnormal
        -- no row answers to the name, by id or by name
        have hunused : SandboxCall.nameUsed s name = false := by
          simp only [SandboxCall.nameUsed, List.any_eq_false]
          intro r hr
          simpa using hfree r hr
        have hdrawn := createSandboxId_congr (needsRandomId_of_isNormal hnormal) (drawnText tr) ""
        simp [SandboxCall.request, hname, hunused, hdrawn, hid]
      exact hens _ _ _ hexec fun _ h => h

/-- Nothing is checked before the id is chosen. -/
theorem ensure_outcome {input : EnsureRuntimeDto} {x : Except ServiceError Reply} {s' : World}
    (hexec : Exec backend ((SandboxCall.ensure input).prog cfg) s tr x s') :
    CallOutcome cfg tr (.ensure input) s x s' := by
  simp only [SandboxCall.prog, RuntimeControl.ensure, Prog.bind_assoc] at hexec
  rcases exec_chooseSandboxId hexec with ⟨e, hid, rfl, rfl⟩ | ⟨id, tr', hid, hk, hsub⟩
  · exact .refused (by simp only [SandboxCall.request, hid])
  · refine ensures_provisionCall ?_ (createSandboxId_isNormal hid) _ _ _ hk hsub
    simp only [SandboxCall.request, hid]

/-- Ids are unique, so that a stored row is the one that its id names. -/
theorem findRow_eq_some {row : RuntimeEntity} (hrow : row ∈ s.runtimes) :
    SandboxCall.findRow s row.sandboxId = some row := by
  cases hfind : SandboxCall.findRow s row.sandboxId with
  | none =>
    have := List.find?_eq_none.mp hfind row hrow
    simp at this
  | some r =>
    have hr : r ∈ s.runtimes := List.mem_of_find?_eq_some hfind
    have hid := List.find?_some hfind
    rw [World.eq_of_sandboxId hr hrow (by simpa using hid)]

/-- Without a row nothing happens; with one, the stored spec is provisioned under the patch. -/
theorem update_outcome {sandboxId : String} {input : UpdateSandboxDto}
    {x : Except ServiceError Reply} {s' : World}
    (hexec : Exec backend ((SandboxCall.update sandboxId input).prog cfg) s tr x s') :
    CallOutcome cfg tr (.update sandboxId input) s x s' := by
  have hens : Ensures backend (· ∈ tr) ((SandboxCall.update sandboxId input).prog cfg) s
      (CallOutcome cfg tr (.update sandboxId input) s) := by
    simp only [SandboxCall.prog, RuntimeControl.update, Registry.findRuntimeBySandboxId,
      Prog.bind_assoc]
    refine ensures_sync (fun id hid => ?_) fun e he => .refused (by simp [SandboxCall.request, he])
    refine ensures_findRuntime (fun row hrow hsel => ?_) fun hnone => Ensures.throw (.refused ?_)
    -- no row has the id: nothing was changed
    swap
    · have hfind : SandboxCall.findRow s id = none := List.find?_eq_none.mpr fun r hr => by
        simpa [RuntimeQuery.selects] using hnone r hr
      simp [SandboxCall.request, hid, hfind]
    have hrowid : row.sandboxId = id := by simpa [RuntimeQuery.selects] using hsel
    refine ensures_provisionCall ?_ ?_
    · simp [SandboxCall.request, hid, ← hrowid, findRow_eq_some hrow]
    · change IsNormal row.sandboxId
      exact hrowid ▸ normalizeSandboxId_isNormal hid
  exact hens _ _ _ hexec fun _ h => h

/-- `start` and `stop`: look the row up, call the backend, save the status. -/
theorem ensures_statusCall {c : SandboxCall} {value reason : String} {status : RuntimeStatus}
    (op : RuntimeEntity → Request) (hop : ∀ row, (op row).Reads)
    (hreply : ∀ row, (op row).Reply = Except ServiceError Unit)
    (hcall : c.provisions = false) :
    Ensures backend (· ∈ tr) (do
      let row ← requireRuntime value
      let done ← await (op row)
      sync (cast (hreply row) done)
      let row ← Registry.setRuntimeStatus row status reason
      return Reply.summary (runtimeStatusSummary row)) s (CallOutcome cfg tr c s) := by
  have hnone := SandboxCall.request_eq_none hcall s (drawnText tr)
  refine ensures_requireRuntime (fun v _ row hrow _ => ?_) fun e => .refused hnone
  refine ensures_read (hop row) fun done => ?_
  refine ensures_sync (fun _ _ => ?_) fun e _ => .refused hnone
  refine ensures_setRuntimeStatus (fun lastActiveAt s₁ hsave => ?_) fun e => .refused hnone
  obtain ⟨-, hleases, hvms⟩ := World.saveRuntime_spec hsave
  exact Ensures.pure (.touched hrow hsave rfl hleases (Or.inl hvms) hcall)

/-- The status is saved, the VM removed, and then leases and row deleted: a failure in between
leaves what was done before it. -/
theorem delete_outcome {value : String} {x : Except ServiceError Reply} {s' : World}
    (hexec : Exec backend ((SandboxCall.delete value).prog cfg) s tr x s') :
    CallOutcome cfg tr (.delete value) s x s' := by
  have hens : Ensures backend (· ∈ tr) ((SandboxCall.delete value).prog cfg) s
      (CallOutcome cfg tr (.delete value) s) := by
    simp only [SandboxCall.prog, RuntimeControl.delete, Prog.bind_assoc]
    refine ensures_requireRuntime (fun v hv row hrow hanswers => ?_) fun e => .refused rfl
    refine ensures_setRuntimeStatus (fun lastActiveAt s₁ hsave => ?_) fun e => .refused rfl
    obtain ⟨hrows, hleases, hvms⟩ := World.saveRuntime_spec hsave
    refine ensures_remove fun a hevent => ?_
    -- from the removal on, whether or not the VM is gone
    have hkept : ∀ t : World, t.runtimes = s₁.runtimes → t.portLeases = s₁.portLeases →
        (t.vms = s₁.vms ∨ t.vms = Function.update s₁.vms row.sandboxName none) →
        Ensures backend (· ∈ tr) (do
          sync (a.outcome ())
          Registry.releasePorts row.id
          Registry.deleteRuntime (row.withStatus .deleting (some "delete_requested") lastActiveAt)
          return Reply.deleted row.sandboxId) t (CallOutcome cfg tr (.delete value) s) := by
      intro t hruntimes hportLeases htvms
      have htvms' : VmKeptOrGone s row.sandboxName t := by rwa [hvms] at htvms
      refine ensures_sync (fun _ hok => ?_) fun e _ => ?_
      -- a removal that returned did not fail
      · have hremoved : vmRemoved tr = true := by
          refine List.any_eq_true.mpr ⟨_, hevent, ?_⟩
          unfold Fallible.outcome at hok
          cases hfailure : a.failure with
          | none => rfl
          | some e => simp [hfailure] at hok
        refine ensures_deletePortLeases ?_
        unfold Registry.deleteRuntime
        simp only [Prog.bind_assoc]
        refine ensures_deleteRuntime (ensures_deletePortLeases (ensures_deleteSignedTokens ?_))
        refine Ensures.pure (.deleted hrow ⟨value, v, rfl, hv, hanswers⟩ ?_ ?_ htvms' hremoved)
        · change t.runtimes.delete (fun r => r.id == row.id) = _
          rw [hruntimes]
          exact Table.delete_save hrows (by simp [RuntimeEntity.withStatus])
        -- the source releases the ports twice, in `delete` and again in `deleteRuntime`
        · change (t.portLeases.delete fun l => l.runtimeId == row.id).delete
            (fun l => l.runtimeId == row.id) = _
          rw [hportLeases, hleases, Table.delete_delete]
      -- the removal threw: the row keeps the status `deleting`, and the leases stay
      · exact .touched hrow hsave hruntimes (hportLeases.trans hleases) htvms' rfl
    -- whether the removal has taken effect is up to the backend
    split_ifs
    · exact hkept _ rfl rfl (Or.inl rfl)
    · exact hkept _ rfl rfl (Or.inr rfl)
  exact hens _ _ _ hexec fun _ h => h

/-- **What a call can do.** However the backend answers, a call that runs alone ends in one of the
ways of `CallOutcome`. -/
theorem call_outcome {c : SandboxCall} {x : Except ServiceError Reply} {s' : World}
    (hexec : Exec backend (c.prog cfg) s tr x s') : CallOutcome cfg tr c s x s' := by
  cases c with
  | create input => exact create_outcome hexec
  | ensure input => exact ensure_outcome hexec
  | update sandboxId input => exact update_outcome hexec
  | start value =>
    simp only [SandboxCall.prog, RuntimeControl.start, Prog.bind_assoc] at hexec
    exact ensures_statusCall (fun row => .start row.sandboxName row.command row.workingDir)
      (fun _ => trivial) (fun _ => rfl) rfl _ _ _ hexec fun _ h => h
  | stop value =>
    simp only [SandboxCall.prog, RuntimeControl.stop, Prog.bind_assoc] at hexec
    exact ensures_statusCall (fun row => .stop row.sandboxName)
      (fun _ => trivial) (fun _ => rfl) rfl _ _ _ hexec fun _ h => h
  | delete value => exact delete_outcome hexec

/-- The backend failed the call: a file was not written, or the VM was not created. -/
def backendFailed (tr : List (Event requests World Answer)) : Bool :=
  tr.any fun ev =>
    match ev.op, ev.answer.failure with
    | .createDetachedRuntime _, some e => !isTransientDetachedSetupError e
    | .writeFiles _ _, some _ => true
    | _, _ => false

/-- What passes through the stages of provisioning holds of every call. -/
theorem prog_of_stages {P : (α : Type) → Async α → Prop} (hP : StageClosed P)
    (c : SandboxCall) : P _ (c.prog cfg) := by
  have hstatus : ∀ row status reason, (setRuntimeStatus row status reason).Uses Request.Mild := by
    intro row status reason
    unfold setRuntimeStatus
    split_ifs
    · exact mild_request trivial fun now => updateRuntime_mild _
    · exact updateRuntime_mild _
  cases c with
  | create input => exact hP.bind (hP.create cfg input) fun _ => hP.pure _
  | ensure input => exact hP.bind (hP.ensure cfg input) fun _ => hP.pure _
  | update sandboxId input => exact hP.bind (hP.update cfg sandboxId input) fun _ => hP.pure _
  -- the power calls look the row up, ask the backend once and save the status
  | start value =>
    refine hP.bind (hP.query (requireRuntime_uses value) fun row => ?_) fun _ => hP.pure _
    exact hP.request trivial fun r => hP.sync fun _ =>
      hP.bind (hP.mild (hstatus _ _ _)) fun _ => hP.pure _
  | stop value =>
    refine hP.bind (hP.query (requireRuntime_uses value) fun row => ?_) fun _ => hP.pure _
    exact hP.request trivial fun r => hP.sync fun _ =>
      hP.bind (hP.mild (hstatus _ _ _)) fun _ => hP.pure _
  | delete value =>
    refine hP.bind (hP.query (requireRuntime_uses value) fun row => ?_) fun _ => hP.pure _
    refine hP.bind (hP.mild (hstatus _ _ _)) fun row => hP.request trivial fun r => ?_
    refine hP.sync fun _ => hP.request trivial fun _ => ?_
    exact hP.bind (hP.leases (deleteRuntime_leases row)) fun _ => hP.pure _

/-- A call that the backend failed throws. -/
theorem error_of_backendFailed {c : SandboxCall} {x : Except ServiceError Reply} {s' : World}
    (hexec : Exec backend (c.prog cfg) s tr x s')
    (hfailed : backendFailed tr = true) : ∃ e, x = .error e := by
  obtain ⟨⟨before, op, a⟩, hev, hop⟩ := List.any_eq_true.mp hfailed
  have hprog : (c.prog cfg).Propagates Request.Fatal := prog_of_stages propagates_stageClosed c
  dsimp only at hop
  split at hop
  · rename_i input e hfailure
    refine hexec.error_of_fatal hprog hev rfl ⟨e, by simp [Fallible.outcome, hfailure], ?_⟩
    simpa using hop
  · rename_i name files e hfailure
    exact hexec.error_of_fatal hprog hev rfl ⟨e, by simp [Fallible.outcome, hfailure]⟩
  · simp at hop

end Outcome

/-! ## Runs of calls from an empty store

Calls are run one after the other, each to its end. `safe` is what a theorem supposes of each call.
`Reachable.invariant` is the induction that all of them use. -/

/-- The states reached from an empty store by calls run one at a time, each meeting `safe`. -/
def Reachable (cfg : AppConfig)
    (safe : SandboxCall → World → List (Event requests World Answer) → Prop)
    (volumes : Table VolumeEntity volumeKeys) (s : World) : Prop :=
  Runs backend (SandboxCall.prog cfg) (fun c s tr _ => safe c s tr) (fun _ _ _ _ g => g)
    (World.fresh volumes) () s ()

/-- Any outcome of any call. -/
def anyCall (_ : SandboxCall) (_ : World) (_ : List (Event requests World Answer)) : Prop := True

section Reachable

variable {cfg : AppConfig}
  {safe : SandboxCall → World → List (Event requests World Answer) → Prop}
  {volumes : Table VolumeEntity volumeKeys} {s : World}

/-- What every safe call preserves holds of every state reached. -/
theorem Reachable.invariant {I : World → Prop} (hinit : I (World.fresh volumes))
    (hstep : ∀ c s tr x s', I s → safe c s tr → Exec backend (c.prog cfg) s tr x s' → I s')
    (h : Reachable cfg safe volumes s) : I s :=
  Runs.invariant (I := fun s _ => I s) hinit (fun c s _ => hstep c s) h

theorem Reachable.call {c : SandboxCall} {tr : List (Event requests World Answer)}
    {x : Except ServiceError Reply} {s' : World} (h : Reachable cfg safe volumes s)
    (hexec : Exec backend (c.prog cfg) s tr x s') (hsafe : safe c s tr) :
    Reachable cfg safe volumes s' :=
  Runs.call (g := ()) h hexec hsafe

/-- A property that evaluation finds at the end of some calls holds of a state they reach. -/
theorem exists_reachable (cfg : AppConfig) (volumes : Table VolumeEntity volumeKeys)
    (calls : List (SandboxCall × List Answer)) (p : World → Bool)
    (hrun : (runCalls backend (SandboxCall.prog cfg) (fun _ _ _ _ g => g) calls
      (World.fresh volumes) ()).any (fun q => p q.1) = true) :
    ∃ s, Reachable cfg anyCall volumes s ∧ p s = true := by
  obtain ⟨s, ⟨⟩, hreach, hp⟩ := exists_runs_of_runCalls calls (fun s _ => p s) hrun
  exact ⟨s, hreach, hp⟩

/-- The same for calls that meet `safe`, where `check` finds each call safe. -/
theorem exists_safe_reachable (cfg : AppConfig) (volumes : Table VolumeEntity volumeKeys)
    {check : SandboxCall → World → List (Event requests World Answer) → Bool}
    (hcheck : ∀ c s tr, check c s tr = true → safe c s tr)
    (calls : List (SandboxCall × List Answer)) (p : World → Bool)
    (hrun : (runChecked backend (SandboxCall.prog cfg) (fun c s tr _ => check c s tr)
      (fun _ _ _ _ g => g) calls (World.fresh volumes) ()).any (fun q => p q.1) = true) :
    ∃ s, Reachable cfg safe volumes s ∧ p s = true := by
  obtain ⟨s, ⟨⟩, hreach, hp⟩ :=
    exists_runs_of_runChecked (fun c s tr _ => hcheck c s tr) calls (fun s _ => p s) hrun
  exact ⟨s, hreach, hp⟩

end Reachable

/-- The default configuration with a small port range. -/
def smallConfig (portRangeEnd : Int) : AppConfig where
  portRangeStart := 31000
  portRangeEnd := portRangeEnd
  defaultExposedPort := 8080
  defaultCpu := 1
  defaultMemoryMiB := 2048
  defaultDiskGiB := 6
  defaultImage := "nginx:stable-alpine"
  defaultImage_trimmed := by decide +kernel
  sandboxNamePrefix := "runtime"
  connectionTtlSeconds := 600
  proxyHostname := some "localhost"
  sha256 := id

end Microsandbox
