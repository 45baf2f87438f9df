import MicrosandboxCloud.Calls
import MicrosandboxCloud.Process.Transcript

/-!
# Microsandbox — what a provisioning call that returns has done

Whoever else is served in between, a provisioning call that returns ends with one save. What it
saves is read off the call's own transcript.

* **`creations` / `handedRow`** — the VMs a call created, and the row it goes on with.
* **`Committed`** — the end of a transcript: the last entry saves the row, with the columns of the
  one VM that was created, or with those the row had when no VM was.
* **`SandboxCall.commits`** — the rule of every provisioning call. The replies about rows are
  taken to be truthful, as they are in a run.
-/

namespace Microsandbox

open Process Text RuntimeControl Registry

/-! ## What stands in a transcript -/

/-- The request for a VM in an entry, with its reply. -/
def creation : (Σ op : Request, op.Reply) → Option (CreateRuntimeInput × Except ServiceError Unit)
  | ⟨.createDetachedRuntime vm, reply⟩ => some (vm, reply)
  | _ => none

def creations (t : Transcript requests) : List (CreateRuntimeInput × Except ServiceError Unit) :=
  t.filterMap creation

/-- The row that an entry hands to a provisioning call: found under a sandbox id, or inserted. -/
def handing : (Σ op : Request, op.Reply) → Option RuntimeEntity
  | ⟨.findRuntime (.bySandboxId _), row⟩ => row
  | ⟨.insertRuntime _, reply⟩ => reply.toOption
  | _ => none

/-- The row that the call goes on with: the last one handed to it. -/
def handedRow (t : Transcript requests) : Option RuntimeEntity := (t.filterMap handing).getLast?

/-- What the replies say of rows is what a table answers. -/
structure Truthful (t : Transcript requests) : Prop where
  found : ∀ query row, ⟨.findRuntime query, some row⟩ ∈ t → query.selects row = true
  inserted : ∀ draft row, ⟨.insertRuntime draft, .ok row⟩ ∈ t → row.sandboxId = draft.sandboxId

theorem Truthful.left {t u : Transcript requests} (h : Truthful (t ++ u)) : Truthful t :=
  ⟨fun query row hrow => h.found query row (List.mem_append_left _ hrow),
    fun draft row hrow => h.inserted draft row (List.mem_append_left _ hrow)⟩

/-- Requests that neither hand a row to a provisioning call nor touch a VM. -/
def Request.Quiet : Request → Prop
  | .findRuntime _ | .insertRuntime _ | .createDetachedRuntime _ | .remove _ => False
  | _ => True

/-- Requests that do not remove a VM. -/
def Request.KeepsVm : Request → Prop
  | .remove _ => False
  | _ => True

theorem Request.Quiet.keepsVm {op : Request} (h : op.Quiet) : op.KeepsVm := by
  cases op <;> trivial

theorem Request.Looks.keepsVm {op : Request} (h : op.Looks) : op.KeepsVm := by
  cases op <;> trivial

theorem Request.Checks.quiet {op : Request} (h : op.Checks) : op.Quiet := by
  cases op <;> trivial

theorem Request.Leases.quiet {op : Request} (h : op.Leases) : op.Quiet := by
  cases op <;> trivial

section Quiet

variable {t u : Transcript requests}

theorem creations_append (t u : Transcript requests) :
    creations (t ++ u) = creations t ++ creations u :=
  List.filterMap_append

theorem creations_of_none (hu : ∀ e ∈ u, ∀ vm, e.1 ≠ Request.createDetachedRuntime vm) :
    creations (t ++ u) = creations t := by
  have hnone : creations u = [] := by
    apply List.filterMap_eq_nil_iff.mpr
    rintro ⟨op, reply⟩ he
    cases op with
    | createDetachedRuntime vm => exact absurd rfl (hu _ he vm)
    | _ => rfl
  rw [creations_append, hnone, List.append_nil]

theorem creations_of_looks (hu : ∀ e ∈ u, e.1.Looks) : creations (t ++ u) = creations t := by
  apply creations_of_none
  intro e he vm hop
  have hlooks := hu e he
  rw [hop] at hlooks
  exact hlooks

theorem creations_of_quiet (hu : ∀ e ∈ u, e.1.Quiet) : creations (t ++ u) = creations t := by
  apply creations_of_none
  intro e he vm hop
  have hquiet := hu e he
  rw [hop] at hquiet
  exact hquiet

theorem handedRow_of_none (hu : ∀ e ∈ u, handing e = none) :
    handedRow (t ++ u) = handedRow t := by
  unfold handedRow
  rw [List.filterMap_append, List.filterMap_eq_nil_iff.mpr hu, List.append_nil]

theorem handedRow_of_quiet (hu : ∀ e ∈ u, e.1.Quiet) : handedRow (t ++ u) = handedRow t := by
  apply handedRow_of_none
  rintro ⟨op, reply⟩ he
  have hop := hu _ he
  cases op with
  | findRuntime query => exact hop.elim
  | insertRuntime draft => exact hop.elim
  | _ => rfl

/-- An entry that hands a row over decides which row the call goes on with. -/
theorem handedRow_snoc {e : Σ op : Request, op.Reply} {row : RuntimeEntity}
    (he : handing e = some row) : handedRow (t ++ [e]) = some row := by
  unfold handedRow
  rw [List.filterMap_append, List.filterMap_cons_some he, List.filterMap_nil]
  exact List.getLast?_concat

end Quiet

/-! ## The end of a provisioning call -/

/-- What the row of a runtime and the input of its VM both say. -/
structure VmColumns where
  ports : List RuntimePortBindingRecord
  image : String
  command : Option (List String)
  env : List (String × Json)
  workingDir : Option String

def CreateRuntimeInput.columns (vm : CreateRuntimeInput) : VmColumns :=
  ⟨vm.ports, vm.image, vm.command, vm.env, vm.workingDir⟩

def RuntimeEntity.columns (row : RuntimeEntity) : VmColumns :=
  ⟨row.portBindings, row.image, row.command, row.environment.getD [], row.workingDir⟩

/-- `createDetachedRuntime` returned, or failed in a way that `provision` leaves to the health
check. -/
def TookEffect (reply : Except ServiceError Unit) : Prop :=
  ∀ e, reply = .error e → isTransientDetachedSetupError e = true

/-- A call for the sandbox `sandboxId` has gone on with `row` and ended by saving `saved`. -/
structure Committed (sandboxId : String) (ssh : Bool) (t : Transcript requests)
    (row saved : RuntimeEntity) : Prop where
  handed : handedRow t = some row
  last : t.getLast? = some ⟨.saveRuntime saved, .ok ()⟩
  id : saved.id = row.id
  handedId : row.sandboxId = sandboxId
  savedId : saved.sandboxId = sandboxId
  sandboxName : saved.sandboxName = row.sandboxName
  columns : (∃ vm reply, creations t = [(vm, reply)] ∧ TookEffect reply ∧
      vm.sandboxName = row.sandboxName ∧ vm.ssh = ssh ∧ vm.columns = saved.columns) ∨
    (creations t = [] ∧ row.columns = saved.columns)

/-- What a provisioning call has done when it returns. -/
def Commits (sandboxId : String) (ssh : Bool) (t : Transcript requests)
    (x : Except ServiceError RuntimeSummary) : Prop :=
  Truthful t → ∀ summary, x = .ok summary →
    ∃ row saved, Committed sandboxId ssh t row saved ∧ summary = runtimeStatusSummary saved

theorem Commits.error {sandboxId : String} {ssh : Bool} {t : Transcript requests}
    (e : ServiceError) : Commits sandboxId ssh t (.error e) := by
  intro _ summary hx
  cases hx

/-- The rule of provisioning calls: they remove no VM. -/
def RemovesNone (_ : Transcript requests) (op : Request) : Prop := op.KeepsVm

section Rules

variable {α β : Type} {t : Transcript requests}
  {post : Transcript requests → Except ServiceError α → Prop}

/-- Stepping over a stage that makes only some kind of request. -/
theorem follows_over {allowed : Request → Prop} {p : Async β} {k : β → Async α}
    (hp : p.Uses allowed) (hallowed : ∀ op, allowed op → op.KeepsVm)
    (hk : ∀ u, (∀ e ∈ u, allowed e.1) → ∀ b, (k b).Follows RemovesNone post (t ++ u))
    (herror : ∀ t e, post t (.error e)) : (p >>= k).Follows RemovesNone post t := by
  refine Prog.Follows.bind (Prog.Follows.of_uses hp (fun _ _ op hop => hallowed op hop) ?_)
  intro u hu x
  cases x with
  | ok b => exact hk u hu b
  | error e => exact herror _ e

end Rules

namespace RuntimeControl

section Stages

variable {sandboxId : String} {t : Transcript requests} {cfg : AppConfig} {input : ProvisionInput}
  {name : Option String} {spec : RuntimeSpec} {row handed : RuntimeEntity}

/-- The final save. -/
theorem updateRuntime_commits {ssh : Bool} (saved handed : RuntimeEntity)
    (hhanded : handedRow t = some handed) (hid : saved.id = handed.id)
    (hname : saved.sandboxName = handed.sandboxName)
    (hsandbox : Truthful t → handed.sandboxId = sandboxId ∧ saved.sandboxId = sandboxId)
    (hcolumns : (∃ vm reply, creations t = [(vm, reply)] ∧ TookEffect reply ∧
        vm.sandboxName = handed.sandboxName ∧ vm.ssh = ssh ∧ vm.columns = saved.columns) ∨
      (creations t = [] ∧ handed.columns = saved.columns)) :
    (Registry.updateRuntime saved >>= fun updated =>
      Prog.pure (runtimeStatusSummary updated)).Follows RemovesNone (Commits sandboxId ssh) t := by
  unfold Registry.updateRuntime
  rw [Prog.bind_assoc]
  refine Prog.Follows.request trivial fun reply => ?_
  rw [Prog.bind_assoc]
  refine Prog.Follows.sync (fun u hreply => ?_) fun e _ => Commits.error e
  refine Prog.Follows.pure fun htrue summary hx => ?_
  cases hx
  obtain ⟨hsandbox, hsaved⟩ := hsandbox htrue.left
  -- the save creates no VM and hands over no row, so what is known of the transcript stays known
  have hquiet : ∀ e ∈ [(⟨.saveRuntime saved, reply⟩ : Σ op : Request, op.Reply)], e.1.Quiet := by
    intro e he
    rw [List.mem_singleton.mp he]
    trivial
  refine ⟨handed, saved, ⟨?_, ?_, hid, hsandbox, hsaved, hname, ?_⟩, rfl⟩
  · rw [handedRow_of_quiet hquiet, hhanded]
  · rw [List.getLast?_concat, hreply]
  · rw [creations_of_quiet hquiet]
    exact hcolumns

/-- The health checks and the final save that follow the creation of a VM. -/
theorem created_commits (input : ProvisionInput) (name : Option String)
    {ports : List RuntimePortBindingRecord} {reply : Except ServiceError Unit}
    (hhanded : handedRow t = some handed)
    (hcreations : creations t = [(createInput row spec ports, reply)]) (heffect : TookEffect reply)
    (hid : row.id = handed.id) (hname : row.sandboxName = handed.sandboxName)
    (hsandbox : Truthful t → handed.sandboxId = sandboxId ∧ row.sandboxId = sandboxId) :
    Prog.Follows RemovesNone (Commits sandboxId spec.ssh) t (do
      let primary ← sync (firstPortBinding ports)
      let appHealthy : Bool ← await (.waitForHealthy primary.hostPort)
      let sshHealthy ← sshHealth spec ports
      let lastActiveAt ← nextActivity input row
      let updated ← Registry.updateRuntime
        (provisionedRow name spec row ports primary appHealthy sshHealthy lastActiveAt)
      return runtimeStatusSummary updated) := by
  refine Prog.Follows.sync (fun primary _ => ?_) fun e _ => Commits.error e
  -- the checks hand over no row and create no VM, so the save still goes by the creation
  have hchecks : ∀ op : Request, op.Checks → op.KeepsVm := fun _ h => h.quiet.keepsVm
  refine follows_over (checks_await trivial) hchecks (fun u₁ hu₁ appHealthy => ?_)
    fun _ e => Commits.error e
  refine follows_over (sshHealth_checks spec ports) hchecks (fun u₂ hu₂ sshHealthy => ?_)
    fun _ e => Commits.error e
  refine follows_over (nextActivity_checks input row) hchecks (fun u₃ hu₃ lastActiveAt => ?_)
    fun _ e => Commits.error e
  have hquiet : ∀ e ∈ u₁ ++ u₂ ++ u₃, e.1.Quiet := by
    intro e he
    simp only [List.mem_append] at he
    rcases he with (he | he) | he
    · exact (hu₁ e he).quiet
    · exact (hu₂ e he).quiet
    · exact (hu₃ e he).quiet
  have hhanded' : handedRow (t ++ (u₁ ++ u₂ ++ u₃)) = some handed := by
    rw [handedRow_of_quiet hquiet, hhanded]
  have hcreations' : creations (t ++ (u₁ ++ u₂ ++ u₃)) =
      [(createInput row spec ports, reply)] := by
    rw [creations_of_quiet hquiet, hcreations]
  rw [List.append_assoc, List.append_assoc, ← List.append_assoc u₁]
  exact updateRuntime_commits _ handed hhanded' hid hname (fun htrue => hsandbox htrue.left)
    (Or.inl ⟨_, reply, hcreations', heffect, hname, rfl, rfl⟩)

/-- A launch creates one VM and saves what it was created from. -/
theorem launch_commits (spec : RuntimeSpec) (handed : RuntimeEntity)
    (hhanded : handedRow t = some handed) (hcreations : creations t = [])
    (hid : row.id = handed.id) (hname : row.sandboxName = handed.sandboxName)
    (hsandbox : Truthful t → handed.sandboxId = sandboxId ∧ row.sandboxId = sandboxId) :
    (launch cfg input name spec row).Follows RemovesNone (Commits sandboxId spec.ssh) t := by
  unfold launch
  -- leasing the missing ports asks for no VM
  refine follows_over (assignPorts_leases cfg row _) (fun _ h => h.quiet.keepsVm)
    (fun u hu ports => ?_) fun _ e => Commits.error e
  unfold createVm
  rw [Prog.bind_assoc]
  refine Prog.Follows.request trivial fun reply => ?_
  have hquiet : ∀ e ∈ u, e.1.Quiet := fun e he => (hu e he).quiet
  let entry : Σ op : Request, op.Reply :=
    ⟨.createDetachedRuntime (createInput row spec ports), reply⟩
  have hhanded' : handedRow (t ++ u ++ [entry]) = some handed := by
    rw [handedRow_of_none (by simp [entry, handing]), handedRow_of_quiet hquiet, hhanded]
  have hcreations' : creations (t ++ u ++ [entry]) = [(createInput row spec ports, reply)] := by
    rw [creations_append, creations_of_quiet hquiet, hcreations]
    rfl
  have hrest := fun heffect : TookEffect reply =>
    created_commits input name hhanded' hcreations' heffect hid hname
      fun htrue => hsandbox htrue.left.left
  cases reply with
  | ok v => exact hrest fun e he => by cases he
  | error e =>
    dsimp only
    -- a transient error counts as a creation, and the row is saved for it
    split_ifs with htransient
    · refine hrest fun e' he => ?_
      cases he
      exact htransient
    · exact Prog.Follows.throw (Commits.error e)

/-- The runtime is kept: what is saved has the columns of the row. -/
theorem syncExisting_commits {ssh : Bool} (hhanded : handedRow t = some row)
    (hcreations : creations t = []) (hsandbox : Truthful t → row.sandboxId = sandboxId) :
    (syncExisting input name spec row).Follows RemovesNone (Commits sandboxId ssh) t := by
  -- neither writing the files nor the readiness checks hand over a row
  have hfiles : (syncFiles spec row).Uses Request.Quiet := by
    unfold syncFiles
    split_ifs
    · exact (Prog.Uses.request trivial).bind fun written => Prog.Uses.ofExcept written
    · exact (Prog.uses_pure _).mpr trivial
  unfold syncExisting
  refine follows_over hfiles (fun _ h => h.keepsVm) (fun u hu _ => ?_) fun _ e => Commits.error e
  refine follows_over (nextActivity_checks input row) (fun _ h => h.quiet.keepsVm)
    (fun v hv lastActiveAt => ?_) fun _ e => Commits.error e
  have hquiet : ∀ e ∈ u ++ v, e.1.Quiet := by
    intro e he
    rcases List.mem_append.mp he with he | he
    · exact hu e he
    · exact (hv e he).quiet
  rw [List.append_assoc]
  refine updateRuntime_commits (syncedRow name spec row lastActiveAt) row ?_ rfl rfl
    (fun htrue => ⟨hsandbox htrue.left, hsandbox htrue.left⟩) (Or.inr ⟨?_, rfl⟩)
  · rw [handedRow_of_quiet hquiet, hhanded]
  · rw [creations_of_quiet hquiet, hcreations]

theorem provisionExisting_commits (hhanded : handedRow t = some row) (hcreations : creations t = [])
    (hsandbox : Truthful t → row.sandboxId = sandboxId) :
    (provisionExisting cfg input name spec row).Follows RemovesNone (Commits sandboxId spec.ssh)
      t := by
  unfold provisionExisting
  refine follows_over (existingHealthy_checks row) (fun _ h => h.quiet.keepsVm)
    (fun u hu healthy => ?_) fun _ e => Commits.error e
  have hquiet : ∀ e ∈ u, e.1.Quiet := fun e he => (hu e he).quiet
  have hhanded' : handedRow (t ++ u) = some row := by
    rw [handedRow_of_quiet hquiet, hhanded]
  have hcreations' : creations (t ++ u) = [] := by
    rw [creations_of_quiet hquiet, hcreations]
  have hsandbox' : Truthful (t ++ u) → row.sandboxId = sandboxId := fun htrue =>
    hsandbox htrue.left
  cases healthy with
  -- the VM is healthy and stays
  | true => exact syncExisting_commits hhanded' hcreations' hsandbox'
  -- it is not, and is replaced from the row as it stands
  | false =>
    exact launch_commits spec row hhanded' hcreations' rfl rfl fun htrue =>
      ⟨hsandbox' htrue, hsandbox' htrue⟩

theorem provisionReplace_commits (hhanded : handedRow t = some row) (hcreations : creations t = [])
    (hsandbox : Truthful t → row.sandboxId = sandboxId) :
    (provisionReplace cfg input name spec row).Follows RemovesNone (Commits sandboxId spec.ssh)
      t := by
  unfold provisionReplace Registry.updateRuntime
  rw [Prog.bind_assoc]
  refine Prog.Follows.request trivial fun reply => ?_
  rw [Prog.bind_assoc]
  refine Prog.Follows.sync (fun _ _ => ?_) fun e _ => Commits.error e
  have hquiet : ∀ e ∈ [(⟨.saveRuntime (replacingRow input name spec row), reply⟩ :
      Σ op : Request, op.Reply)], e.1.Quiet := by
    intro e he
    rw [List.mem_singleton.mp he]
    trivial
  -- the row is saved before the VM; what is saved last has its id and its name
  refine launch_commits spec row ?_ ?_ rfl rfl fun htrue =>
    ⟨hsandbox htrue.left, hsandbox htrue.left⟩
  · rw [handedRow_of_quiet hquiet, hhanded]
  · rw [creations_of_quiet hquiet, hcreations]

theorem provisionNew_commits {primary : RuntimePortBindingRecord} (hcreations : creations t = []) :
    (provisionNew cfg input name spec primary).Follows RemovesNone
      (Commits input.sandboxId spec.ssh) t := by
  unfold provisionNew
  refine follows_over (uses_await trivial) (fun _ h => h.keepsVm) (fun u₁ hu₁ authToken => ?_)
    fun _ e => Commits.error e
  refine Prog.Follows.sync (fun vmName _ => ?_) fun e _ => Commits.error e
  refine follows_over (uses_await trivial) (fun _ h => h.keepsVm) (fun u₂ hu₂ now => ?_)
    fun _ e => Commits.error e
  -- up to here nothing was asked but the time and a token
  have hnone : creations (t ++ u₁ ++ u₂) = [] := by
    rw [creations_of_looks hu₂, creations_of_looks hu₁, hcreations]
  unfold Registry.saveRuntime
  rw [Prog.bind_assoc]
  refine Prog.Follows.request trivial fun reply => ?_
  refine Prog.Follows.sync (fun row hrow => ?_) fun e _ => Commits.error e
  subst hrow
  refine follows_over (leaseForNewRow_leases cfg row _) (fun _ h => h.quiet.keepsVm)
    (fun u₃ hu₃ leased => ?_) fun _ e => Commits.error e
  have hquiet : ∀ e ∈ u₃, e.1.Quiet := fun e he => (hu₃ e he).quiet
  refine launch_commits { spec with ports := setHostPorts spec.ports leased } row ?_ ?_ rfl rfl
    fun htrue => ?_
  · rw [handedRow_of_quiet hquiet]
    exact handedRow_snoc rfl
  · rw [creations_of_quiet hquiet, creations_append, hnone]
    rfl
  -- the row that the insertion returns is the one that it was given
  · have hid := htrue.left.inserted _ row (List.mem_concat_self)
    exact ⟨hid, hid⟩

/-- What `provision` has done when it returns. -/
theorem provision_commits (hcreations : creations t = [])
    (hnormal : Truthful t → IsNormal input.sandboxId) :
    (provision cfg input).Follows RemovesNone
      (Commits input.sandboxId (sshEnabled input.toSandboxSpecDto)) t := by
  unfold provision
  refine Prog.Follows.sync (fun name _ => ?_) fun e _ => Commits.error e
  refine follows_over (checkName_uses name _) (fun _ h => h.keepsVm) (fun u₁ hu₁ _ => ?_)
    fun _ e => Commits.error e
  unfold Registry.findRuntimeBySandboxId
  rw [Prog.bind_assoc]
  refine Prog.Follows.sync (fun id hid => ?_) fun e _ => Commits.error e
  refine Prog.Follows.request trivial fun found => ?_
  unfold buildSpec
  rw [Prog.bind_assoc]
  refine follows_over (resolveVolumes_checks _) (fun _ h => h.quiet.keepsVm)
    (fun u₂ hu₂ resolved => ?_) fun _ e => Commits.error e
  obtain ⟨records, inputs⟩ := resolved
  change Prog.Follows RemovesNone
    (Commits input.sandboxId (specOf cfg input.toSandboxSpecDto records inputs).ssh) _ _
  refine Prog.Follows.sync (fun primary _ => ?_) fun e _ => Commits.error e
  -- up to here the call has created nothing, and was handed at most the row it looked up
  have hquiet : ∀ e ∈ u₂, e.1.Quiet := fun e he => (hu₂ e he).quiet
  have hnone : creations (t ++ u₁ ++ [⟨.findRuntime (.bySandboxId id), found⟩] ++ u₂) = [] := by
    rw [creations_of_quiet hquiet, creations_append, creations_of_looks hu₁, hcreations]
    rfl
  cases found with
  | none => exact provisionNew_commits hnone
  | some row =>
    have hhanded : handedRow (t ++ u₁ ++ [⟨.findRuntime (.bySandboxId id), some row⟩] ++ u₂) =
        some row := by
      rw [handedRow_of_quiet hquiet]
      exact handedRow_snoc rfl
    have hsandbox : Truthful (t ++ u₁ ++ [⟨.findRuntime (.bySandboxId id), some row⟩] ++ u₂) →
        row.sandboxId = input.sandboxId := by
      intro htrue
      have hselects := htrue.left.found (.bySandboxId id) row List.mem_concat_self
      rw [normalizeSandboxId_eq_self (hnormal htrue.left.left.left)] at hid
      cases hid
      simpa [RuntimeQuery.selects] using hselects
    dsimp only
    split_ifs
    · exact provisionReplace_commits hhanded hnone hsandbox
    · exact provisionExisting_commits hhanded hnone hsandbox

end Stages

end RuntimeControl

/-! ## The calls -/

/-- Does the call provision with SSH? An update never says, which means that it does. -/
def SandboxCall.enablesSsh : SandboxCall → Bool
  | .create input => sshEnabled input
  | .ensure input => sshEnabled input.toSandboxSpecDto
  | _ => true

/-- The sandbox that an `ensure` or an `update` names. -/
def SandboxCall.target : SandboxCall → Option String
  | .ensure input =>
    if needsRandomId (input.sandboxId <|> input.name) then none
    else (createSandboxId (input.sandboxId <|> input.name) "").toOption
  | .update sandboxId _ => (normalizeSandboxId sandboxId).toOption
  | _ => none

/-- What a call that provisions has done when it returns. -/
def SandboxCall.Commits (c : SandboxCall) (t : Transcript requests)
    (x : Except ServiceError Reply) : Prop :=
  Truthful t → ∀ reply, x = .ok reply → ∃ sandboxId row saved,
    Committed sandboxId c.enablesSsh t row saved ∧ reply = .summary (runtimeStatusSummary saved) ∧
    ∀ id, c.target = some id → sandboxId = id

section Calls

variable {α : Type} {t : Transcript requests} {cfg : AppConfig}
  {post : Transcript requests → Except ServiceError α → Prop}

/-- Choosing an id looks at nothing, and yields a normal one. -/
theorem follows_chooseSandboxId {seed : Option String} {k : String → Async α}
    (hk : ∀ u id, (∀ e ∈ u, e.1.Looks) → IsNormal id →
      (needsRandomId seed = false → createSandboxId seed "" = .ok id) →
      (k id).Follows RemovesNone post (t ++ u))
    (herror : ∀ t e, post t (.error e)) :
    (chooseSandboxId seed >>= k).Follows RemovesNone post t := by
  unfold chooseSandboxId
  -- a random text is drawn only if there is no seed
  split_ifs with hrandom
  · rw [Prog.bind_assoc]
    refine Prog.Follows.request trivial fun hex => ?_
    refine Prog.Follows.sync (fun id hid => ?_) fun e _ => herror _ e
    refine hk _ id ?_ (createSandboxId_isNormal hid) fun hnot => ?_
    · intro e he
      rw [List.mem_singleton.mp he]
      trivial
    · rw [hrandom] at hnot
      cases hnot
  · refine Prog.Follows.sync (fun id hid => ?_) fun e _ => herror _ e
    rw [← List.append_nil t]
    exact hk [] id (by simp) (createSandboxId_isNormal hid) fun _ => hid

theorem SandboxCall.Commits.error {c : SandboxCall} (t : Transcript requests) (e : ServiceError) :
    c.Commits t (.error e) := by
  intro _ reply hx
  cases hx

/-- A call commits what `provision` does, on the sandbox it names. -/
theorem follows_provision {c : SandboxCall} {input : ProvisionInput} (hcreations : creations t = [])
    (hnormal : Truthful t → IsNormal input.sandboxId)
    (hssh : sshEnabled input.toSandboxSpecDto = c.enablesSsh)
    (htarget : Truthful t → ∀ id, c.target = some id → input.sandboxId = id) :
    (provision cfg input >>= fun summary => Prog.pure (Reply.summary summary)).Follows RemovesNone
      c.Commits t := by
  refine Prog.Follows.bind ((provision_commits hcreations hnormal).extends.mono ?_)
  rintro u x ⟨⟨v, rfl⟩, hcommits⟩
  cases x with
  | error e => exact SandboxCall.Commits.error _ e
  | ok summary =>
    refine Prog.Follows.pure fun htrue reply hx => ?_
    cases hx
    obtain ⟨row, saved, hcommitted, rfl⟩ := hcommits htrue summary rfl
    exact ⟨input.sandboxId, row, saved, hssh ▸ hcommitted, rfl, htarget htrue.left⟩

/-- **What a provisioning call has done.** Whatever else is served in between, a call that returns
has ended by saving the row of its sandbox, with the columns of the VM it created or, if it created
none, those it was handed. -/
theorem SandboxCall.commits (cfg : AppConfig) {c : SandboxCall} (hc : c.provisions = true) :
    (c.prog cfg).Follows RemovesNone c.Commits [] := by
  cases c with
  | create input =>
    simp only [SandboxCall.prog, RuntimeControl.create, Prog.bind_assoc]
    refine Prog.Follows.sync (fun name _ => ?_) fun e _ => SandboxCall.Commits.error _ e
    refine follows_over (checkFreeName_uses name) (fun _ h => h.keepsVm) (fun u hu _ => ?_)
      SandboxCall.Commits.error
    refine follows_chooseSandboxId (fun v id hv hnormal _ => ?_) SandboxCall.Commits.error
    refine follows_provision ?_ (fun _ => hnormal) rfl fun _ id hid => by cases hid
    rw [creations_of_looks hv, creations_of_looks hu]
    rfl
  | ensure input =>
    simp only [SandboxCall.prog, RuntimeControl.ensure, Prog.bind_assoc]
    refine follows_chooseSandboxId (fun u id hu hnormal hid => ?_) SandboxCall.Commits.error
    refine follows_provision ?_ (fun _ => hnormal) rfl fun _ id' htarget => ?_
    · rw [creations_of_looks hu]
      rfl
    · change (if needsRandomId (input.sandboxId <|> input.name) then none
        else (createSandboxId (input.sandboxId <|> input.name) "").toOption) = some id' at htarget
      split_ifs at htarget with hrandom
      rw [hid (by simpa using hrandom)] at htarget
      exact Option.some.inj htarget
  | update sandboxId input =>
    simp only [SandboxCall.prog, RuntimeControl.update, Registry.findRuntimeBySandboxId,
      Prog.bind_assoc]
    refine Prog.Follows.sync (fun id hid => ?_) fun e _ => SandboxCall.Commits.error _ e
    refine Prog.Follows.request trivial fun found => ?_
    cases found with
    | none => exact Prog.Follows.throw (SandboxCall.Commits.error _ _)
    | some row =>
      -- `update` provisions the sandbox of the row it has found
      have hrow : Truthful [⟨.findRuntime (.bySandboxId id), some row⟩] → row.sandboxId = id := by
        intro htrue
        have hselects := htrue.found (.bySandboxId id) row List.mem_cons_self
        simpa [RuntimeQuery.selects] using hselects
      refine follows_provision rfl (fun htrue => ?_) rfl fun htrue id' htarget => ?_
      · rw [← hrow htrue] at hid
        exact normalizeSandboxId_isNormal hid
      · change (normalizeSandboxId sandboxId).toOption = some id' at htarget
        rw [hid] at htarget
        exact (hrow htrue).trans (Option.some.inj htarget)
  | start | stop | delete => cases hc

end Calls

/-! ## In a run -/

/-- What was answered by the backend is truthful. -/
theorem truthful_of_answered {t : Transcript requests}
    (h : ∀ e ∈ t, ∃ ev, Pool.answered backend ev = some e) : Truthful t := by
  constructor
  · intro query row hmem
    obtain ⟨ev, hev⟩ := h _ hmem
    obtain ⟨s, a, s', -, hact⟩ := Pool.answered_eq_some.mp hev
    simp only [backend, act, Option.some.injEq, Prod.mk.injEq] at hact
    exact (pickRow_some hact.1).2
  · intro draft row hmem
    obtain ⟨ev, hev⟩ := h _ hmem
    obtain ⟨s, a, s', -, hact⟩ := Pool.answered_eq_some.mp hev
    simp only [backend, act] at hact
    split at hact <;> cases hact
    rfl

/-- A save that was answered has stored the row. -/
theorem saveRuntime_of_act {saved : RuntimeEntity} {a : Answer} {s s' : World}
    (hact : act (.saveRuntime saved) a s = some (.ok (), s')) : s.saveRuntime saved = some s' := by
  simp only [act] at hact
  split at hact <;> cases hact
  assumption

/-- What a provisioning call that ran alone has done. -/
theorem SandboxCall.committed {cfg : AppConfig} {c : SandboxCall} {s s' : World}
    {tr : List (Event requests World Answer)} {reply : Reply} (hc : c.provisions = true)
    (hexec : Exec backend (c.prog cfg) s tr (.ok reply) s') : ∃ sandboxId row saved,
      Committed sandboxId c.enablesSsh (tr.filterMap (Pool.answered backend)) row saved ∧
      reply = .summary (runtimeStatusSummary saved) ∧ saved ∈ s'.runtimes := by
  have hcommits : c.Commits (tr.filterMap (Pool.answered backend)) (.ok reply) :=
    Prog.Follows.exec hexec (SandboxCall.commits cfg hc)
  have htrue : Truthful (tr.filterMap (Pool.answered backend)) := by
    apply truthful_of_answered
    intro e he
    obtain ⟨ev, -, hev⟩ := List.mem_filterMap.mp he
    exact ⟨ev, hev⟩
  obtain ⟨sandboxId, row, saved, hcommitted, hreply, -⟩ := hcommits htrue reply rfl
  refine ⟨sandboxId, row, saved, hcommitted, hreply, ?_⟩
  have hlast := hcommitted.last
  -- the last request of the run is the save, so its row is stored at the end
  rcases List.eq_nil_or_concat tr with rfl | ⟨pre, ev, rfl⟩
  · cases hlast
  have hend : (pre ++ [ev]).getLast? = some ev := List.getLast?_concat
  obtain ⟨r, hact⟩ := hexec.last (List.concat_eq_append ▸ hend)
  have hanswered : Pool.answered backend ev = some ⟨ev.op, r⟩ := by
    unfold Pool.answered
    rw [hact]
    rfl
  rw [List.concat_eq_append, List.filterMap_append, List.filterMap_cons_some hanswered,
    List.filterMap_nil, List.getLast?_concat] at hlast
  rw [Option.some.inj hlast] at hanswered
  obtain ⟨s₁, a, s₂, rfl, hsaved⟩ := Pool.answered_eq_some.mp hanswered
  cases hact.symm.trans hsaved
  exact (World.mem_saveRuntime (saveRuntime_of_act (a := a) hsaved)).mpr (Or.inl rfl)

/-- The VM that a run asked for is the one that was committed. -/
theorem Committed.created {sandboxId : String} {ssh : Bool} {row saved : RuntimeEntity}
    {tr : List (Event requests World Answer)} {vm : CreateRuntimeInput}
    (h : Committed sandboxId ssh (tr.filterMap (Pool.answered backend)) row saved)
    (hserved : ∀ ev ∈ tr, ∃ r s', act ev.op ev.answer ev.before = some (r, s'))
    (hvm : .createDetachedRuntime vm ∈ tr.map Event.op) :
    vm.sandboxName = row.sandboxName ∧ vm.ssh = ssh ∧ vm.columns = saved.columns := by
  obtain ⟨ev, hev, hop⟩ := List.mem_map.mp hvm
  obtain ⟨s, op, a⟩ := ev
  dsimp only at hop
  subst hop
  -- the request was answered, so it is among the creations
  obtain ⟨r, s', hact⟩ := hserved _ hev
  have hmem : (vm, r) ∈ creations (tr.filterMap (Pool.answered backend)) := by
    refine List.mem_filterMap.mpr ⟨⟨.createDetachedRuntime vm, r⟩, ?_, rfl⟩
    exact List.mem_filterMap.mpr ⟨_, hev, Pool.answered_eq_some.mpr ⟨s, a, s', rfl, hact⟩⟩
  -- there was one creation at most
  rcases h.columns with ⟨vm', reply, hcreations, -, hname, hssh, hcolumns⟩ | ⟨hcreations, -⟩
  · rw [hcreations, List.mem_singleton] at hmem
    cases hmem
    exact ⟨hname, hssh, hcolumns⟩
  · rw [hcreations] at hmem
    cases hmem

end Microsandbox
