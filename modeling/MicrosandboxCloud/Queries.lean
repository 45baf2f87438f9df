import MicrosandboxCloud.Rules

/-!
# Microsandbox — what the functions of the services ask for

Most stages only look: their requests leave the world alone and cannot make a call fail for good.
One lemma for each such function, so that proofs about `provision` and the calls on a sandbox
step over them.

* **`Request.Queries`** — the requests that only look; `Request.Looks` are those that do not look at
  the port leases, `Request.Checks` those that do not look a runtime up either.
* **`Request.Mild`** — those of a provisioning call but for the two that use the VM backend.
* **`StageClosed`** — properties that pass from the stages of `provision` to the whole. Two are
  used: a fatal reply of the backend fails the call, and no call touches the SSH sessions.
-/

namespace Microsandbox

open Process

/-- Requests that only look: at the tables, the clock, random bytes, or the state of a VM. -/
def Request.Queries : Request → Prop
  | .findRuntime _ | .findPortLease _ _ | .findVolume _ _ | .findSignedToken _ _
  | .findRevokedSession _ | .now | .randomBytes | .getStatus _ | .isHealthy _
  | .waitForHealthy _ => True
  | _ => False

/-- A request that only looks leaves the world as it is, so that `ensures_read` applies to it. -/
theorem Request.Queries.reads {op : Request} (h : op.Queries) : op.Reads := by
  cases op <;> trivial

/-- Those that leave the port leases out. -/
def Request.Looks : Request → Prop
  | .findPortLease _ _ => False
  | op => op.Queries

/-- Looking without the port leases is one way of looking. -/
theorem Request.Looks.queries {op : Request} (h : op.Looks) : op.Queries := by
  cases op with
  | findPortLease => trivial
  | _ => exact h

/-- Those that do not look a runtime up either. -/
def Request.Checks : Request → Prop
  | .findRuntime _ => False
  | op => op.Looks

/-- Looking without leases and runtimes is one way of looking without leases. -/
theorem Request.Checks.looks {op : Request} (h : op.Checks) : op.Looks := by
  cases op with
  | findRuntime => trivial
  | _ => exact h

section Rules

variable {α : Type}

/-- A program that has ended asks for nothing. -/
theorem uses_pure (a : α) : Prog.Uses (σ := requests) (ε := ServiceError) Request.Looks (.pure a) :=
  (Prog.uses_pure a).mpr trivial

theorem uses_throw (e : ServiceError) :
    Prog.Uses (σ := requests) (α := α) Request.Looks (.throw e) :=
  (Prog.uses_throw e).mpr trivial

theorem uses_await {op : Request} (h : op.Looks) : (await op).Uses Request.Looks :=
  Prog.Uses.request h

/-- A request that looks, and then a program that only looks whatever the reply is: the rule that
most of the lemmas below are built from. -/
theorem uses_query {op : Request} {k : op.Reply → Async α} (h : op.Looks)
    (hk : ∀ r, (k r).Uses Request.Looks) : (await op >>= k).Uses Request.Looks :=
  (uses_await h).bind hk

/-- A synchronous step asks for nothing, whether it throws or not. -/
theorem uses_sync {β : Type} {x : Except ServiceError β} {k : β → Async α}
    (hk : ∀ b, (k b).Uses Request.Looks) : (sync x >>= k).Uses Request.Looks :=
  (Prog.Uses.ofExcept x).bind hk

/-- The lemmas about `Request.Checks` are the stronger ones; this is how they are used where
`Request.Looks` is enough. -/
theorem uses_of_checks {p : Async α} (h : p.Uses Request.Checks) : p.Uses Request.Looks :=
  h.mono fun _ hop => hop.looks

/-- The same four rules for requests that look no runtime up either. -/
theorem checks_pure (a : α) :
    Prog.Uses (σ := requests) (ε := ServiceError) Request.Checks (.pure a) :=
  (Prog.uses_pure a).mpr trivial

theorem checks_throw (e : ServiceError) :
    Prog.Uses (σ := requests) (α := α) Request.Checks (.throw e) :=
  (Prog.uses_throw e).mpr trivial

theorem checks_await {op : Request} (h : op.Checks) : (await op).Uses Request.Checks :=
  Prog.Uses.request h

theorem checks_query {op : Request} {k : op.Reply → Async α} (h : op.Checks)
    (hk : ∀ r, (k r).Uses Request.Checks) : (await op >>= k).Uses Request.Checks :=
  (checks_await h).bind hk

end Rules

namespace Registry

/-- A lookup by id or name normalises the value first, which may throw, and then makes one query. -/
theorem findRuntimeBySandboxIdOrName_uses (value : String) :
    (findRuntimeBySandboxIdOrName value).Uses Request.Looks :=
  uses_sync fun _ => uses_await trivial

/-- A lookup by id alone does the same with the other query. -/
theorem findRuntimeBySandboxId_uses (sandboxId : String) :
    (findRuntimeBySandboxId sandboxId).Uses Request.Looks :=
  uses_sync fun _ => uses_await trivial

/-- A volume reference that is blank is looked up nowhere. -/
theorem findVolumeByIdOrName_checks (value : String) :
    (findVolumeByIdOrName value).Uses Request.Checks := by
  refine (Prog.Uses.ofExcept _).bind fun name => ?_
  cases name with
  | none => exact checks_pure none
  | some name => exact checks_await trivial

end Registry

namespace RuntimeControl

/-- The lookup that throws when there is no such runtime. -/
theorem requireRuntime_uses (value : String) : (requireRuntime value).Uses Request.Looks := by
  refine (Registry.findRuntimeBySandboxIdOrName_uses value).bind fun row => ?_
  cases row with
  | none => exact uses_throw _
  | some row => exact uses_pure row

/-- The check of a requested name looks for the runtimes that answer to it, if there is a name. -/
theorem checkName_uses (name : Option String) (sandboxId : String) :
    (checkName name sandboxId).Uses Request.Looks := by
  cases name with
  | none => exact uses_pure ()
  | some name =>
    refine (Registry.findRuntimeBySandboxIdOrName_uses name).bind fun row => ?_
    cases row with
    | none => exact uses_pure ()
    | some row =>
      dsimp only
      split_ifs
      · exact uses_throw _
      · exact uses_pure ()

/-- `create` makes the same lookup, and refuses whatever it finds. -/
theorem checkFreeName_uses (name : Option String) : (checkFreeName name).Uses Request.Looks := by
  cases name with
  | none => exact uses_pure ()
  | some name =>
    refine (Registry.findRuntimeBySandboxIdOrName_uses name).bind fun row => ?_
    cases row with
    | none => exact uses_pure ()
    | some row => exact uses_throw _

/-- Random bytes are drawn only when the seed is blank. -/
theorem chooseSandboxId_uses (seed : Option String) :
    (chooseSandboxId seed).Uses Request.Looks := by
  unfold chooseSandboxId
  split_ifs
  · exact uses_query trivial fun hex => Prog.Uses.ofExcept _
  · exact Prog.Uses.ofExcept _

/-- The volumes of a request are looked up one after the other. Induction on the mounts that are
left. -/
theorem resolveVolumes_checks (mounts : List RuntimeVolumeMountDto) :
    (resolveVolumes mounts).Uses Request.Checks := by
  induction mounts with
  | nil => exact checks_pure _
  | cons mount rest ih =>
    unfold resolveVolumes requireVolume
    refine Prog.Uses.bind (Prog.Uses.bind (Registry.findVolumeByIdOrName_checks _) fun volume => ?_)
      fun volume => ?_
    · cases volume with
      | none => exact checks_throw _
      | some volume => exact checks_pure volume
    · split_ifs
      · exact checks_throw _
      · exact ih.bind fun _ => checks_pure _

/-- Of a spec, only the volumes need the database. -/
theorem buildSpec_checks (cfg : AppConfig) (input : SandboxSpecDto) :
    (buildSpec cfg input).Uses Request.Checks :=
  (resolveVolumes_checks _).bind fun _ => checks_pure _

/-- The same for the stages that may also look runtimes up. -/
theorem buildSpec_uses (cfg : AppConfig) (input : SandboxSpecDto) :
    (buildSpec cfg input).Uses Request.Looks :=
  uses_of_checks (buildSpec_checks cfg input)

/-- The health of an existing VM: its status, and a probe of its primary port if it is running. -/
theorem existingHealthy_checks (row : RuntimeEntity) :
    (existingHealthy row).Uses Request.Checks := by
  refine checks_query trivial fun status => ?_
  split_ifs
  · exact checks_await trivial
  · exact checks_pure false

/-- The same for the stages that may also look runtimes up. -/
theorem existingHealthy_uses (row : RuntimeEntity) :
    (existingHealthy row).Uses Request.Looks :=
  uses_of_checks (existingHealthy_checks row)

/-- The clock is read unless the request asks to keep the time of the last activity. -/
theorem nextActivity_checks (input : ProvisionInput) (row : RuntimeEntity) :
    (nextActivity input row).Uses Request.Checks := by
  unfold nextActivity
  split_ifs
  · exact checks_pure _
  · exact checks_query trivial fun now => checks_pure _

/-- The same for the stages that may also look runtimes up. -/
theorem nextActivity_uses (input : ProvisionInput) (row : RuntimeEntity) :
    (nextActivity input row).Uses Request.Looks :=
  uses_of_checks (nextActivity_checks input row)

/-- The SSH port is waited for only when the spec has SSH and one of its bindings is for it. -/
theorem sshHealth_checks (spec : RuntimeSpec) (ports : List RuntimePortBindingRecord) :
    (sshHealth spec ports).Uses Request.Checks := by
  unfold sshHealth
  split_ifs
  · cases findSshBinding ports with
    | none => exact checks_pure true
    | some binding => exact checks_await trivial
  · exact checks_pure true

/-- The same for the stages that may also look runtimes up. -/
theorem sshHealth_uses (spec : RuntimeSpec) (ports : List RuntimePortBindingRecord) :
    (sshHealth spec ports).Uses Request.Looks :=
  uses_of_checks (sshHealth_checks spec ports)

end RuntimeControl

/-! ## Stages

A provisioning call is put together from stages: those that look, those that lease ports, the saving
of a row, and two calls of the VM backend. What is proved of each stage passes to the whole by
`StageClosed`, so that a change to one stage is a change to one of the lemmas above. -/

/-- Requests of the services that neither use the two backend calls of provisioning nor touch the
SSH sessions, nor store a signed token. -/
def Request.Mild : Request → Prop
  | .createDetachedRuntime _ | .writeFiles _ _ | .sessions _ | .saveRevokedSession _
  | .insertSignedToken _ => False
  | _ => True

theorem Request.Queries.mild {op : Request} (h : op.Queries) : op.Mild := by
  cases op <;> trivial

section Rules

variable {α β : Type}

theorem mild_await {op : Request} (h : op.Mild) : (await op).Uses Request.Mild :=
  Prog.Uses.request h

/-- A mild request, and then a program that stays mild whatever the reply is. -/
theorem mild_request {op : Request} {k : op.Reply → Async α} (h : op.Mild)
    (hk : ∀ r, (k r).Uses Request.Mild) : (await op >>= k).Uses Request.Mild :=
  (mild_await h).bind hk

end Rules

namespace Registry

/-- Saving a row is mild, also when the database refuses it. -/
theorem updateRuntime_mild (row : RuntimeEntity) : (updateRuntime row).Uses Request.Mild := by
  refine mild_request trivial fun saved => ?_
  exact (Prog.Uses.ofExcept _).bind fun _ => (Prog.uses_pure row).mpr trivial

theorem saveRuntime_mild (draft : RuntimeEntity) : (saveRuntime draft).Uses Request.Mild :=
  mild_request trivial fun _ => Prog.Uses.ofExcept _

end Registry

/-- Requests by which a provisioning call leases ports, or takes its new row back. -/
def Request.Leases : Request → Prop
  | .findPortLease _ _ | .insertPortLease _ | .deletePortLeases _ | .deleteRuntime _
  | .deleteSignedTokens _ => True
  | _ => False

/-- Leasing ports, and giving them back, is mild. -/
theorem Request.Leases.mild {op : Request} (h : op.Leases) : op.Mild := by
  cases op with
  | findPortLease | insertPortLease | deletePortLeases | deleteRuntime
  | deleteSignedTokens => trivial
  | _ => exact h.elim

section Rules

variable {α : Type}

theorem leases_pure (a : α) :
    Prog.Uses (σ := requests) (ε := ServiceError) Request.Leases (.pure a) :=
  (Prog.uses_pure a).mpr trivial

/-- A request that leases, and then a program that only leases whatever the reply is. -/
theorem leases_request {op : Request} {k : op.Reply → Async α} (h : op.Leases)
    (hk : ∀ r, (k r).Uses Request.Leases) : (await op >>= k).Uses Request.Leases :=
  (Prog.Uses.request h).bind hk

end Rules

namespace Registry

/-- Deleting a runtime takes its row, its leases and its tokens away, in this order. -/
theorem deleteRuntime_leases (row : RuntimeEntity) : (deleteRuntime row).Uses Request.Leases := by
  refine leases_request trivial fun row => ?_
  refine leases_request trivial fun leases => ?_
  exact Prog.Uses.request trivial

/-- The loop looks at one port after the other and takes the free ones. Induction on the ports left
to try: a refused lease and a taken port both go on with the next. -/
theorem leaseLoop_leases (id : RuntimeId) (count left : Nat) (port : Int) (ports : List Int) :
    (leaseLoop id count left port ports).Uses Request.Leases := by
  induction left generalizing port ports with
  | zero => exact leases_pure ports
  | succ left ih =>
    unfold leaseLoop
    split_ifs
    · refine leases_request trivial fun lease => ?_
      cases lease with
      | some lease => exact ih _ _
      | none =>
        refine leases_request trivial fun saved => ?_
        cases saved with
        | ok _ => exact ih _ _
        | error e => exact ih _ _
    · exact leases_pure ports

/-- When the loop ends with too few ports the leases of the runtime are deleted. -/
theorem leasePorts_leases (cfg : AppConfig) (id : RuntimeId) (count : Nat) :
    (leasePorts cfg id count).Uses Request.Leases := by
  refine (leaseLoop_leases id count _ _ []).bind fun ports => ?_
  split_ifs
  · exact leases_request trivial fun _ => (Prog.uses_throw noFreePorts).mpr trivial
  · exact leases_pure ports

end Registry

namespace RuntimeControl

/-- Existing bindings keep their ports; only the missing ones are leased. -/
theorem assignPorts_leases (cfg : AppConfig) (row : RuntimeEntity)
    (ports : List RuntimePortBindingRecord) :
    (assignPorts cfg row ports).Uses Request.Leases := by
  unfold assignPorts
  split_ifs
  · exact (Registry.leasePorts_leases _ _ _).bind fun _ => leases_pure _
  · exact (Registry.leasePorts_leases _ _ _).bind fun _ => leases_pure _
  · exact leases_pure _

/-- A failed leasing takes the new row back before it throws again. -/
theorem leaseForNewRow_leases (cfg : AppConfig) (row : RuntimeEntity) (count : Nat) :
    (leaseForNewRow cfg row count).Uses Request.Leases := by
  have hlease : (Registry.leasePorts cfg row.id count).Uses Request.Leases :=
    Registry.leasePorts_leases cfg row.id count
  have hrollback := Registry.deleteRuntime_leases row
  exact hlease.catchError fun e => hrollback.bind fun _ => (Prog.uses_throw e).mpr trivial

end RuntimeControl

/-- A property of programs that passes from the stages of `provision` to the whole. -/
structure StageClosed (P : (α : Type) → Async α → Prop) : Prop where
  mild : ∀ {α : Type} {p : Async α}, p.Uses Request.Mild → P α p
  bind : ∀ {α β : Type} {p : Async β} {k : β → Async α}, P β p → (∀ b, P α (k b)) → P α (p >>= k)
  createVm : ∀ input, P Unit (RuntimeControl.createVm input)
  syncFiles : ∀ spec row, P Unit (RuntimeControl.syncFiles spec row)

namespace StageClosed

variable {P : (α : Type) → Async α → Prop} {α β : Type}

theorem pure (hP : StageClosed P) (a : α) : P α (.pure a) :=
  hP.mild ((Prog.uses_pure a).mpr trivial)

theorem throw (hP : StageClosed P) (e : ServiceError) : P α (.throw e) :=
  hP.mild ((Prog.uses_throw e).mpr trivial)

theorem query (hP : StageClosed P) {p : Async β} {k : β → Async α} (hp : p.Uses Request.Looks)
    (hk : ∀ b, P α (k b)) : P α (p >>= k) :=
  hP.bind (hP.mild (hp.mono fun _ h => h.queries.mild)) hk

theorem leases (hP : StageClosed P) {p : Async α} (hp : p.Uses Request.Leases) : P α p :=
  hP.mild (hp.mono fun _ h => h.mild)

theorem request (hP : StageClosed P) {op : Request} {k : op.Reply → Async α} (h : op.Mild)
    (hk : ∀ r, P α (k r)) : P α (await op >>= k) :=
  hP.bind (hP.mild (mild_await h)) hk

theorem sync (hP : StageClosed P) {x : Except ServiceError β} {k : β → Async α}
    (hk : ∀ b, P α (k b)) : P α (sync x >>= k) :=
  hP.query (Prog.Uses.ofExcept x) hk

/-- Saving a row is a stage like any other. -/
theorem save (hP : StageClosed P) (row : RuntimeEntity) : P _ (Registry.updateRuntime row) :=
  hP.mild (Registry.updateRuntime_mild row)

open RuntimeControl

/-- From the assignment of ports on: the VM is created, its ports are waited for, and the row is
saved. -/
theorem launch (hP : StageClosed P) (cfg : AppConfig) (input : ProvisionInput)
    (name : Option String) (spec : RuntimeSpec) (row : RuntimeEntity) :
    P _ (launch cfg input name spec row) := by
  have hports : P _ (assignPorts cfg row spec.ports) :=
    hP.leases (assignPorts_leases cfg row spec.ports)
  refine hP.bind hports fun ports => ?_
  refine hP.bind (hP.createVm _) fun _ => ?_
  refine hP.sync fun primary => ?_
  refine hP.query (uses_await trivial) fun appHealthy => ?_
  refine hP.query (sshHealth_uses spec ports) fun sshHealthy => ?_
  refine hP.query (nextActivity_uses input row) fun lastActiveAt => ?_
  exact hP.bind (hP.save _) fun _ => hP.pure _

/-- The row that is kept: its files are written and it is saved. -/
theorem syncExisting (hP : StageClosed P) (input : ProvisionInput) (name : Option String)
    (spec : RuntimeSpec) (row : RuntimeEntity) : P _ (syncExisting input name spec row) := by
  refine hP.bind (hP.syncFiles spec row) fun _ => ?_
  refine hP.query (nextActivity_uses input row) fun lastActiveAt => ?_
  exact hP.bind (hP.save _) fun _ => hP.pure _

/-- The whole of `provision`, by the four ways it can go: a new row, a row that is replaced, one
that is healthy and one that has to be launched again. -/
theorem provision (hP : StageClosed P) (cfg : AppConfig) (input : ProvisionInput) :
    P _ (provision cfg input) := by
  unfold RuntimeControl.provision
  refine hP.sync fun name => ?_
  refine hP.query (checkName_uses name _) fun _ => ?_
  refine hP.query (Registry.findRuntimeBySandboxId_uses _) fun row => ?_
  refine hP.query (buildSpec_uses cfg _) fun spec => ?_
  refine hP.sync fun primary => ?_
  cases row with
  | none =>
    refine hP.query (uses_await trivial) fun authToken => ?_
    refine hP.sync fun vmName => ?_
    refine hP.query (uses_await trivial) fun now => ?_
    refine hP.bind (hP.mild (Registry.saveRuntime_mild _)) fun row => ?_
    have hleased := hP.leases (leaseForNewRow_leases cfg row spec.ports.length)
    exact hP.bind hleased fun leased => hP.launch _ _ _ _ _
  | some row =>
    dsimp only
    split_ifs
    -- the stored VM has to be replaced: the row is written first, and the launch removes the VM
    · exact hP.bind (hP.save _) fun row => hP.launch _ _ _ _ _
    · refine hP.query (existingHealthy_uses row) fun healthy => ?_
      cases healthy with
      | true => exact hP.syncExisting _ _ _ _
      | false => exact hP.launch _ _ _ _ _

/-- `create` checks that the name is free and chooses the id before it provisions. -/
theorem create (hP : StageClosed P) (cfg : AppConfig) (input : SandboxSpecDto) :
    P _ (create cfg input) := by
  refine hP.sync fun name => ?_
  refine hP.query (checkFreeName_uses name) fun _ => ?_
  refine hP.query (chooseSandboxId_uses name) fun sandboxId => ?_
  exact hP.provision cfg _

theorem ensure (hP : StageClosed P) (cfg : AppConfig) (input : EnsureRuntimeDto) :
    P _ (ensure cfg input) :=
  hP.query (chooseSandboxId_uses _) fun _ => hP.provision cfg _

/-- `update` provisions the stored spec under the patch, if there is a stored row. -/
theorem update (hP : StageClosed P) (cfg : AppConfig) (sandboxId : String)
    (input : UpdateSandboxDto) : P _ (update cfg sandboxId input) := by
  refine hP.query (Registry.findRuntimeBySandboxId_uses sandboxId) fun row => ?_
  cases row with
  | none => exact hP.throw _
  | some row => exact hP.provision cfg _

end StageClosed

/-! ## Fatal replies

Two calls of the backend fail a provisioning call for good. A transient error of
`createDetachedRuntime` does not: the code goes on to wait for the ports. -/

/-- `createDetachedRuntime` failed for good, or files were not written. -/
def Request.Fatal : (op : Request) → op.Reply → Prop
  | .createDetachedRuntime _, r => ∃ e, r = .error e ∧ isTransientDetachedSetupError e = false
  | .writeFiles _ _, r => ∃ e, r = .error e
  | _, _ => False

/-- The fatal replies are all to requests that are not mild. -/
theorem Request.Mild.not_fatal {op : Request} (h : op.Mild) (r : op.Reply) : ¬ op.Fatal r := by
  cases op <;> first | exact h.elim | exact fun hr => hr

/-- A fatal reply fails the call. -/
theorem propagates_stageClosed :
    StageClosed fun _ p => Prog.Propagates (σ := requests) Request.Fatal p where
  mild hp := (hp.mono fun _ => Request.Mild.not_fatal).propagates
  bind := Prog.Propagates.bind
  createVm input := by
    refine (Prog.propagates_await _ _).mpr fun r => ?_
    cases r with
    | ok _ => exact ⟨(Prog.propagates_pure ()).mpr trivial, fun ⟨e, he, _⟩ => by simp at he⟩
    | error e =>
      simp only [Prog.bind]
      split_ifs with htransient
      -- a transient error is taken for success, so it is not fatal
      · refine ⟨(Prog.propagates_pure ()).mpr trivial, ?_⟩
        rintro ⟨e', he', hhard⟩
        cases he'
        simp [htransient] at hhard
      · exact ⟨(Prog.propagates_throw e).mpr trivial, fun _ => ⟨e, rfl⟩⟩
  syncFiles spec row := by
    unfold RuntimeControl.syncFiles
    split_ifs
    · refine (Prog.propagates_await _ _).mpr fun r => ?_
      cases r with
      | ok _ => exact ⟨(Prog.propagates_pure ()).mpr trivial, fun ⟨e, he⟩ => by simp at he⟩
      | error e => exact ⟨(Prog.propagates_throw e).mpr trivial, fun _ => ⟨e, rfl⟩⟩
    · exact (Prog.propagates_pure ()).mpr trivial

/-! ## The two backend calls of provisioning

What a provisioning call asks of the VM backend itself. A property of requests holds of these two
stages as soon as it allows the one request each of them makes. -/

section Backend

variable {allowed : Request → Prop}

/-- Creating the VM is one request, and a transient error of it is passed over. -/
theorem createVm_uses (h : ∀ input, allowed (.createDetachedRuntime input))
    (input : CreateRuntimeInput) : (RuntimeControl.createVm input).Uses allowed := by
  refine Prog.Uses.bind (Prog.Uses.request (h input)) fun r => ?_
  cases r with
  | ok _ => exact (Prog.uses_pure ()).mpr trivial
  | error e =>
    dsimp only
    split_ifs
    · exact (Prog.uses_pure ()).mpr trivial
    · exact (Prog.uses_throw e).mpr trivial

/-- The files are written only if the spec has some. -/
theorem syncFiles_uses (h : ∀ name files, allowed (.writeFiles name files))
    (spec : RuntimeControl.RuntimeSpec)
    (row : RuntimeEntity) : (RuntimeControl.syncFiles spec row).Uses allowed := by
  unfold RuntimeControl.syncFiles
  split_ifs
  · exact Prog.Uses.bind (Prog.Uses.request (h _ _)) fun r => Prog.Uses.ofExcept r
  · exact (Prog.uses_pure ()).mpr trivial

end Backend

/-! ## SSH sessions

No call on a sandbox touches the map of SSH sessions: the one way in is `createSession`, and the
ways out are the revocation, the expiry and the pruning. -/

/-- The stages of a provisioning call keep away from the sessions, so the calls do. -/
theorem keepsSessions_stageClosed : StageClosed fun _ p => p.Uses Request.KeepsSessions where
  mild hp := hp.mono fun op h => by cases op <;> trivial
  bind := Prog.Uses.bind
  createVm input := createVm_uses (fun _ => trivial) input
  syncFiles spec row := syncFiles_uses (fun _ _ => trivial) spec row

/-! ## Signed tokens

Signed tokens are stored by `getSignedPreviewUrl` alone; the calls on sandboxes delete them at most.
-/

/-- Requests that store no signed token. -/
def Request.StoresNoToken : Request → Prop
  | .insertSignedToken _ => False
  | _ => True

/-- The stages of a provisioning call store no signed token, so the calls do not. -/
theorem storesNoToken_stageClosed : StageClosed fun _ p => p.Uses Request.StoresNoToken where
  mild hp := hp.mono fun op h => by cases op <;> trivial
  bind := Prog.Uses.bind
  createVm input := createVm_uses (fun _ => trivial) input
  syncFiles spec row := syncFiles_uses (fun _ _ => trivial) spec row

end Microsandbox
