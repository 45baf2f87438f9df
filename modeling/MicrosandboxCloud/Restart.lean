import MicrosandboxCloud.Committed
import MicrosandboxCloud.Endpoints
import MicrosandboxCloud.Launch

/-!
# Microsandbox — starting a runtime again

`createDetachedRuntime` launches from the spec of the request, `start` from the stored row.

* **`Executes`** — the one script that a backend call executes, as lines.
* **`SameVm`** — runs of calls that leave the VM of a sandbox alone: stops, starts, requests that
  find it as they ask, and whatever happens to other sandboxes.
* **`start_relaunches_iff`** — after any such run, `start` launches in the VM what the creation
  launched there, and SSH answers on a bound port, exactly when the runtime has nothing to do with
  SSH: `start` never launches `inject-sshd`.
-/

namespace Microsandbox

open Process Data Text RuntimeControl Registry

/-! ## The script of a launch

Both ways into a VM go through `launchManagedCommand`, which executes one script and repeats it when
the attempt fails. Everything else that they execute prepares the VM. -/

/-- The launch script that a request executes. -/
def LaunchRequest.script : LaunchRequest → Option String
  | .exec command args => launchScriptOf command args
  | _ => none

namespace MicrosandboxAdapter

/-- The lines of a script as one text. -/
def launchText (lines : List LaunchLine) : String :=
  "\n".intercalate (lines.map LaunchLine.text)

/-- The program executes no launch script but the text of the lines, and when it returns it has
executed that one. No lines are no script. -/
structure Executes (p : LaunchAsync Unit) (lines : List LaunchLine) : Prop where
  only : ∀ {s tr x s'}, Exec launchBackend p s tr x s' →
    ∀ ev ∈ tr, ∀ script, ev.op.script = some script → lines ≠ [] ∧ script = launchText lines
  returned : ∀ {s tr s'}, Exec launchBackend p s tr (.ok ()) s' → lines ≠ [] →
    ∃ ev ∈ tr, ev.op.script = some (launchText lines)

/-- The request executes no launch script but the text of the lines. -/
def RunsOnly (lines : List LaunchLine) (op : LaunchRequest) : Prop :=
  ∀ script, op.script = some script → lines ≠ [] ∧ script = launchText lines

section Executes

variable {lines : List LaunchLine}

/-- What prepares a VM executes no launch script. -/
theorem runsOnly_of_prepares {op : LaunchRequest} (h : op.Prepares) : RunsOnly lines op := by
  intro script hscript
  cases op with
  | exec command args =>
    have hnone : launchScriptOf command args = none := h
    rw [LaunchRequest.script, hnone] at hscript
    cases hscript
  | _ => cases hscript

/-- The launch executes its script, at each of its attempts. -/
theorem launchManagedCommand_runsOnly (command : Option (List String)) (workingDir : Option String)
    (ssh : Bool) : (launchManagedCommand command workingDir ssh).Uses
      (RunsOnly (executedLines command workingDir ssh)) := by
  unfold launchManagedCommand executedLines
  split_ifs with hnothing
  · exact (Prog.uses_pure ()).mpr trivial
  · refine execAttempts_uses ?_ (fun _ => runsOnly_of_prepares trivial) 3
    intro script hscript
    cases hscript
    exact ⟨by simp [launchLines], rfl⟩

/-- When the launch returns it has executed the script: the first attempt is made in any case. -/
theorem launchManagedCommand_returned {command : Option (List String)} {workingDir : Option String}
    {ssh : Bool} {s s' : LaunchWorld} {tr : List (Event launchRequests LaunchWorld LaunchAnswer)}
    (hexec : Exec launchBackend (launchManagedCommand command workingDir ssh) s tr (.ok ()) s')
    (hlines : executedLines command workingDir ssh ≠ []) :
    ∃ ev ∈ tr, ev.op.script = some (launchText (executedLines command workingDir ssh)) := by
  unfold launchManagedCommand at hexec
  unfold executedLines at hlines ⊢
  split_ifs at hexec hlines ⊢ with hnothing
  · exact absurd rfl hlines
  · cases hexec with
    | await hact hrest => exact ⟨_, List.mem_cons_self, rfl⟩

/-- From what the requests are, to what a run of them has executed. -/
theorem executes_of_uses {p : LaunchAsync Unit} (hp : p.Uses (RunsOnly lines))
    (hreturned : ∀ s tr s', Exec launchBackend p s tr (.ok ()) s' → lines ≠ [] →
      ∃ ev ∈ tr, ev.op.script = some (launchText lines)) : Executes p lines :=
  ⟨fun hexec ev hev script hscript => hexec.uses hp ev hev script hscript,
    fun hexec hlines => hreturned _ _ _ hexec hlines⟩

/-- A backend call sets the VM up, launches, detaches, and ends as the launch did. -/
theorem executes_of_launch {setUp launch tearDown : LaunchAsync Unit} {p : LaunchAsync Unit}
    (hp : p = setUp >>= fun _ => launch.attempt >>= fun launched =>
      tearDown >>= fun _ => Prog.ofExcept launched)
    (hsetUp : setUp.Uses LaunchRequest.Prepares) (hlaunch : launch.Uses (RunsOnly lines))
    (htearDown : tearDown.Uses LaunchRequest.Prepares)
    (hreturned : ∀ s tr s', Exec launchBackend launch s tr (.ok ()) s' → lines ≠ [] →
      ∃ ev ∈ tr, ev.op.script = some (launchText lines)) : Executes p lines := by
  subst hp
  have hprepares : ∀ op : LaunchRequest, op.Prepares → RunsOnly lines op := fun _ =>
    runsOnly_of_prepares
  refine executes_of_uses ?_ ?_
  · refine (hsetUp.mono hprepares).bind fun _ => hlaunch.attempt.bind fun launched => ?_
    exact (htearDown.mono hprepares).bind fun _ => Prog.Uses.ofExcept launched
  · intro s tr s' hexec hlines
    -- the run splits into setting up, launching and tearing down
    obtain ⟨_, s₁, tr₁, tr₂, rfl, -, hexec⟩ := hexec.of_bind_ok
    obtain ⟨launched, s₂, tr₃, tr₄, rfl, hattempt, hexec⟩ := hexec.of_bind_ok
    obtain ⟨_, s₃, tr₅, tr₆, rfl, -, hexec⟩ := hexec.of_bind_ok
    obtain ⟨hlaunched, -, -⟩ := hexec.of_ofExcept
    obtain ⟨y, hy, hrun⟩ := hattempt.of_attempt
    cases hy
    subst hlaunched
    obtain ⟨ev, hev, hscript⟩ := hreturned _ _ _ hrun hlines
    exact ⟨ev, by simp [hev], hscript⟩

/-- `start` executes the script of its command and directory, never with SSH. -/
theorem start_executes (name : String) (command : Option (List String))
    (workingDir : Option String) :
    Executes (start name command workingDir) (executedLines command workingDir false) := by
  have hdetach : (awaitLaunch .detach >>= fun r => Prog.ofExcept r : LaunchAsync Unit).Uses
      LaunchRequest.Prepares := prepares_request trivial fun r => Prog.Uses.ofExcept r
  have hsetUp : (awaitLaunch (.getSandbox name) >>= fun found => Prog.ofExcept found >>= fun _ =>
      awaitLaunch (.startDetached name) >>= fun r => Prog.ofExcept r : LaunchAsync Unit).Uses
      LaunchRequest.Prepares := by
    refine prepares_request trivial fun found => (Prog.Uses.ofExcept found).bind fun _ => ?_
    exact prepares_request trivial fun r => Prog.Uses.ofExcept r
  refine executes_of_launch ?_ hsetUp (launchManagedCommand_runsOnly command workingDir false)
    hdetach fun _ _ _ hexec hlines => launchManagedCommand_returned hexec hlines
  simp only [start, Prog.bind_assoc]

/-- The launch in a new VM prepares SSH, and executes the script. -/
theorem launchInNewVm_runsOnly (input : CreateRuntimeInput) : (launchInNewVm input).Uses
    (RunsOnly (executedLines input.command input.workingDir input.ssh)) := by
  have hinject : (injectSshBinary.catchError fun _ => Prog.pure ()).Uses
      (RunsOnly (executedLines input.command input.workingDir input.ssh)) :=
    (injectSshBinary_prepares.catchError fun _ => prepares_pure ()).mono
      fun _ => runsOnly_of_prepares
  unfold launchInNewVm
  split_ifs
  · exact hinject.bind fun _ => launchManagedCommand_runsOnly _ _ _
  · exact launchManagedCommand_runsOnly _ _ _

/-- The same for a new VM, in which the SSH files were put first. -/
theorem launchInNewVm_returned {input : CreateRuntimeInput} {s s' : LaunchWorld}
    {tr : List (Event launchRequests LaunchWorld LaunchAnswer)}
    (hexec : Exec launchBackend (launchInNewVm input) s tr (.ok ()) s')
    (hlines : executedLines input.command input.workingDir input.ssh ≠ []) :
    ∃ ev ∈ tr, ev.op.script =
      some (launchText (executedLines input.command input.workingDir input.ssh)) := by
  unfold launchInNewVm at hexec
  split_ifs at hexec
  · obtain ⟨_, s₁, tr₁, tr₂, rfl, -, hlaunch⟩ := hexec.of_bind_ok
    obtain ⟨ev, hev, hscript⟩ := launchManagedCommand_returned hlaunch hlines
    exact ⟨ev, List.mem_append_right _ hev, hscript⟩
  · exact launchManagedCommand_returned hexec hlines

/-- `createDetachedRuntime` executes the script of its input. -/
theorem createDetachedRuntime_executes (input : CreateRuntimeInput) :
    Executes (createDetachedRuntime input)
      (executedLines input.command input.workingDir input.ssh) := by
  have hcreate : (awaitLaunch (.createSandbox input) >>= fun r => Prog.ofExcept r :
      LaunchAsync Unit).Uses LaunchRequest.Prepares :=
    prepares_request trivial fun r => Prog.Uses.ofExcept r
  have hdetach : (awaitLaunch .detach >>= fun _ => Prog.pure () : LaunchAsync Unit).Uses
      LaunchRequest.Prepares := prepares_request trivial fun _ => prepares_pure ()
  refine executes_of_launch ?_ hcreate (launchInNewVm_runsOnly input) hdetach
    fun _ _ _ hexec hlines => launchInNewVm_returned hexec hlines
  simp only [createDetachedRuntime, Prog.bind_assoc, Prog.pure_bind]

end Executes

end MicrosandboxAdapter

/-! ## Between the creation and the start

Other calls may run in between. As long as none of them makes a new VM for the sandbox or has a
reason to, the row goes on saying of the VM what was saved when it was made. -/

/-- The call does not provision the sandbox, or finds it as it asks for it and creates no VM. -/
def LeavesVm (cfg : AppConfig) (sandboxId : String) (c : SandboxCall) (s : World)
    (tr : List (Event requests World Answer)) : Prop :=
  ∀ input, c.request s (drawnText tr) = some input → input.sandboxId = sandboxId →
    createsVm tr = false ∧ input.forceRecreate ≠ some true ∧
    (∃ row ∈ s.runtimes, row.sandboxId = sandboxId) ∧
    ∀ name spec row, Planned cfg s input name spec → row ∈ s.runtimes →
      row.sandboxId = sandboxId → requiresRecreate row spec name = false

/-- `s'` is reached from `s` by calls that leave the VM of the sandbox alone: it is stopped and
started any number of times, asked for as it is, or deleted. -/
def SameVm (cfg : AppConfig) (sandboxId : String) (s s' : World) : Prop :=
  Runs backend (SandboxCall.prog cfg) (fun c s tr _ => LeavesVm cfg sandboxId c s tr)
    (fun _ _ _ _ g => g) s () s' ()

/-- The row of the sandbox, if there is one, says of its VM what `saved` does. -/
def SaysStill (saved : RuntimeEntity) (s : World) : Prop :=
  ∀ r ∈ s.runtimes, r.sandboxId = saved.sandboxId →
    r.columns = saved.columns ∧ r.sandboxName = saved.sandboxName

section Between

variable {cfg : AppConfig} {s s' : World} {saved : RuntimeEntity}

/-- Provisioning writes rows of its own sandbox alone. -/
theorem RuntimeControl.ProvisionOutcome.mem_other {safe : Event requests World Answer → Prop}
    {input : ProvisionInput} {x : Except ServiceError RuntimeSummary}
    (h : ProvisionOutcome cfg safe input s x s') {r : RuntimeEntity} (hr : r ∈ s'.runtimes)
    (hother : r.sandboxId ≠ input.sandboxId) : r ∈ s.runtimes := by
  -- a save of a row of the sandbox adds no row of another
  have hsave : ∀ {s₁ s₂ : World} {row : RuntimeEntity}, s₁.saveRuntime row = some s₂ →
      row.sandboxId = input.sandboxId → r ∈ s₂.runtimes → r ∈ s₁.runtimes := by
    intro s₁ s₂ row hsave hid hmem
    rcases (World.mem_saveRuntime hsave).mp hmem with rfl | ⟨hold, -⟩
    · exact absurd hid hother
    · exact hold
  cases h with
  | refused hwhy => exact hr
  | existing hplan hrow hid hforce hkeep hlive hsaved => exact hsave hsaved hid hr
  | rolledBack hplan hnew hfew hleases hruntimes hvms => rwa [hruntimes] at hr
  | @launched name spec row s₁ s' x hplan hstart houtcome =>
    have hrow := hstart.row_mem
    -- first back to where the launch started, then to where the call did
    have hr₁ : r ∈ s₁.runtimes := by
      cases houtcome with
      | outOfPorts hfew hleases hruntimes hvms => rwa [hruntimes] at hr
      | createFailed hports hfailure hhard hsafe =>
        rwa [(createVm_tables _ _ _).1, hports.leased.runtimes] at hr
      | provisioned hports hsafe hprimary hsaved =>
        have hr₂ := hsave hsaved hrow.2.1 hr
        rwa [World.setVm, hports.leased.runtimes] at hr₂
    cases hstart with
    | unhealthy hrow hid hkeep => exact hr₁
    | replaced hrow hid hreplace hsaved => exact hsave hsaved hid hr₁
    | new hnew hvm hinsert hsafe henough hleased =>
      rw [hleased.runtimes] at hr₁
      rcases (World.mem_insertRuntime hinsert).mp hr₁ with hold | rfl
      · exact hold
      · exact absurd rfl hother

/-- Where no VM is created for it and nothing is to be recreated, a row says what it said. -/
theorem RuntimeControl.ProvisionOutcome.kept {tr : List (Event requests World Answer)}
    {input : ProvisionInput} {x : Except ServiceError RuntimeSummary}
    (h : ProvisionOutcome cfg (· ∈ tr) input s x s') (hnone : createsVm tr = false)
    (hforce : input.forceRecreate ≠ some true)
    (hstored : ∃ row ∈ s.runtimes, row.sandboxId = input.sandboxId)
    (hkeep : ∀ name spec row, Planned cfg s input name spec → row ∈ s.runtimes →
      row.sandboxId = input.sandboxId → requiresRecreate row spec name = false)
    {r : RuntimeEntity} (hr : r ∈ s'.runtimes) : ∃ r₀ ∈ s.runtimes,
      r₀.sandboxId = r.sandboxId ∧ r.columns = r₀.columns ∧ r.sandboxName = r₀.sandboxName := by
  have hcreated : ∀ {s₁ : World} {vm : CreateRuntimeInput} {a : Answer},
      (⟨s₁, Request.createDetachedRuntime vm, a⟩ : Event requests World Answer) ∉ tr := by
    intro s₁ vm a hev
    have hcreates := List.any_eq_false.mp hnone _ hev
    exact hcreates rfl
  cases h with
  | refused hwhy => exact ⟨r, hr, rfl, rfl, rfl⟩
  | @existing name spec row lastActiveAt s' hplan hrow hid hforce' hkeep' hlive hsave =>
    rcases (World.mem_saveRuntime hsave).mp hr with rfl | ⟨hold, -⟩
    · exact ⟨row, hrow, rfl, rfl, rfl⟩
    · exact ⟨r, hold, rfl, rfl, rfl⟩
  | rolledBack hplan hnew hfew hleases hruntimes hvms =>
    rw [hruntimes] at hr
    exact ⟨r, hr, rfl, rfl, rfl⟩
  | launched hplan hstart houtcome =>
    cases hstart with
    | unhealthy hrow hid hkeep' =>
      cases houtcome with
      | outOfPorts hfew hleases hruntimes hvms =>
        rw [hruntimes] at hr
        exact ⟨r, hr, rfl, rfl, rfl⟩
      | createFailed hports hfailure hhard hsafe => exact absurd hsafe hcreated
      | provisioned hports hsafe hprimary hsave => exact absurd hsafe hcreated
    | replaced hrow hid hreplace hsave =>
      -- only this saves other columns before a VM is created
      rcases hreplace with hforced | hrecreate
      · exact absurd hforced hforce
      · rw [hkeep _ _ _ hplan hrow hid] at hrecreate
        cases hrecreate
    | new hnew hvm hinsert hsafe henough hleased =>
      obtain ⟨row, hrow, hid⟩ := hstored
      exact absurd hid (hnew row hrow)

/-- By cases on the outcome of the call: it concerns another sandbox, or it saves what the row says
already, or it takes the row away. -/
theorem SaysStill.step (h : SaysStill saved s) {c : SandboxCall}
    {tr : List (Event requests World Answer)} {x : Except ServiceError Reply}
    (hleaves : LeavesVm cfg saved.sandboxId c s tr)
    (hexec : Exec backend (c.prog cfg) s tr x s') : SaysStill saved s' := by
  intro r hr hid
  cases call_outcome hexec with
  | refused hrequest => exact h r hr hid
  | @provisioned input x s' hrequest hnormal houtcome =>
    -- a call that leaves the VM saves the columns that the row has
    by_cases hsame : input.sandboxId = saved.sandboxId
    · obtain ⟨hnone, hforce, hstored, hkeep⟩ := hleaves input hrequest hsame
      rw [← hsame] at hstored hkeep
      obtain ⟨r₀, hr₀, hid₀, hcolumns, hname⟩ := houtcome.kept hnone hforce hstored hkeep hr
      obtain ⟨hcolumns₀, hname₀⟩ := h r₀ hr₀ (hid₀.trans hid)
      exact ⟨hcolumns.trans hcolumns₀, hname.trans hname₀⟩
    · refine h r (houtcome.mem_other hr fun heq => ?_) hid
      exact hsame (heq.symm.trans hid)
  | @touched row status reason lastActiveAt s₁ s' x hrow hsave hruntimes hleases hvms hcall =>
    rw [hruntimes] at hr
    rcases (World.mem_saveRuntime hsave).mp hr with rfl | ⟨hold, -⟩
    · exact h row hrow hid
    · exact h r hold hid
  | deleted hrow hcall hruntimes hleases hvms hremoved =>
    rw [hruntimes] at hr
    exact h r (Table.mem_delete.mp hr).1 hid

theorem SameVm.saysStill (hrun : SameVm cfg saved.sandboxId s s')
    (h : SaysStill saved s) : SaysStill saved s' := by
  refine Runs.invariant (I := fun s _ => SaysStill saved s) h ?_ hrun
  intro c s g tr x s' hinv hleaves hexec
  exact hinv.step hleaves hexec

end Between

/-- What `start` does when it returns. -/
theorem start_outcome {cfg : AppConfig} {value : String} {s s' : World}
    {tr : List (Event requests World Answer)} {reply : Reply}
    (hexec : Exec backend ((SandboxCall.start value).prog cfg) s tr (.ok reply) s') :
    ∃ row ∈ s.runtimes, ∃ a lastActiveAt,
      (⟨s, Request.start row.sandboxName row.command row.workingDir, a⟩ :
        Event requests World Answer) ∈ tr ∧
      s.saveRuntime (row.withStatus .running (some "manual:start") lastActiveAt) = some s' ∧
      reply = .summary (runtimeStatusSummary
        (row.withStatus .running (some "manual:start") lastActiveAt)) := by
  have hens : Ensures backend (· ∈ tr) ((SandboxCall.start value).prog cfg) s fun x s' =>
      ∀ reply, x = .ok reply → ∃ row ∈ s.runtimes, ∃ a lastActiveAt,
        (⟨s, Request.start row.sandboxName row.command row.workingDir, a⟩ :
          Event requests World Answer) ∈ tr ∧
        s.saveRuntime (row.withStatus .running (some "manual:start") lastActiveAt) = some s' ∧
        reply = .summary (runtimeStatusSummary
          (row.withStatus .running (some "manual:start") lastActiveAt)) := by
    simp only [SandboxCall.prog, RuntimeControl.start, Prog.bind_assoc]
    refine ensures_requireRuntime (fun v _ row hrow _ => ?_) fun e reply hx => by cases hx
    -- starting the VM changes no row
    refine Ensures.request_bind fun a r s₁ hact hev => ?_
    obtain rfl : s₁ = s := act_of_reads
      (show Request.Reads (.start row.sandboxName row.command row.workingDir) from trivial) hact
    refine ensures_sync (fun _ _ => ?_) fun e _ reply hx => by cases hx
    refine ensures_setRuntimeStatus (fun lastActiveAt s₂ hsave => ?_) fun e reply hx => by cases hx
    refine Ensures.pure fun reply hx => ?_
    cases hx
    exact ⟨row, hrow, a, lastActiveAt, hev, hsave, rfl⟩
  exact hens _ _ _ hexec (fun _ h => h) reply rfl

/-! ## The same processes

What a launch starts can be read off its lines: the command, the daemon for SSH, or nothing. `start`
passes no SSH to the launch, so the two launches differ exactly where the creation had it. -/

open MicrosandboxAdapter in
/-- Started with `command` in `workingDir`, a VM that was created from `vm` runs the processes that
its creation launched there; and where the row binds a port for SSH, the daemon runs. -/
structure RestartsAs (vm : CreateRuntimeInput) (row : RuntimeEntity)
    (command : Option (List String)) (workingDir : Option String) : Prop where
  created : Executes (createDetachedRuntime vm)
    (executedLines vm.command vm.workingDir vm.ssh)
  started : Executes (MicrosandboxAdapter.start vm.sandboxName command workingDir)
    (executedLines command workingDir false)
  same : launchedBy (executedLines command workingDir false) =
    launchedBy (executedLines vm.command vm.workingDir vm.ssh)
  reachable : findSshBinding row.portBindings ≠ none →
    .injectSshd sshdPort ∈ launchedBy (executedLines command workingDir false)

/-- In the state `s'` that a start of the runtime leaves, with the requests `tr`, the runtime is
running and its VM is as it was created. -/
def RestartedAs (vm : CreateRuntimeInput) (runtimeId : RuntimeId)
    (tr : List (Event requests World Answer)) (s' : World) : Prop :=
  ∃ row ∈ s'.runtimes, row.id = runtimeId ∧ row.status = .running ∧
    ∃ command workingDir, .start vm.sandboxName command workingDir ∈ tr.map Event.op ∧
      RestartsAs vm row command workingDir

/-- The request neither enables SSH nor names a port that passes for it. -/
def NoSsh (cfg : AppConfig) (input : SandboxSpecDto) : Prop :=
  sshEnabled input = false ∧ ∀ entry ∈ portEntries cfg input, passesForSsh entry = false

section Same

variable {cfg : AppConfig} {input : ProvisionInput}

/-- The input of a call enables SSH exactly when the call does. -/
theorem SandboxCall.sshEnabled_request {c : SandboxCall} {s : World} {drawn : String}
    (h : c.request s drawn = some input) :
    sshEnabled input.toSandboxSpecDto = c.enablesSsh := by
  cases c with
  | create dto =>
    simp only [SandboxCall.request] at h
    split at h
    · cases h
    split_ifs at h
    split at h <;> cases h
    rfl
  | ensure dto =>
    simp only [SandboxCall.request] at h
    split at h <;> cases h
    rfl
  | update sandboxId dto =>
    simp only [SandboxCall.request] at h
    split at h
    · cases h
    obtain ⟨row, -, rfl⟩ := Option.map_eq_some_iff.mp h
    rfl
  | start | stop | delete => cases h

/-- A launch without SSH is that of one with SSH exactly when that is none. -/
theorem launchedBy_without_ssh (command : Option (List String)) (workingDir : Option String)
    (ssh : Bool) :
    MicrosandboxAdapter.launchedBy (MicrosandboxAdapter.executedLines command workingDir false) =
      MicrosandboxAdapter.launchedBy (MicrosandboxAdapter.executedLines command workingDir ssh) ↔
      ssh = false := by
  rw [MicrosandboxAdapter.launchedBy_executedLines, MicrosandboxAdapter.launchedBy_executedLines]
  cases ssh with
  | false => simp
  | true => by_cases hempty : (command.getD []).isEmpty = true <;> simp [hempty]

/-- The daemon is not among what a launch without SSH starts. -/
theorem sshd_not_launched (command : Option (List String)) (workingDir : Option String) :
    MicrosandboxAdapter.VmProcess.injectSshd MicrosandboxAdapter.sshdPort ∉
      MicrosandboxAdapter.launchedBy
        (MicrosandboxAdapter.executedLines command workingDir false) := by
  rw [MicrosandboxAdapter.launchedBy_executedLines]
  by_cases hempty : (command.getD []).isEmpty = true <;> simp [hempty]

/-- Wherever the ports are bound, SSH is among the bindings when it is among the ports. -/
theorem findSshBinding_none_iff {ports bindings : List RuntimePortBindingRecord}
    (h : List.Forall₂ BindsPort ports bindings) :
    findSshBinding bindings = none ↔ findSshBinding ports = none := by
  rw [findSshBinding_eq, findSshBinding_eq]
  induction h with
  | nil => simp
  | cons hport hrest ih =>
    rw [List.find?_cons, List.find?_cons, hport.isSsh_eq]
    split <;> simp_all

/-- Without SSH, a binding for it comes from the ports of the request alone. -/
theorem findSshBinding_specPorts_none (hssh : sshEnabled input.toSandboxSpecDto = false) :
    findSshBinding (specPorts cfg input.toSandboxSpecDto) = none ↔
      ∀ entry ∈ portEntries cfg input.toSandboxSpecDto, passesForSsh entry = false := by
  rw [findSshBinding_eq, specPorts, resolvePorts_eq, hssh]
  simp only [Bool.false_and, Bool.false_eq_true, if_false, List.find?_eq_none, List.mem_map]
  constructor
  · intro h entry hentry
    exact Bool.eq_false_iff.mpr (h _ ⟨_, ⟨entry, hentry, rfl⟩, rfl⟩)
  · rintro h _ ⟨_, ⟨entry, hentry, rfl⟩, rfl⟩
    exact Bool.eq_false_iff.mp (h entry hentry)

/-- What a provisioning call has saved binds the ports of its request. -/
theorem saved_bindsPorts {c : SandboxCall} {s s' : World} {saved : RuntimeEntity}
    {tr : List (Event requests World Answer)}
    (hexec : Exec backend (c.prog cfg) s tr (.ok (.summary (runtimeStatusSummary saved))) s')
    (hrequest : c.request s (drawnText tr) = some input) (hsaved : saved ∈ s'.runtimes) :
    List.Forall₂ BindsPort (specPorts cfg input.toSandboxSpecDto) saved.portBindings := by
  generalize hx : (Except.ok (Reply.summary (runtimeStatusSummary saved)) :
    Except ServiceError Reply) = x at hexec
  cases call_outcome hexec with
  | refused hnone => cases hx
  | touched hrow hsave hruntimes hleases hvms hcall =>
    rw [SandboxCall.request_eq_none hcall] at hrequest
    cases hrequest
  | deleted hrow hcall hruntimes hleases hvms hremoved =>
    obtain ⟨value, v, rfl, -⟩ := hcall
    cases hrequest
  | @provisioned input' x s' hrequest' hnormal houtcome =>
    obtain rfl : input = input' := Option.some.inj (hrequest.symm.trans hrequest')
    cases x with
    | error e => cases hx
    | ok summary =>
      cases hx
      obtain ⟨row, hrow, hsummary, -, hports⟩ := houtcome.bindsPorts
      -- the summary names the sandbox, and one row has its id
      have hid : saved.sandboxId = row.sandboxId := congrArg RuntimeSummary.sandboxId hsummary
      rw [World.eq_of_sandboxId hsaved hrow hid]
      exact hports

/-- **Start relaunches.** A runtime is provisioned with a new VM, then stopped and started any
number of times, with calls in between that leave the VM alone. A start of it launches what the
creation launched, and SSH answers where the row binds a port for it, exactly when the request
neither enabled SSH nor named a port that passes for it. -/
theorem start_relaunches_iff (cfg : AppConfig) {c : SandboxCall} {vm : CreateRuntimeInput}
    {s₀ s₁ s₂ s₃ : World} {summary summary' : RuntimeSummary} {value : String}
    {tr tr' : List (Event requests World Answer)}
    (hprovision : Exec backend (c.prog cfg) s₀ tr (.ok (.summary summary)) s₁)
    (hrequest : c.request s₀ (drawnText tr) = some input)
    (hvm : .createDetachedRuntime vm ∈ tr.map Event.op)
    (hrun : SameVm cfg summary.sandboxId s₁ s₂)
    (hstart : Exec backend ((SandboxCall.start value).prog cfg) s₂ tr' (.ok (.summary summary')) s₃)
    (hsame : summary'.sandboxId = summary.sandboxId) :
    RestartedAs vm summary'.runtimeId tr' s₃ ↔ NoSsh cfg input.toSandboxSpecDto := by
  have hc : c.provisions = true := by
    by_contra hnot
    rw [SandboxCall.request_eq_none (by simpa using hnot)] at hrequest
    cases hrequest
  obtain ⟨sandboxId, handed, saved, hcommitted, hsummary, hsaved⟩ :=
    SandboxCall.committed hc hprovision
  cases hsummary
  obtain ⟨hname, hssh, hcolumns⟩ := hcommitted.created (fun ev hev => hprovision.served hev) hvm
  rw [← SandboxCall.sshEnabled_request hrequest] at hssh
  have hbinds := saved_bindsPorts hprovision hrequest hsaved
  -- the row that is started still says what was saved
  obtain ⟨row, hrow, a, lastActiveAt, hev, hsave, hreply⟩ := start_outcome hstart
  cases hreply
  have hstill : SaysStill saved s₂ := hrun.saysStill fun r hr hid => by
    rw [World.eq_of_sandboxId hr hsaved hid]
    exact ⟨rfl, rfl⟩
  obtain ⟨hsaid, hvmName⟩ := hstill row hrow hsame
  have hports : row.portBindings = saved.portBindings := congrArg VmColumns.ports hsaid
  have hcommand : row.command = vm.command :=
    (congrArg VmColumns.command hsaid).trans (congrArg VmColumns.command hcolumns).symm
  have hdir : row.workingDir = vm.workingDir :=
    (congrArg VmColumns.workingDir hsaid).trans (congrArg VmColumns.workingDir hcolumns).symm
  have hvmName' : row.sandboxName = vm.sandboxName := by
    rw [hvmName, hcommitted.sandboxName, hname]
  have hbound : findSshBinding row.portBindings = none ↔
      findSshBinding (specPorts cfg input.toSandboxSpecDto) = none := by
    rw [hports]
    exact findSshBinding_none_iff hbinds
  have hstored := (World.mem_saveRuntime hsave).mpr (Or.inl rfl)
  constructor
  -- a restart that is as the creation was launches no daemon, so neither did the creation
  · rintro ⟨row', hrow', hid, -, command, workingDir, -, hrestarts⟩
    have hdisabled : sshEnabled input.toSandboxSpecDto = false := by
      rw [← hssh, Bool.eq_false_iff]
      intro henabled
      have hnot := sshd_not_launched command workingDir
      rw [hrestarts.same, MicrosandboxAdapter.launchedBy_executedLines, henabled] at hnot
      simp at hnot
    refine ⟨hdisabled, (findSshBinding_specPorts_none hdisabled).mp (hbound.mp ?_)⟩
    by_contra hsome
    rw [World.eq_of_id hrow' hstored hid] at hrestarts
    exact sshd_not_launched command workingDir (hrestarts.reachable hsome)
  -- without SSH the two scripts are the same
  · rintro ⟨hdisabled, hentries⟩
    refine ⟨_, hstored, rfl, rfl, row.command, row.workingDir, ?_, ?_⟩
    · rw [← hvmName']
      exact List.mem_map_of_mem hev
    · refine ⟨MicrosandboxAdapter.createDetachedRuntime_executes vm,
        MicrosandboxAdapter.start_executes _ _ _, ?_, fun hsome => absurd ?_ hsome⟩
      · rw [hcommand, hdir]
        exact (launchedBy_without_ssh _ _ _).mpr (hssh.trans hdisabled)
      · exact hbound.mpr ((findSshBinding_specPorts_none hdisabled).mpr hentries)

end Same

/-- The creation of the sandbox `web` from an empty store, a stop and a start of it, with what each
of them did and `q` of the request. -/
structure Restart (cfg : AppConfig) (dto : SandboxSpecDto) (q : ProvisionInput → Bool)
    (input : ProvisionInput) (vm : CreateRuntimeInput) (s₁ s₂ s₃ : World)
    (summary summary' : RuntimeSummary) (tr tr' : List (Event requests World Answer)) : Prop where
  provision : Exec backend ((SandboxCall.create dto).prog cfg) (World.fresh .empty) tr
    (.ok (.summary summary)) s₁
  request : (SandboxCall.create dto).request (World.fresh .empty) (drawnText tr) = some input
  created : .createDetachedRuntime vm ∈ tr.map Event.op
  stopped : SameVm cfg summary.sandboxId s₁ s₂
  started : Exec backend ((SandboxCall.start "web").prog cfg) s₂ tr' (.ok (.summary summary')) s₃
  same : summary'.sandboxId = summary.sandboxId
  input : q input = true

/-- What a trace creates first. -/
def firstCreated (tr : List (Event requests World Answer)) : Option CreateRuntimeInput :=
  tr.findSome? fun ev =>
    match ev.op with
    | .createDetachedRuntime vm => some vm
    | _ => none

/-- The three calls on their own, with a check of the request. -/
def restarts (cfg : AppConfig) (dto : SandboxSpecDto) (q : ProvisionInput → Bool) : Bool :=
  (run backend ((SandboxCall.create dto).prog cfg) [] (World.fresh .empty)).any fun r₁ =>
    (run backend ((SandboxCall.stop "web").prog cfg) [] r₁.2.2).any fun r₂ =>
      (run backend ((SandboxCall.start "web").prog cfg) [] r₂.2.2).any fun r₃ =>
        match r₁.2.1, r₃.2.1,
          (SandboxCall.create dto).request (World.fresh .empty) (drawnText r₁.1) with
        | .ok (.summary summary), .ok (.summary summary'), some input =>
          (firstCreated r₁.1).isSome && summary'.sandboxId == summary.sandboxId && q input
        | _, _, _ => false

theorem mem_of_firstCreated {tr : List (Event requests World Answer)} {vm : CreateRuntimeInput}
    (h : firstCreated tr = some vm) : .createDetachedRuntime vm ∈ tr.map Event.op := by
  obtain ⟨ev, hev, hvm⟩ := List.exists_of_findSome?_eq_some h
  refine List.mem_map.mpr ⟨ev, hev, ?_⟩
  split at hvm
  · rename_i vm' hop
    cases hvm
    exact hop
  · cases hvm

/-- What the check has run is such a restart. -/
theorem exists_of_restarts (cfg : AppConfig) (dto : SandboxSpecDto) {q : ProvisionInput → Bool}
    (h : restarts cfg dto q = true) : ∃ input vm s₁ s₂ s₃ summary summary' tr tr',
      Restart cfg dto q input vm s₁ s₂ s₃ summary summary' tr tr' := by
  obtain ⟨⟨tr, x, s₁⟩, hfirst, hstopped⟩ := (Option.any_eq_true _ _).mp h
  obtain ⟨⟨tr₂, x₂, s₂⟩, hstop, hstarted⟩ := (Option.any_eq_true _ _).mp hstopped
  obtain ⟨⟨tr', x', s₃⟩, hstart, hq⟩ := (Option.any_eq_true _ _).mp hstarted
  dsimp only at hq
  split at hq
  · rename_i summary summary' input hrequest
    rw [Bool.and_eq_true, Bool.and_eq_true, beq_iff_eq] at hq
    obtain ⟨vm, hvm⟩ := Option.isSome_iff_exists.mp hq.1.1
    refine ⟨input, vm, s₁, s₂, s₃, summary, summary', tr, tr', ?_, hrequest,
      mem_of_firstCreated hvm, ?_, ?_, hq.1.2, hq.2⟩
    · exact exec_of_run hfirst
    -- a stop provisions nothing, so it leaves the VM alone
    · exact .call (g := ()) .start (exec_of_run hstop) fun input hrequest => by cases hrequest
    · exact exec_of_run hstart
  · cases hq

/-- A sandbox that runs `node app.js` without SSH is as it was created. -/
theorem start_relaunches_node : ∃ vm id tr' s₃, RestartedAs vm id tr' s₃ := by
  let dto : SandboxSpecDto :=
    { name := some "web", command := some ["node", "app.js"],
      ssh := some { enabled := some false } }
  obtain ⟨input, vm, s₁, s₂, s₃, summary, summary', tr, tr', h⟩ :=
    exists_of_restarts (smallConfig 31005) dto
      (q := fun input => !sshEnabled input.toSandboxSpecDto &&
        (portEntries (smallConfig 31005) input.toSandboxSpecDto).all
          fun entry => !passesForSsh entry)
      (by decide +kernel)
  have hq := h.input
  rw [Bool.and_eq_true, Bool.not_eq_true', List.all_eq_true] at hq
  have hnoSsh : NoSsh (smallConfig 31005) input.toSandboxSpecDto :=
    ⟨hq.1, fun entry hentry => by simpa using hq.2 entry hentry⟩
  exact ⟨vm, summary'.runtimeId, tr', s₃, (start_relaunches_iff (smallConfig 31005) h.provision
    h.request h.created h.stopped h.started h.same).mpr hnoSsh⟩

/-- A sandbox with SSH is started without it. -/
theorem start_drops_ssh :
    ¬ ∀ (cfg : AppConfig) (volumes : Table VolumeEntity volumeKeys) (s₀ : World),
      Reachable cfg anyCall volumes s₀ → ∀ (c : SandboxCall) (input : ProvisionInput)
        (vm : CreateRuntimeInput) (s₁ s₂ s₃ : World) (summary summary' : RuntimeSummary)
        (value : String) (tr tr' : List (Event requests World Answer)),
        Exec backend (c.prog cfg) s₀ tr (.ok (.summary summary)) s₁ →
        c.request s₀ (drawnText tr) = some input →
        .createDetachedRuntime vm ∈ tr.map Event.op →
        SameVm cfg summary.sandboxId s₁ s₂ →
        Exec backend ((SandboxCall.start value).prog cfg) s₂ tr' (.ok (.summary summary')) s₃ →
        summary'.sandboxId = summary.sandboxId →
        RestartedAs vm summary'.runtimeId tr' s₃ := by
  intro hclaim
  obtain ⟨input, vm, s₁, s₂, s₃, summary, summary', tr, tr', h⟩ :=
    exists_of_restarts (smallConfig 31005) { name := some "web" }
      (q := fun input => sshEnabled input.toSandboxSpecDto) (by decide +kernel)
  obtain ⟨row, -, -, -, command, workingDir, -, hrestarts⟩ :=
    hclaim _ .empty _ .start _ _ _ _ _ _ _ _ _ _ _ h.provision h.request h.created h.stopped
      h.started h.same
  -- the VM was created with SSH
  have hssh : vm.ssh = true := by
    obtain ⟨_, _, _, hcommitted, -, -⟩ := SandboxCall.committed rfl h.provision
    obtain ⟨-, hssh, -⟩ := hcommitted.created (fun ev hev => h.provision.served hev) h.created
    rw [hssh, ← SandboxCall.sshEnabled_request h.request]
    exact h.input
  -- what `start` launches has no line for the SSH server
  have hnot := sshd_not_launched command workingDir
  rw [hrestarts.same, MicrosandboxAdapter.launchedBy_executedLines, hssh] at hnot
  simp at hnot

end Microsandbox
