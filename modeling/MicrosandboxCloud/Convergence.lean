import MicrosandboxCloud.Committed
import MicrosandboxCloud.Interleaving

/-!
# Microsandbox — concurrent provisioning

Nothing serialises the calls that provision one sandbox. The order in which they create its VM and
the order in which they save its row are independent.

* **`lastVm`** — the VM created last under a name. `vms_eq_lastVm`: it is the one that runs, while
  every creation takes effect.
* **`goesBy`** — what a call saves: the columns of the VM it created or, if it created none, those
  of the row it was handed.
* **`LastSaverPublishes`** — the call that saves last goes by the VM created last.
* **`provisioning_converges_iff`** — calls that have all returned leave the row that describes the
  running VM exactly when this was so.
-/

namespace Microsandbox

open Process Data RuntimeControl Registry

/-! ## The VM created last

Along a run in which only creations concern a VM name, the VM under it is the one of the last
creation that took effect. `lastVm` reads this off the history. -/

/-- The step creates a VM of this name, from this input. -/
def created (name : String) (ev : Event requests World Answer) : Option CreateRuntimeInput :=
  match ev.op with
  | .createDetachedRuntime vm => if vm.sandboxName = name then some vm else none
  | _ => none

/-- Every VM creation of the history took effect. -/
def Effective {ι : Type} (tr : History ι) : Prop :=
  ∀ x ∈ tr, ∀ vm, x.2.op = .createDetachedRuntime vm → TookEffect (x.2.answer.outcome ())

/-- A creation that took effect leaves its input under the name. -/
theorem createVm_of_tookEffect {a : Answer} {vm : CreateRuntimeInput} {s : World}
    (heffect : TookEffect (a.outcome ())) : (createVm a vm s).vms vm.sandboxName = some vm := by
  unfold createVm
  cases hfailure : a.failure with
  | none => exact Function.update_self _ _ _
  | some e =>
    have htransient : isTransientDetachedSetupError e = true :=
      heffect e (by simp [Fallible.outcome, hfailure])
    simp only [htransient, if_true]
    exact Function.update_self _ _ _

/-- What runs under a name after a step that removes nothing. -/
theorem vms_step {op : Request} {a : Answer} {s s' : World} {r : op.Reply} {name : String}
    (hact : act op a s = some (r, s')) (hkeeps : op.KeepsVm)
    (heffect : ∀ vm, op = .createDetachedRuntime vm → TookEffect (a.outcome ())) :
    s'.vms name = (created name ⟨s, op, a⟩).or (s.vms name) := by
  cases op with
  | createDetachedRuntime vm =>
    cases hact
    by_cases hname : vm.sandboxName = name
    · subst hname
      simp [created, createVm_of_tookEffect (heffect vm rfl)]
    · simp [created, hname, createVm_vms_of_ne (Ne.symm hname)]
  | remove other => exact hkeeps.elim
  | _ =>
    rw [act_vms (by trivial) hact]
    rfl

section LastVm

variable {ι : Type}

/-- The VM created last under a name, or the one that ran at the start. -/
def lastVm (name : String) (start : Option CreateRuntimeInput) (tr : History ι) :
    Option CreateRuntimeInput :=
  (tr.filterMap fun x => created name x.2).getLast?.or start

/-- One more event: a creation under the name that took effect is the last one now. -/
theorem lastVm_snoc (name : String) (start : Option CreateRuntimeInput) (tr : History ι) (i : ι)
    (ev : Event requests World Answer) :
    lastVm name start (tr ++ [(i, ev)]) = (created name ev).or (lastVm name start tr) := by
  unfold lastVm
  cases hcreated : created name ev with
  | none => simp [hcreated]
  | some vm => simp [hcreated]

end LastVm

/-! ## What a call goes by

A call that has returned has saved its row last, with the columns of the VM that it created. If it
created none, these are the columns of the row that it was handed. `goesBy` reads them off the
requests of the call. -/

/-- The columns of the VM that the call created or, if it created none, of the row handed to it. -/
def goesBy (t : Transcript requests) : Option VmColumns :=
  match creations t with
  | (vm, _) :: _ => some vm.columns
  | [] => (handedRow t).map RuntimeEntity.columns

/-- What a call goes by is what it has saved. -/
theorem Committed.goesBy {sandboxId : String} {ssh : Bool} {t : Transcript requests}
    {row saved : RuntimeEntity} (h : Committed sandboxId ssh t row saved) :
    goesBy t = some saved.columns := by
  unfold Microsandbox.goesBy
  rcases h.columns with ⟨vm, reply, hcreations, -, -, -, hcolumns⟩ | ⟨hcreations, hcolumns⟩
  · rw [hcreations, ← hcolumns]
  · rw [hcreations, h.handed, ← hcolumns]
    rfl

/-- The ports, the image, the command and the environment are the same. -/
structure VmColumns.SameLaunch (x y : VmColumns) : Prop where
  ports : x.ports = y.ports
  image : x.image = y.image
  command : x.command = y.command
  env : x.env = y.env

/-! ## Calls in flight

Any number of calls on one sandbox. What is left behind is the VM of the last creation and the row
of the last save, each of one call: they agree when the two are of one call, or happen to agree. -/

/-- What a provisioning call in flight has done when it returns. -/
def SandboxCall.Finishes (c : SandboxCall) (t : Transcript requests)
    (x : Except ServiceError Unit) : Prop :=
  x = .ok () → ∃ reply, c.Commits t (.ok reply)

/-- A call that provisions ends with its row saved, or throws. -/
theorem SandboxCall.finishes (cfg : AppConfig) {c : SandboxCall} (hc : c.provisions = true) :
    ((ServiceCall.sandbox c).prog cfg).Follows RemovesNone c.Finishes [] := by
  refine Prog.Follows.bind ((SandboxCall.commits cfg hc).mono fun t x hcommits => ?_)
  cases x with
  | ok reply => exact Prog.Follows.pure fun _ => ⟨reply, hcommits⟩
  | error e => exact nofun

/-- Calls with a target are those that provision. -/
theorem SandboxCall.provisions_of_target {c : SandboxCall} {sandboxId : String}
    (h : c.target = some sandboxId) : c.provisions = true := by
  cases c with
  | create | ensure | update => rfl
  | start | stop | delete => cases h

/-- What a call in flight has committed when it returns. -/
theorem SandboxCall.Finishes.committed {ι : Type} [DecidableEq ι] {c : SandboxCall} {tr : History ι}
    {i : ι} (h : c.Finishes (Pool.transcript backend i tr) (.ok ())) :
    ∃ sandboxId row saved,
      Committed sandboxId c.enablesSsh (Pool.transcript backend i tr) row saved ∧
      ∀ id, c.target = some id → sandboxId = id := by
  obtain ⟨reply, hcommits⟩ := h rfl
  have htrue : Truthful (Pool.transcript backend i tr) := by
    apply truthful_of_answered
    intro e he
    obtain ⟨ev, -, hev⟩ := Pool.mem_transcript.mp he
    exact ⟨ev, hev⟩
  obtain ⟨sandboxId, row, saved, hdone, -, hid⟩ := hcommits htrue reply rfl
  exact ⟨sandboxId, row, saved, hdone, hid⟩

section Convergence

variable {ι : Type} [DecidableEq ι] {cfg : AppConfig} {calls : ι → SandboxCall}
  {s₀ : World} {tr : History ι} {c : Pool requests ServiceError Unit World ι} {sandboxId : String}

/-- The call whose save ends the history goes by the VM that was created last under the name of
its runtime. -/
def LastSaverPublishes (s₀ : World) (tr : History ι) : Prop :=
  ∀ pre i ev row, tr = pre ++ [(i, ev)] → handedRow (Pool.transcript backend i tr) = some row →
    ∀ vm, lastVm row.sandboxName (s₀.vms row.sandboxName) tr = some vm →
      ∀ columns, goesBy (Pool.transcript backend i tr) = some columns →
        columns.SameLaunch vm.columns

/-- Calls that have all returned have each committed, and every VM creation took effect. -/
theorem committed_of_returned (htarget : ∀ i, (calls i).target = some sandboxId)
    (hrun : InFlight cfg (fun i => .sandbox (calls i)) anyStep s₀ tr c)
    (hreturned : ∀ i, c.thread i = .pure ()) :
    (∀ i, ∃ row saved, Committed sandboxId (calls i).enablesSsh (Pool.transcript backend i tr) row
      saved) ∧ Effective tr ∧
      ∀ name, c.state.vms name = lastVm name (s₀.vms name) tr := by
  have hinv := Pool.Run.history_invariant
    (J := fun tr s => Effective tr → ∀ name, s.vms name = lastVm name (s₀.vms name) tr)
    (fun i => (calls i).finishes cfg (SandboxCall.provisions_of_target (htarget i)))
    (fun _ name => rfl) ?_ hrun
  · obtain ⟨hvms, -, hfollows⟩ := hinv
    have hcommitted : ∀ i, ∃ row saved, Committed sandboxId (calls i).enablesSsh
        (Pool.transcript backend i tr) row saved := by
      intro i
      have hfinished := (hfollows i).outcome (Prog.outcome_eq_ok.mpr (hreturned i))
      obtain ⟨id, row, saved, hdone, hid⟩ := hfinished.committed
      obtain rfl := hid sandboxId (htarget i)
      exact ⟨row, saved, hdone⟩
    -- a creation belongs to a call that committed, and that call created nothing else
    have heffect : Effective tr := by
      rintro ⟨i, ⟨s, op, a⟩⟩ hx vm hop
      dsimp only at hop
      subst hop
      obtain ⟨row, saved, hdone⟩ := hcommitted i
      have hmem : (vm, a.outcome ()) ∈ creations (Pool.transcript backend i tr) := by
        refine List.mem_filterMap.mpr ⟨_, Pool.mem_transcript.mpr ⟨_, hx, rfl⟩, rfl⟩
      rcases hdone.columns with ⟨vm', reply, hcreations, htook, -⟩ | ⟨hcreations, -⟩
      · rw [hcreations] at hmem
        cases List.mem_singleton.mp hmem
        exact htook
      · rw [hcreations] at hmem
        cases hmem
    exact ⟨hcommitted, heffect, hvms heffect⟩
  · intro tr s i op a r s' hbefore _ _ hact hkeeps heffect name
    have hearlier : Effective tr := fun x hx => heffect x (List.mem_append_left _ hx)
    rw [lastVm_snoc, ← hbefore hearlier name]
    exact vms_step hact hkeeps fun vm hop =>
      heffect (i, ⟨s, op, a⟩) (List.mem_append_right _ List.mem_cons_self) vm hop

/-- **Concurrent provisioning of one sandbox.** However calls that provision it interleave, when
they have all returned its row is stored, and it has the ports, the image, the command and the
environment of the VM that runs under its name exactly when the call that saved last goes by the VM
that was created last. -/
theorem provisioning_converges_iff [Nonempty ι]
    (htarget : ∀ i, (calls i).target = some sandboxId)
    (hrun : InFlight cfg (fun i => .sandbox (calls i)) anyStep s₀ tr c)
    (hreturned : ∀ i, c.thread i = .pure ()) :
    (∃ row ∈ c.state.runtimes, row.sandboxId = sandboxId) ∧
      ((∀ row ∈ c.state.runtimes, row.sandboxId = sandboxId →
        ∀ vm, c.state.vms row.sandboxName = some vm → row.columns.SameLaunch vm.columns) ↔
      LastSaverPublishes s₀ tr) := by
  obtain ⟨hcommitted, -, hvms⟩ := committed_of_returned htarget hrun hreturned
  cases hrun with
  | start =>
    -- no call returns without a request
    obtain ⟨i⟩ := ‹Nonempty ι›
    obtain ⟨row, saved, hdone⟩ := hcommitted i
    cases hdone.last
  | @step tr c c' i ev _ hstep =>
    cases hstep with
    | @serve op k a r s' hthread hact =>
      obtain ⟨row, saved, hdone⟩ := hcommitted i
      -- the last step is the save of the call that makes it
      have hlast : (⟨op, r⟩ : Σ op : requests.Op, requests.Reply op) =
          ⟨.saveRuntime saved, .ok ()⟩ := by
        have hlast := hdone.last
        rw [Pool.transcript_self hact, List.getLast?_concat] at hlast
        exact Option.some.inj hlast
      cases hlast
      have hmem : saved ∈ s'.runtimes :=
        (World.mem_saveRuntime (saveRuntime_of_act (a := a) hact)).mpr (Or.inl rfl)
      have honly : ∀ other ∈ s'.runtimes, other.sandboxId = sandboxId → other = saved :=
        fun other hother hid => World.eq_of_sandboxId hother hmem (hid.trans hdone.savedId.symm)
      refine ⟨⟨saved, hmem, hdone.savedId⟩, ?_⟩
      constructor
      · intro hagrees pre j ev row' htr hhanded vm hvm columns hcolumns
        obtain ⟨-, hij⟩ := List.append_inj' htr rfl
        cases hij
        rw [hdone.handed] at hhanded
        obtain rfl := Option.some.inj hhanded
        rw [hdone.goesBy] at hcolumns
        obtain rfl := Option.some.inj hcolumns
        refine hagrees saved hmem hdone.savedId vm ?_
        rw [hdone.sandboxName]
        exact (hvms _).trans hvm
      · intro hlastSaver other hother hid vm hvm
        obtain rfl := honly other hother hid
        rw [hdone.sandboxName] at hvm
        exact hlastSaver tr i _ row rfl hdone.handed vm ((hvms _).symm.trans hvm) _ hdone.goesBy

end Convergence

/-! ## Two updates

Two updates of one sandbox, crossed so that each makes one of the two last steps. The row asks for
one image and the VM runs the other. -/

/-- The sandbox `b` is updated to two images at once. -/
def twoUpdates : Bool → SandboxCall
  | true => .update "b" { image := some "first:latest" }
  | false => .update "b" { image := some "second:latest" }

theorem twoUpdates_target (i : Bool) : (twoUpdates i).target = some "b" := by
  cases i <;> decide +kernel

/-- Both calls have returned. -/
def bothReturned (c : Pool requests ServiceError Unit World Bool) : Bool :=
  match c.thread false, c.thread true with
  | .pure _, .pure _ => true
  | _, _ => false

theorem of_bothReturned {c : Pool requests ServiceError Unit World Bool}
    (h : bothReturned c = true) : ∀ i, c.thread i = .pure () := by
  unfold bothReturned at h
  split at h
  · rename_i hfalse htrue
    intro i
    cases i with
    | false => exact hfalse
    | true => exact htrue
  · cases h

/-- Two updates in the given order, from the state in which `b` has been created. -/
theorem exists_twoUpdates (order : List (Bool × Answer))
    (p : Pool requests ServiceError Unit World Bool → Bool)
    (hrun : (runCalls backend (SandboxCall.prog (smallConfig 31005)) (fun _ _ _ _ g => g)
      [(.create { name := some "b" }, [])] (World.fresh .empty) ()).any (fun q =>
        (Pool.schedule backend order (starting (smallConfig 31005)
          (fun i => .sandbox (twoUpdates i)) q.1)).any fun q => bothReturned q.2 && p q.2) = true) :
    ∃ s tr c, Reachable (smallConfig 31005) anyCall .empty s ∧
      InFlight (smallConfig 31005) (fun i => .sandbox (twoUpdates i)) anyStep s tr c ∧
      (∀ i, c.thread i = .pure ()) ∧ p c = true := by
  obtain ⟨s, hreach, hp⟩ := exists_reachable (smallConfig 31005) .empty
    [(.create { name := some "b" }, [])]
    (fun s => (Pool.schedule backend order (starting (smallConfig 31005)
      (fun i => .sandbox (twoUpdates i)) s)).any fun q => bothReturned q.2 && p q.2) hrun
  obtain ⟨tr, c, hrun, hq⟩ := Pool.exists_run_of_schedule order
    (fun _ c => bothReturned c && p c) hp
  rw [Bool.and_eq_true] at hq
  exact ⟨s, tr, c, hreach, hrun, of_bothReturned hq.1, hq.2⟩

/-- One update after the other. -/
theorem provisioning_converges_in_turn :
    ∃ s tr c, Reachable (smallConfig 31005) anyCall .empty s ∧
      InFlight (smallConfig 31005) (fun i => .sandbox (twoUpdates i)) anyStep s tr c ∧
      (∃ row ∈ c.state.runtimes, row.sandboxId = "b") ∧
        ((∀ row ∈ c.state.runtimes, row.sandboxId = "b" → ∀ vm,
          c.state.vms row.sandboxName = some vm → row.columns.SameLaunch vm.columns) ↔
        LastSaverPublishes s tr) := by
  obtain ⟨s, tr, c, hreach, hrun, hreturned, -⟩ := exists_twoUpdates
    (steps false 9 ++ steps true 9) (fun _ => true) (by decide +kernel)
  exact ⟨s, tr, c, hreach, hrun, provisioning_converges_iff twoUpdates_target hrun hreturned⟩

/-- The second update creates its VM and saves its row between the creation and the final save of
the first. -/
theorem crossing_updates_diverge :
    ¬ ∀ (cfg : AppConfig) (volumes : Table VolumeEntity volumeKeys) (s : World)
      (calls : Bool → SandboxCall) (sandboxId : String) (tr : History Bool)
      (c : Pool requests ServiceError Unit World Bool), Reachable cfg anyCall volumes s →
      (∀ i, (calls i).target = some sandboxId) →
      InFlight cfg (fun i => .sandbox (calls i)) anyStep s tr c →
      (∀ i, c.thread i = .pure ()) →
      ∀ row ∈ c.state.runtimes, row.sandboxId = sandboxId → ∀ vm,
        c.state.vms row.sandboxName = some vm → row.columns.SameLaunch vm.columns := by
  intro hclaim
  -- five steps of the first, the whole second, the end of the first
  obtain ⟨s, tr, c, hreach, hrun, hreturned, hwrong⟩ := exists_twoUpdates
    (steps false 5 ++ steps true 9 ++ steps false 4)
    (fun c => c.state.runtimes.rows.any fun row => row.sandboxId == "b" &&
      (c.state.vms row.sandboxName).any fun vm => vm.image != row.image)
    (by decide +kernel)
  simp only [List.any_eq_true, Bool.and_eq_true, beq_iff_eq, Option.any_eq_true, bne_iff_ne]
    at hwrong
  obtain ⟨row, hrow, hid, vm, hvm, hne⟩ := hwrong
  have hsame := hclaim _ _ s twoUpdates "b" tr c hreach twoUpdates_target hrun hreturned row hrow
    hid vm hvm
  exact hne hsame.image.symm

end Microsandbox
