import MicrosandboxCloud.Incarnations

/-!
# Microsandbox — a deleted sandbox stays deleted

Every call loads a row, waits for the VM backend and saves the row it has loaded. A save inserts the
row when it is no longer stored.

* **`DeleteRule`** — what `delete` asks for: one lookup, and the row it found deleted.
* **`LeavesDeleted`** — a step of the calls in flight stores no row that the delete has removed.
* **`deleted_stays_deleted`** — in runs of such steps, once the delete has returned, no row with the
  id of the runtime it looked up is stored.
-/

namespace Microsandbox

open Process Data Text RuntimeControl Registry

/-! ## What `delete` asks for

The requests of `delete` follow one rule, whatever it is answered: it looks a row up first and no
other later, and the row that it deletes is the one it has found. The rule is checked by recursion
on the program. -/

/-- `delete` looks a runtime up first, and deletes the row it found. -/
def DeleteRule (t : Transcript requests) : Request → Prop
  | .findRuntime _ => t = []
  | .deleteRuntime id => ∃ query row, ⟨.findRuntime query, some row⟩ ∈ t ∧ row.id = id
  | _ => True

/-- When `delete` returns, it has deleted the row it looked up. -/
def HasDeleted (t : Transcript requests) (x : Except ServiceError Unit) : Prop :=
  x = .ok () → ∃ query row, ⟨.findRuntime query, some row⟩ ∈ t ∧ ⟨.deleteRuntime row.id, ()⟩ ∈ t

/-- A call that has thrown need not have deleted anything. -/
theorem HasDeleted.error (t : Transcript requests) (e : ServiceError) :
    HasDeleted t (.error e) := by
  intro hx
  cases hx

section Follows

variable {α : Type} {may : Transcript requests → Request → Prop}
  {post : Transcript requests → Except ServiceError α → Prop} {t : Transcript requests}

/-- Setting the status keeps the id, and asks only for the time and a save. -/
theorem follows_setRuntimeStatus {row : RuntimeEntity} {status : RuntimeStatus} {reason : String}
    {k : RuntimeEntity → Async α} (hnow : ∀ t, may t .now)
    (hsave : ∀ t saved, may t (.saveRuntime saved))
    (hk : ∀ u row', row'.id = row.id → (k row').Follows may post (t ++ u))
    (herror : ∀ t e, post t (.error e)) :
    (setRuntimeStatus row status reason >>= k).Follows may post t := by
  -- whichever time was read, the save has the id of the row
  have hupdate : ∀ u saved, saved.id = row.id →
      (updateRuntime saved >>= k).Follows may post (t ++ u) := by
    intro u saved hid
    unfold updateRuntime
    rw [Prog.bind_assoc]
    refine Prog.Follows.request (hsave _ _) fun reply => ?_
    rw [Prog.bind_assoc]
    refine Prog.Follows.sync (fun _ _ => ?_) fun e _ => herror _ e
    rw [List.append_assoc]
    exact hk _ saved hid
  unfold setRuntimeStatus
  split_ifs
  · rw [Prog.bind_assoc]
    exact Prog.Follows.request (hnow t) fun now => hupdate _ _ rfl
  · rw [← List.append_nil t]
    exact hupdate [] _ rfl

end Follows

/-- The program of `delete` follows the rule and has deleted the row when it returns. -/
theorem delete_follows (cfg : AppConfig) (value : String) :
    ((ServiceCall.sandbox (.delete value)).prog cfg).Follows DeleteRule HasDeleted [] := by
  simp only [ServiceCall.prog, SandboxCall.prog, RuntimeControl.delete, Prog.bind_assoc]
  refine follows_requireRuntime (fun _ _ => rfl) (fun v row => ?_) HasDeleted.error
  refine follows_setRuntimeStatus (fun _ => trivial) (fun _ _ => trivial) (fun u row' hid => ?_)
    HasDeleted.error
  refine Prog.Follows.request trivial fun removed => ?_
  refine Prog.Follows.sync (fun _ _ => ?_) fun e _ => HasDeleted.error _ e
  refine Prog.Follows.request trivial fun _ => ?_
  simp only [Registry.deleteRuntime, Prog.bind_assoc]
  refine Prog.Follows.request ⟨.bySandboxIdOrName v, row, ?_, hid.symm⟩ fun _ => ?_
  · simp
  refine Prog.Follows.request trivial fun _ => Prog.Follows.request trivial fun _ => ?_
  refine Prog.Follows.pure fun _ => ⟨.bySandboxIdOrName v, row, ?_, ?_⟩
  · simp
  · rw [← hid]
    simp

/-- The rule of a call, where it deletes. -/
def ServiceCall.deleteRule : ServiceCall → Transcript requests → Request → Prop
  | .sandbox (.delete _) => DeleteRule
  | _ => fun _ _ => True

/-- What a call has done when it is over: only for `delete` there is something to say. -/
def ServiceCall.hasDeleted : ServiceCall → Transcript requests → Except ServiceError Unit → Prop
  | .sandbox (.delete _) => HasDeleted
  | _ => fun _ _ => True

/-- Other calls follow the rule since it says nothing of them. -/
theorem ServiceCall.follows_delete (cfg : AppConfig) (call : ServiceCall) :
    (call.prog cfg).Follows call.deleteRule call.hasDeleted [] := by
  cases call with
  | sandbox call =>
    cases call with
    | delete value => exact delete_follows cfg value
    | _ => exact Prog.Follows.trivial _
  | _ => exact Prog.Follows.trivial _

/-! ## Calls in flight with a delete

The invariant of the pool: once the deletion has deleted the row, no row with its id is stored. A
save is the only step that could break it, by a call that has loaded the row before and saves it
after. -/

section Deletion

variable {ι : Type} [DecidableEq ι] {calls : ι → ServiceCall} {d : ι} {tr : History ι}
  {s s' : World} {i : ι} {op : Request} {a : Answer} {r : op.Reply}

/-- Call `d` has deleted the row with this id. -/
def DeletedBy (tr : History ι) (d : ι) (id : RuntimeId) : Prop :=
  ⟨.deleteRuntime id, ()⟩ ∈ Pool.transcript backend d tr

/-- A save of a row that `d` has deleted does not take effect. -/
def LeavesDeleted (d : ι) (tr : History ι) (_ : ι) (ev : Event requests World Answer) : Prop :=
  ∀ saved, ev.op = .saveRuntime saved → DeletedBy tr d saved.id → ev.before.saveRuntime saved = none

/-- The rows that `d` has looked up have ids that were handed out, and are not stored once `d` has
deleted them. -/
def StaysDeleted (d : ι) (tr : History ι) (s : World) : Prop :=
  ∀ row, LookedUp tr d row → row.id < s.nextRuntimeId ∧
    (DeletedBy tr d row.id → ∀ q ∈ s.runtimes, q.id ≠ row.id)

/-- No step stores a row under an id that was handed out and deleted. -/
theorem not_stored_step {id : RuntimeId} (hact : act op a s = some (r, s'))
    (hid : id < s.nextRuntimeId) (hgone : ∀ q ∈ s.runtimes, q.id ≠ id)
    (hsave : ∀ saved, op = .saveRuntime saved → saved.id = id → s.saveRuntime saved = none) :
    ∀ q ∈ s'.runtimes, q.id ≠ id := by
  intro q hq hqid
  rcases mem_runtimes hact hq with hold | ⟨draft, rfl, rfl⟩ | rfl
  · exact hgone q hold hqid
  · -- an insert gives the next id
    exact absurd hqid (Nat.ne_of_gt hid)
  · simp only [act, hsave q rfl hqid, Option.some.injEq, Prod.mk.injEq] at hact
    rw [← hact.2] at hq
    exact hgone q hq hqid

/-- One case for the deletion itself, and one for every other step. -/
theorem StaysDeleted.step (h : StaysDeleted d tr s)
    (hruled : Prog.Ruled DeleteRule (Pool.transcript backend d tr))
    (hsafe : LeavesDeleted d tr i ⟨s, op, a⟩) (hact : act op a s = some (r, s'))
    (hmay : i = d → DeleteRule (Pool.transcript backend d tr) op) :
    StaysDeleted d (tr ++ [(i, ⟨s, op, a⟩)]) s' := by
  intro row hlooked
  have hnext := act_nextRuntimeId hact
  rcases hlooked.of_step hact with hold | ⟨rfl, hrow, rfl, query, rfl, -⟩
  · obtain ⟨hid, hgone⟩ := h row hold
    refine ⟨lt_of_lt_of_le hid hnext, fun hdeleted => ?_⟩
    rcases (Pool.mem_transcript_step hact).mp hdeleted with hbefore | ⟨rfl, hnow⟩
    · exact not_stored_step hact hid (hgone hbefore) fun saved hop hsaved =>
        hsafe saved hop (hsaved ▸ hbefore)
    · -- the row is deleted by this step
      cases hnow
      cases hact
      intro q hq
      simpa using (Table.mem_delete.mp hq).2
  · -- a row that has just been read: `d` has asked for nothing yet
    refine ⟨lt_of_lt_of_le (World.runtimes_lt _ row hrow) hnext, fun hdeleted => ?_⟩
    have hfirst : Pool.transcript backend i tr = [] := hmay rfl
    rcases (Pool.mem_transcript_step hact).mp hdeleted with hbefore | ⟨-, hnow⟩
    · rw [hfirst] at hbefore
      cases hbefore
    · cases hnow

/-- **A deleted sandbox stays deleted.** However the calls interleave, while no step stores a row
that the delete has removed, no row with the id of the runtime that the delete looked up is stored
once it has returned. -/
theorem deleted_stays_deleted (cfg : AppConfig) {value : String} {s₀ : World}
    {c : Pool requests ServiceError Unit World ι} (hcall : calls d = .sandbox (.delete value))
    (hrun : InFlight cfg calls (LeavesDeleted d) s₀ tr c) (hreturned : c.thread d = .pure ()) :
    (∃ row, LookedUp tr d row) ∧
      ∀ row, LookedUp tr d row → ∀ q ∈ c.state.runtimes, q.id ≠ row.id := by
  have hrule : (calls d).deleteRule = DeleteRule := by rw [hcall]; rfl
  -- the invariant needs the rule of the one delete; no other call has a rule of its own here
  obtain ⟨hinv, hruled, hfollows⟩ := Pool.Run.history_invariant (J := StaysDeleted d)
    (fun i => (calls i).follows_delete cfg)
    (fun row hlooked => by obtain ⟨query, hquery⟩ := hlooked; cases hquery)
    (fun tr s i op a r s' hJ hruled hsafe hact hmay => hJ.step (hrule ▸ hruled d) hsafe hact
      fun hid => by subst hid; rwa [hrule] at hmay) hrun
  have hpost : (calls d).hasDeleted = HasDeleted := by rw [hcall]; rfl
  have hdeleted : HasDeleted (Pool.transcript backend d tr) (.ok ()) := by
    rw [← hpost]
    exact (hfollows d).outcome (Prog.outcome_eq_ok.mpr hreturned)
  obtain ⟨query, row, hfound, hgone⟩ := hdeleted rfl
  refine ⟨⟨row, query, hfound⟩, fun row' hlooked => ?_⟩
  have hruled' : Prog.Ruled DeleteRule (Pool.transcript backend d tr) := hrule ▸ hruled d
  -- the delete looks up one row
  obtain rfl := hlooked.unique hruled' (fun t query hfirst => hfirst) ⟨query, hfound⟩
  exact (hinv row ⟨query, hfound⟩).2 hgone

end Deletion

/-! ## A sandbox that comes back

The run that breaks it: an `exec` has loaded the row, the sandbox is deleted, and the `exec` saves
its row with the time of the last activity. Since the row is no longer stored, the save inserts it.
-/

/-- A command in the sandbox `b` while `b` is deleted. -/
def execWhileDeleting : Bool → ServiceCall
  | true => .sandbox (.delete "b")
  | false => .exec "b" "ls" []

/-- Both calls have ended, the deletion without an exception. -/
def bothEnded (c : Pool requests ServiceError Unit World Bool) : Bool :=
  (c.thread false).outcome.isSome &&
    match c.thread true with
    | .pure _ => true
    | _ => false

theorem of_bothEnded {c : Pool requests ServiceError Unit World Bool} (h : bothEnded c = true) :
    c.Finished ∧ c.thread true = .pure () := by
  rw [bothEnded, Bool.and_eq_true] at h
  obtain ⟨hfalse, htrue⟩ := h
  split at htrue
  · rename_i hthread
    refine ⟨fun i => ?_, hthread⟩
    cases i with
    | false => exact Option.isSome_iff_ne_none.mp hfalse
    | true => simp [hthread, Prog.outcome]
  · cases htrue

/-- A step that is no save after a deletion. -/
def savesNoneDeleted (pre : History Bool) (_ : Bool) (ev : Event requests World Answer) : Bool :=
  match ev.op with
  | .saveRuntime _ => (Pool.transcript backend true pre).all fun
    | ⟨.deleteRuntime _, _⟩ => false
    | _ => true
  | _ => true

/-- A step that saves no deleted row is one that leaves the sandbox deleted. -/
theorem leavesDeleted_of_savesNoneDeleted (pre : History Bool) (i : Bool)
    (ev : Event requests World Answer) (h : savesNoneDeleted pre i ev = true) :
    LeavesDeleted true pre i ev := by
  intro saved hop hdeleted
  rw [savesNoneDeleted, hop] at h
  have hnone := List.all_eq_true.mp h _ hdeleted
  simp at hnone

/-- The command ends before the deletion starts. -/
theorem deleted_stays_deleted_after_exec :
    ∃ s tr c row, Reachable (smallConfig 31005) anyCall .empty s ∧
      InFlight (smallConfig 31005) execWhileDeleting (LeavesDeleted true) s tr c ∧ c.Finished ∧
      LookedUp tr true row ∧ ∀ q ∈ c.state.runtimes, q.id ≠ row.id := by
  let cfg : AppConfig := smallConfig 31005
  obtain ⟨s, hreach, hp⟩ := exists_reachable cfg .empty [(.create { name := some "b" }, [])]
    (fun s => (Pool.schedule backend (steps false 5 ++ steps true 7)
      (starting cfg execWhileDeleting s)).any fun q =>
        Pool.everyStep savesNoneDeleted [] q.1 && bothEnded q.2)
    (by decide +kernel)
  obtain ⟨tr, c, hrun, hended⟩ := Pool.exists_safe_run_of_schedule backend
    (starting cfg execWhileDeleting s) leavesDeleted_of_savesNoneDeleted
    (steps false 5 ++ steps true 7) (fun _ c => bothEnded c) hp
  obtain ⟨hfinished, hthread⟩ := of_bothEnded hended
  obtain ⟨⟨row, hlooked⟩, hgone⟩ := deleted_stays_deleted cfg
    (show execWhileDeleting true = .sandbox (.delete "b") from rfl) hrun hthread
  exact ⟨s, tr, c, row, hreach, hrun, hfinished, hlooked, hgone row hlooked⟩

/-- The command was running when the sandbox was deleted, and then notes its activity. -/
theorem exec_stores_deleted :
    ¬ ∀ (cfg : AppConfig) (volumes : Table VolumeEntity volumeKeys) (s : World)
      (calls : Bool → ServiceCall) (value : String) (tr : History Bool)
      (c : Pool requests ServiceError Unit World Bool), Reachable cfg anyCall volumes s →
      calls true = .sandbox (.delete value) → InFlight cfg calls anyStep s tr c → c.Finished →
      c.thread true = .pure () →
      ∀ row, LookedUp tr true row → ∀ q ∈ c.state.runtimes, q.id ≠ row.id := by
  intro hclaim
  let cfg : AppConfig := smallConfig 31005
  -- the command starts, the delete runs from its beginning to its end, and the command ends
  let order : List (Bool × Answer) := steps false 3 ++ steps true 7 ++ steps false 2
  obtain ⟨s, hreach, hp⟩ := exists_reachable cfg .empty [(.create { name := some "b" }, [])]
    (fun s => (Pool.schedule backend order (starting cfg execWhileDeleting s)).any fun q =>
      bothEnded q.2 && q.2.state.runtimes.rows.any fun row =>
        looksUp (Pool.transcript backend true q.1) row.id)
    (by decide +kernel)
  obtain ⟨tr, c, hrun, hq⟩ := Pool.exists_run_of_schedule order (fun tr c =>
    bothEnded c && c.state.runtimes.rows.any fun row =>
      looksUp (Pool.transcript backend true tr) row.id) hp
  rw [Bool.and_eq_true, List.any_eq_true] at hq
  obtain ⟨hended, q, hq, hlooks⟩ := hq
  obtain ⟨hfinished, hthread⟩ := of_bothEnded hended
  obtain ⟨row, hlooked, hid⟩ := lookedUp_of_looksUp hlooks
  exact hclaim cfg .empty s execWhileDeleting "b" tr c hreach rfl hrun hfinished hthread row hlooked
    q hq hid.symm

end Microsandbox
