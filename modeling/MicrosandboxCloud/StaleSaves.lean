import Mathlib.Data.List.DropRight
import MicrosandboxCloud.Convergence
import MicrosandboxCloud.Previews

/-!
# Microsandbox — activity during an update

`exec`, `refreshActivity`, the file calls and `get` mean to change `lastActiveAt` or `status`. They
load the row, wait for the backend and save the whole row that they loaded.

* **`TouchRule`** — what they ask for: one lookup, and saves of what it found.
* **`keptRow`** — the row saved last, once a provisioning call has saved its own.
* **`update_kept_iff`** — a provisioning call that has returned finds its columns stored exactly
  when the call that saved last after it had loaded them.
-/

namespace Microsandbox

open Process Data Text RuntimeControl Registry

/-! ## What activity writes

These calls take time: a command runs, files are read. The row that they save at the end is the one
from the beginning, with another `lastActiveAt` or `status`, so it undoes what was saved in the
meantime. -/

/-- The columns that say what a sandbox is. -/
structure SpecColumns where
  name : Option String
  image : String
  command : Option (List String)
  environment : Option (List (String × Json))
  secrets : Option (List RuntimeSecretRecord)
  workingDir : Option String
  mounts : Option (List RuntimeVolumeMountRecord)
  portBindings : List RuntimePortBindingRecord
  primaryPort : Int
  hostPort : Int
  isPublic : Bool
  cpu : Int
  memoryMiB : Int
  diskGiB : Int
  autoStopMinutes : Option Int

/-- The columns of a row. -/
def RuntimeEntity.spec (row : RuntimeEntity) : SpecColumns where
  name := row.name
  image := row.image
  command := row.command
  environment := row.environment
  secrets := row.secrets
  workingDir := row.workingDir
  mounts := row.mounts
  portBindings := row.portBindings
  primaryPort := row.primaryPort
  hostPort := row.hostPort
  isPublic := row.isPublic
  cpu := row.cpu
  memoryMiB := row.memoryMiB
  diskGiB := row.diskGiB
  autoStopMinutes := row.autoStopMinutes

/-- The row has the id and the columns of one that was looked up. -/
def Loaded (t : Transcript requests) (saved : RuntimeEntity) : Prop :=
  ∃ query row, ⟨.findRuntime query, some row⟩ ∈ t ∧ saved.id = row.id ∧ saved.spec = row.spec

theorem Loaded.append {t : Transcript requests} {saved : RuntimeEntity} (h : Loaded t saved)
    (u : Transcript requests) : Loaded (t ++ u) saved := by
  obtain ⟨query, row, hrow, hsaved⟩ := h
  exact ⟨query, row, List.mem_append_left _ hrow, hsaved⟩

/-- Activity looks a runtime up once, first, and writes nothing but the row it found. -/
def TouchRule (t : Transcript requests) : Request → Prop
  | .findRuntime _ => t = []
  | .saveRuntime saved => Loaded t saved
  | op => op.Reads

/-- Such a request reads, or saves a row. -/
theorem TouchRule.reads_or_saves {t : Transcript requests} {op : Request} (h : TouchRule t op) :
    op.Reads ∨ ∃ saved, op = .saveRuntime saved := by
  cases op with
  | findRuntime query => exact Or.inl trivial
  | saveRuntime saved => exact Or.inr ⟨saved, rfl⟩
  | _ => exact Or.inl h

/-- The calls that only mean to note activity or the status. -/
def ServiceCall.touches : ServiceCall → Bool
  | .get _ | .exec _ _ _ | .refreshActivity _ | .writeFiles _ _ | .downloadFiles _ _ => true
  | _ => false

section Touch

variable {α β : Type} {t : Transcript requests}

/-- Nothing is asked of what a program returns. -/
abbrev anyResult (_ : Transcript requests) (_ : Except ServiceError α) : Prop := True

theorem follows_then {p : Async β} {k : β → Async α} (hp : p.Follows TouchRule anyResult t)
    (hk : ∀ u b, (k b).Follows TouchRule anyResult u) :
    (p >>= k).Follows TouchRule anyResult t := by
  refine Prog.Follows.bind (hp.mono fun u x _ => ?_)
  cases x with
  | ok b => exact hk u b
  | error e => trivial

/-- The activity is noted on the row that was loaded. -/
theorem touch_follows {row : RuntimeEntity} (hrow : Loaded t row) :
    (touch row).Follows TouchRule anyResult t := by
  unfold touch Registry.updateRuntime
  refine Prog.Follows.request trivial fun now => ?_
  refine Prog.Follows.request (hrow.append _) fun saved => ?_
  exact Prog.Follows.sync (fun _ _ => Prog.Follows.pure trivial) fun _ _ => trivial

/-- A call that loads a running row, asks the backend once and touches the row. -/
theorem activity_follows (op : RuntimeEntity → Request) {value : String}
    {k : (row : RuntimeEntity) → (op row).Reply → Async α} (hop : ∀ row, (op row).Reads)
    (hfind : ∀ row query, op row ≠ .findRuntime query)
    (hk : ∀ u row r, Loaded u row → (k row r).Follows TouchRule anyResult u) :
    (requireRunningRuntime value >>= fun row => await (op row) >>= k row).Follows TouchRule
      anyResult [] := by
  unfold requireRunningRuntime
  simp only [Prog.bind_assoc]
  refine follows_requireRuntime (fun _ _ => rfl) (fun v row => ?_) fun _ _ => trivial
  -- syncing the status changes nothing of the row but the status
  have hloaded : ∀ (u : Transcript requests) status,
      Loaded ([] ++ [⟨.findRuntime (.bySandboxIdOrName v), some row⟩] ++ u)
        { row with status := status } :=
    fun u status => ⟨.bySandboxIdOrName v, row, by simp, rfl, rfl⟩
  refine follows_syncStatus trivial (fun u status => hloaded u status) (fun u status _ => ?_)
    fun _ _ => trivial
  split_ifs
  · exact Prog.Follows.throw trivial
  · refine Prog.Follows.request ?_ fun r => hk _ _ r ((hloaded u status).append _)
    have hreads := hop { row with status := status }
    have hnone := hfind { row with status := status }
    -- the backend request is a read, whichever it is
    generalize op { row with status := status } = request at hreads hnone
    cases request with
    | findRuntime query => exact absurd rfl (hnone query)
    | saveRuntime saved => exact hreads.elim
    | _ => exact hreads

/-- All of these calls keep to the rule. Those that need a running sandbox go by `activity_follows`,
and `get` ends with the status. -/
theorem ServiceCall.touches_follows (cfg : AppConfig) {call : ServiceCall}
    (hcall : call.touches = true) : (call.prog cfg).Follows TouchRule anyResult [] := by
  have hend : ∀ {γ : Type} {u : Transcript requests} {row : RuntimeEntity}
      {ret : RuntimeEntity → γ}, Loaded u row →
      (touch row >>= fun row' => Prog.pure (ret row')).Follows TouchRule anyResult u :=
    fun hrow => follows_then (touch_follows hrow) fun _ _ => Prog.Follows.pure trivial
  cases call with
  -- `get` saves the status it was answered
  | get id =>
    simp only [ServiceCall.prog, RuntimeControl.get, Prog.bind_assoc]
    refine follows_requireRuntime (fun _ _ => rfl) (fun v row => ?_) fun _ _ => trivial
    refine follows_syncStatus trivial (fun u status => ?_) (fun _ _ _ => ?_) fun _ _ => trivial
    · exact ⟨.bySandboxIdOrName v, row, by simp, rfl, rfl⟩
    · exact Prog.Follows.pure trivial
  | exec id command args =>
    refine follows_then ?_ fun _ _ => Prog.Follows.pure trivial
    refine activity_follows (fun row => .exec row.sandboxName command args)
      (fun _ => trivial) (fun _ _ => nofun) fun u row r hrow => ?_
    exact Prog.Follows.sync (fun _ _ => hend hrow) fun _ _ => trivial
  | refreshActivity id =>
    refine follows_then ?_ fun _ _ => Prog.Follows.pure trivial
    refine activity_follows (fun row => .refreshActivity row.sandboxName)
      (fun _ => trivial) (fun _ _ => nofun) fun u row r hrow => ?_
    exact Prog.Follows.sync (fun _ _ => hend hrow) fun _ _ => trivial
  | writeFiles id files =>
    refine follows_then ?_ fun _ _ => Prog.Follows.pure trivial
    refine activity_follows (fun row => .writeFiles row.sandboxName (buildRuntimeFiles files))
      (fun _ => trivial) (fun _ _ => nofun) fun u row r hrow => ?_
    exact Prog.Follows.sync (fun _ _ => hend hrow) fun _ _ => trivial
  | downloadFiles id paths =>
    refine follows_then ?_ fun _ _ => Prog.Follows.pure trivial
    refine activity_follows (fun row => .readFiles row.sandboxName paths)
      (fun _ => trivial) (fun _ _ => nofun) fun u row r hrow => ?_
    exact Prog.Follows.sync (fun _ _ => hend hrow) fun _ _ => trivial
  -- these do not touch a row
  | sandbox | getSignedPreviewUrl | expireSignedPreviewUrl => cases hcall

end Touch

/-! ## The row saved last

After a provisioning call has saved its row, other calls may save it again. Which row is stored is
then the last of these saves; what it says of the spec is what its call had loaded. -/

section Kept

variable {ι : Type}

/-- The step saves the row with this id, for the call that makes it. -/
def savedUnder (id : RuntimeId) (x : ι × Event requests World Answer) :
    Option (ι × RuntimeEntity) :=
  match Pool.answered backend x.2 with
  | some ⟨.saveRuntime saved, .ok ()⟩ => if saved.id = id then some (x.1, saved) else none
  | _ => none

/-- The last save of the row with this id, and the call that made it. -/
def lastSave (id : RuntimeId) (tr : History ι) : Option (ι × RuntimeEntity) :=
  (tr.filterMap (savedUnder id)).getLast?

/-- The row saved last, from when `written` was. -/
def keptRow (written : RuntimeEntity) (tr : History ι) : RuntimeEntity :=
  ((lastSave written.id tr).map Prod.snd).getD written

/-- A step is the last save if it is one. -/
theorem lastSave_snoc (id : RuntimeId) (tr : History ι) (x : ι × Event requests World Answer) :
    lastSave id (tr ++ [x]) = (savedUnder id x).or (lastSave id tr) := by
  unfold lastSave
  cases hsaved : savedUnder id x with
  | none => simp [hsaved]
  | some y => simp [hsaved]

variable {i j : ι} {id : RuntimeId} {s s' : World} {op : Request} {a : Answer} {r : op.Reply}
  {saved : RuntimeEntity}

/-- What it is for a step to save the row. -/
theorem savedUnder_eq_some (hact : act op a s = some (r, s')) :
    savedUnder id (i, ⟨s, op, a⟩) = some (j, saved) ↔
      j = i ∧ saved.id = id ∧
        (⟨op, r⟩ : Σ op : Request, op.Reply) = ⟨.saveRuntime saved, .ok ()⟩ := by
  -- the step was answered, so it is in the transcript
  have hanswered : Pool.answered backend ⟨s, op, a⟩ = some ⟨op, r⟩ := by
    unfold Pool.answered
    rw [show backend.act op a s = some (r, s') from hact]
    rfl
  unfold savedUnder
  rw [hanswered]
  constructor
  · intro hsome
    split at hsome
    · rename_i hsave
      split_ifs at hsome with hid
      cases hsome
      exact ⟨rfl, hid, Option.some.inj hsave⟩
    · cases hsome
  · rintro ⟨rfl, hid, hsave⟩
    rw [hsave]
    simp [hid]

/-- A step that does not save the row leaves it stored. -/
theorem stored_of_savedUnder_eq_none {row : RuntimeEntity} (hact : act op a s = some (r, s'))
    (hop : op.Reads ∨ ∃ saved, op = .saveRuntime saved)
    (hnone : savedUnder row.id (i, ⟨s, op, a⟩) = none) (hrow : row ∈ s.runtimes) :
    row ∈ s'.runtimes := by
  rcases hop with hreads | ⟨saved, rfl⟩
  · rw [act_of_reads hreads hact]
    exact hrow
  cases r with
  -- a save that was refused changes nothing
  | error e =>
    simp only [act] at hact
    split at hact <;> cases hact
    exact hrow
  | ok v =>
    refine (World.mem_saveRuntime (saveRuntime_of_act (a := a) hact)).mpr (Or.inr ⟨hrow, ?_⟩)
    intro hid
    have hsome : savedUnder row.id (i, ⟨s, .saveRuntime saved, a⟩) = some (i, saved) :=
      (savedUnder_eq_some hact).mpr ⟨rfl, hid.symm, rfl⟩
    rw [hnone] at hsome
    cases hsome

end Kept

section InFlight

variable {ι : Type} [DecidableEq ι]

/-- What has happened after the last step of `w`. -/
def sinceLast (w : ι) (tr : History ι) : History ι := tr.rtakeWhile fun x => x.1 ≠ w

/-- The last request of `w` so far was the save of `written`. -/
def JustWrote (tr : History ι) (w : ι) (written : RuntimeEntity) : Prop :=
  (Pool.transcript backend w tr).getLast? = some ⟨.saveRuntime written, .ok ()⟩

/-- The call that saved the row last since `w` did, if there is one, had loaded it as `w` wrote
it. -/
def LoadedAsWritten (tr : History ι) (w : ι) (written : RuntimeEntity) : Prop :=
  ∀ i saved, lastSave written.id (sinceLast w tr) = some (i, saved) →
    ∀ row, LookedUp tr i row → row.spec = written.spec

/-- Since `w` wrote, the row saved last is stored, and it was loaded by the call that saved it. -/
def KeepsLast (w : ι) (tr : History ι) (s : World) : Prop :=
  ∀ written, JustWrote tr w written →
    keptRow written (sinceLast w tr) ∈ s.runtimes ∧
      (keptRow written (sinceLast w tr)).id = written.id ∧
      ∀ i saved, lastSave written.id (sinceLast w tr) = some (i, saved) →
        i ≠ w ∧ Loaded (Pool.transcript backend i tr) saved

variable {tr : History ι} {w i : ι} {ev : Event requests World Answer} {s s' : World}
  {op : Request} {a : Answer} {r : op.Reply}

/-- Nothing has happened since a step that was just made. -/
theorem sinceLast_self : sinceLast w (tr ++ [(w, ev)]) = [] := by
  unfold sinceLast
  exact List.rtakeWhile_concat_neg _ _ _ (by simp)

theorem sinceLast_other (hne : i ≠ w) :
    sinceLast w (tr ++ [(i, ev)]) = sinceLast w tr ++ [(i, ev)] := by
  unfold sinceLast
  exact List.rtakeWhile_concat_pos _ _ _ (by simpa using hne)

/-- What a call had loaded, it has loaded after a step. -/
theorem Loaded.step {j : ι} {saved : RuntimeEntity} (hact : act op a s = some (r, s'))
    (h : Loaded (Pool.transcript backend j tr) saved) :
    Loaded (Pool.transcript backend j (tr ++ [(i, ⟨s, op, a⟩)])) saved := by
  obtain ⟨query, row, hrow, hsaved⟩ := h
  exact ⟨query, row, (Pool.mem_transcript_step hact).mpr (Or.inl hrow), hsaved⟩

/-- The step of `w` itself. -/
theorem KeepsLast.own (hact : act op a s = some (r, s')) :
    KeepsLast w (tr ++ [(w, ⟨s, op, a⟩)]) s' := by
  intro written hwrote
  unfold JustWrote at hwrote
  rw [Pool.transcript_self hact, List.getLast?_concat] at hwrote
  cases Option.some.inj hwrote
  rw [sinceLast_self]
  refine ⟨?_, rfl, fun i saved hnone => by cases hnone⟩
  exact (World.mem_saveRuntime (saveRuntime_of_act (a := a) hact)).mpr (Or.inl rfl)

/-- A step of another call. -/
theorem KeepsLast.other (h : KeepsLast w tr s) (hne : i ≠ w) (hact : act op a s = some (r, s'))
    (hrule : TouchRule (Pool.transcript backend i tr) op) :
    KeepsLast w (tr ++ [(i, ⟨s, op, a⟩)]) s' := by
  intro written hwrote
  unfold JustWrote at hwrote
  rw [Pool.transcript_other _ hne] at hwrote
  obtain ⟨hstored, hid, hloaded⟩ := h written hwrote
  rw [sinceLast_other hne]
  unfold keptRow at hstored hid ⊢
  rw [lastSave_snoc]
  -- either this step saves the row, and is the last to do so, or the last save stands
  cases hsaved : savedUnder written.id (i, ⟨s, op, a⟩) with
  | none =>
    rw [Option.none_or]
    refine ⟨?_, hid, fun j saved hlast => ?_⟩
    · exact stored_of_savedUnder_eq_none hact hrule.reads_or_saves (hid ▸ hsaved) hstored
    · exact ⟨(hloaded j saved hlast).1, (hloaded j saved hlast).2.step hact⟩
  | some y =>
    obtain ⟨j, saved⟩ := y
    obtain ⟨rfl, hsame, hsave⟩ := (savedUnder_eq_some hact).mp hsaved
    cases hsave
    rw [Option.some_or]
    refine ⟨?_, hsame, fun k saved' hlast => ?_⟩
    · exact (World.mem_saveRuntime (saveRuntime_of_act (a := a) hact)).mpr (Or.inl rfl)
    · cases hlast
      exact ⟨hne, Loaded.step hact hrule⟩

variable {cfg : AppConfig} {calls : ι → ServiceCall} {call : SandboxCall} {s₀ : World}
  {c : Pool requests ServiceError Unit World ι}

/-- The rule of a call that notes activity or provisions. -/
def ServiceCall.savingRule : ServiceCall → Transcript requests → Request → Prop
  | .sandbox _ => RemovesNone
  | _ => TouchRule

/-- What is known of a call that has returned: a provisioning call ends with the save of its row. -/
def ServiceCall.savingPost : ServiceCall → Transcript requests → Except ServiceError Unit → Prop
  | .sandbox call => call.Finishes
  | _ => anyResult

/-- A call that notes activity has the rule of activity. -/
theorem ServiceCall.savingRule_of_touches {call : ServiceCall} (hcall : call.touches = true) :
    call.savingRule = TouchRule ∧ call.savingPost = anyResult := by
  cases call with
  | sandbox | getSignedPreviewUrl | expireSignedPreviewUrl => cases hcall
  | _ => exact ⟨rfl, rfl⟩

/-- **No update of the spec is lost.** However one provisioning call interleaves with calls that
note activity, once it has returned the row it wrote is stored with the columns it wrote, exactly
when the call that saved the row last since then had loaded it with those columns. -/
theorem update_kept_iff (hw : calls w = .sandbox call) (hcall : call.provisions = true)
    (hothers : ∀ i, i ≠ w → (calls i).touches = true) (hrun : InFlight cfg calls anyStep s₀ tr c)
    (hreturned : c.thread w = .pure ()) :
    ∃ written, JustWrote tr w written ∧
      ((∃ row ∈ c.state.runtimes, row.id = written.id ∧ row.spec = written.spec) ↔
        LoadedAsWritten tr w written) := by
  have hstart : ∀ i, ((starting cfg calls s₀).thread i).Follows (calls i).savingRule
      (calls i).savingPost [] := by
    intro i
    by_cases hi : i = w
    · subst hi
      show ((calls i).prog cfg).Follows _ _ []
      rw [hw]
      exact call.finishes cfg hcall
    · obtain ⟨hrule, hpost⟩ := ServiceCall.savingRule_of_touches (hothers i hi)
      rw [hrule, hpost]
      exact ServiceCall.touches_follows cfg (hothers i hi)
  obtain ⟨hkeeps, hruled, hfollows⟩ := Pool.Run.history_invariant (J := KeepsLast w) hstart
    (fun written hwrote => by cases hwrote)
    (fun tr s i op a r s' hkeeps _ _ hact hmay => by
      by_cases hi : i = w
      · subst hi
        exact KeepsLast.own hact
      · rw [(ServiceCall.savingRule_of_touches (hothers i hi)).1] at hmay
        exact hkeeps.other hi hact hmay) hrun
  have hfinished : call.Finishes (Pool.transcript backend w tr) (.ok ()) := by
    have hpost := (hfollows w).outcome (Prog.outcome_eq_ok.mpr hreturned)
    rw [hw] at hpost
    exact hpost
  obtain ⟨_, _, written, hdone, -⟩ := hfinished.committed
  refine ⟨written, hdone.last, ?_⟩
  obtain ⟨hstored, hid, hloaded⟩ := hkeeps written hdone.last
  have honly : ∀ row ∈ c.state.runtimes, row.id = written.id →
      row = keptRow written (sinceLast w tr) :=
    fun row hrow hrowid => World.eq_of_id hrow hstored (hrowid.trans hid.symm)
  -- the row is as the last save since then has left it, or as it was written
  cases hlast : lastSave written.id (sinceLast w tr) with
  | none =>
    rw [keptRow, hlast] at hstored
    constructor
    · intro _ i saved hsome
      rw [hlast] at hsome
      cases hsome
    · exact fun _ => ⟨written, hstored, rfl, rfl⟩
  | some y =>
    obtain ⟨i, saved⟩ := y
    rw [keptRow, hlast] at hstored hid honly
    obtain ⟨hiw, query, row, hrow, -, hspec⟩ := hloaded i saved hlast
    have hrule := (ServiceCall.savingRule_of_touches (hothers i hiw)).1 ▸ hruled i
    -- a call that notes activity looks up one row, and changes none of these columns
    have hone : ∀ row', LookedUp tr i row' → row' = row :=
      fun row' => LookedUp.unique hrule (fun t query hfirst => hfirst) ⟨query, hrow⟩
    constructor
    · rintro ⟨stored, hin, hinId, hinSpec⟩ j saved' hlast' row' hlooked
      rw [hlast] at hlast'
      cases hlast'
      rw [hone row' hlooked, ← hspec, ← hinSpec, honly stored hin hinId]
      rfl
    · intro hwritten
      exact ⟨saved, hstored, hid, hspec.trans (hwritten i saved hlast row ⟨query, hrow⟩)⟩

end InFlight

/-! ## A command during an update

Two orders of the same two calls. In one the command comes after the update, in the other it had
loaded the row before. -/

/-- A command in the sandbox `b` while `b` is updated to another image. -/
def execWhileUpdating : Bool → ServiceCall
  | true => .sandbox (.update "b" { image := some "first:latest" })
  | false => .exec "b" "ls" []

theorem execWhileUpdating_touches {i : Bool} (hi : i ≠ true) :
    (execWhileUpdating i).touches = true := by
  cases i with
  | false => rfl
  | true => exact absurd rfl hi

/-- The row that the update wrote is stored with another image. -/
def loses (tr : History Bool) (c : Pool requests ServiceError Unit World Bool) : Bool :=
  match (Pool.transcript backend true tr).getLast? with
  | some ⟨.saveRuntime written, .ok ()⟩ => c.state.runtimes.rows.all fun row =>
    row.id != written.id || row.image != written.image
  | _ => false

/-- The calls in the given order, from the state in which `b` has been created. -/
theorem exists_execWhileUpdating (order : List (Bool × Answer))
    (p : History Bool → Pool requests ServiceError Unit World Bool → Bool)
    (hrun : (runCalls backend (SandboxCall.prog (smallConfig 31005)) (fun _ _ _ _ g => g)
      [(.create { name := some "b" }, [])] (World.fresh .empty) ()).any (fun q =>
        (Pool.schedule backend order (starting (smallConfig 31005) execWhileUpdating q.1)).any
          fun q => bothReturned q.2 && p q.1 q.2) = true) :
    ∃ s tr c, Reachable (smallConfig 31005) anyCall .empty s ∧
      InFlight (smallConfig 31005) execWhileUpdating anyStep s tr c ∧
      (∀ i, c.thread i = .pure ()) ∧ p tr c = true := by
  obtain ⟨s, hreach, hp⟩ := exists_reachable (smallConfig 31005) .empty
    [(.create { name := some "b" }, [])]
    (fun s => (Pool.schedule backend order (starting (smallConfig 31005) execWhileUpdating s)).any
      fun q => bothReturned q.2 && p q.1 q.2) hrun
  obtain ⟨tr, c, hrun, hq⟩ := Pool.exists_run_of_schedule order
    (fun tr c => bothReturned c && p tr c) hp
  rw [Bool.and_eq_true] at hq
  exact ⟨s, tr, c, hreach, hrun, of_bothReturned hq.1, hq.2⟩

/-- The command starts once the update has returned. -/
theorem update_kept_iff_in_turn :
    ∃ s tr c, Reachable (smallConfig 31005) anyCall .empty s ∧
      InFlight (smallConfig 31005) execWhileUpdating anyStep s tr c ∧
      ∃ written, JustWrote tr true written ∧
        ((∃ row ∈ c.state.runtimes, row.id = written.id ∧ row.spec = written.spec) ↔
          LoadedAsWritten tr true written) := by
  obtain ⟨s, tr, c, hreach, hrun, hreturned, -⟩ := exists_execWhileUpdating
    -- the update makes all its steps, then the command
    (steps true 9 ++ steps false 5) (fun _ _ => true) (by decide +kernel)
  exact ⟨s, tr, c, hreach, hrun, update_kept_iff rfl rfl (fun _ => execWhileUpdating_touches) hrun
    (hreturned true)⟩

/-- The command was running during the update, and then notes its activity on the row it had loaded
before. -/
theorem exec_loses_update :
    ¬ ∀ (cfg : AppConfig) (volumes : Table VolumeEntity volumeKeys) (s : World)
      (calls : Bool → ServiceCall) (sandboxId : String) (input : UpdateSandboxDto)
      (tr : History Bool) (c : Pool requests ServiceError Unit World Bool),
      Reachable cfg anyCall volumes s → calls true = .sandbox (.update sandboxId input) →
      (∀ i, i ≠ true → (calls i).touches = true) → InFlight cfg calls anyStep s tr c →
      (∀ i, c.thread i = .pure ()) → ∀ written, JustWrote tr true written →
        ∃ row ∈ c.state.runtimes, row.id = written.id ∧ row.spec = written.spec := by
  intro hclaim
  obtain ⟨s, tr, c, hreach, hrun, hreturned, hloses⟩ := exists_execWhileUpdating
    -- the command loads the row and starts, the update runs, the command ends
    (steps false 3 ++ steps true 9 ++ steps false 2) loses (by decide +kernel)
  unfold loses at hloses
  split at hloses
  · rename_i written hwrote
    obtain ⟨row, hrow, hid, hspec⟩ := hclaim _ _ s execWhileUpdating "b" _ tr c hreach rfl
      (fun _ => execWhileUpdating_touches) hrun hreturned written hwrote
    have himage : row.image = written.image := congrArg SpecColumns.image hspec
    have hother := List.all_eq_true.mp hloses row hrow
    simp [hid, himage] at hother
  · cases hloses

end Microsandbox
