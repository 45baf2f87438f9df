import MicrosandboxCloud.References
import MicrosandboxCloud.Process.Transcript

/-!
# Microsandbox — calls in flight together

* **`ServiceCall`** — every call of the services on sandboxes and their preview tokens.
* **`InFlight`** — the states reached when any number of calls interleave at their awaits.
* **`LookedUp`** — the rows that a call has read.
-/

namespace Microsandbox

open Process Data Text RuntimeControl Registry

/-- The calls of the services. Those on sandboxes are there as they are, so that what was shown of
them alone can be used. -/
inductive ServiceCall where
  | sandbox (call : SandboxCall)
  | get (sandboxIdOrName : String)
  | exec (sandboxIdOrName command : String) (args : List String)
  | refreshActivity (sandboxIdOrName : String)
  | writeFiles (sandboxIdOrName : String) (files : List RuntimeFileDto)
  | downloadFiles (sandboxIdOrName : String) (paths : List String)
  | getSignedPreviewUrl (sandboxIdOrName : String) (port : Int)
  | expireSignedPreviewUrl (sandboxIdOrName : String) (port : Int) (token : String)

/-- The program of a call. What it returns is not looked at, only that it returns. -/
def ServiceCall.prog (cfg : AppConfig) : ServiceCall → Async Unit
  | .sandbox call => do let _ ← call.prog cfg
  | .get id => do let _ ← RuntimeControl.get id
  | .exec id command args => do let _ ← RuntimeControl.exec id command args
  | .refreshActivity id => do let _ ← RuntimeControl.refreshActivity id
  | .writeFiles id files => do let _ ← RuntimeControl.writeFiles id files
  | .downloadFiles id paths => do let _ ← RuntimeControl.downloadFiles id paths
  | .getSignedPreviewUrl id port => do let _ ← RuntimeControl.getSignedPreviewUrl cfg id port
  | .expireSignedPreviewUrl id port token => do
    let _ ← RuntimeControl.expireSignedPreviewUrl id port token

/-- The history of calls in flight. -/
abbrev History (ι : Type) := List (ι × Event requests World Answer)

/-- The calls of `ι`, all at their start in `s`. -/
def starting {ι : Type} (cfg : AppConfig) (calls : ι → ServiceCall) (s : World) :
    Pool requests ServiceError Unit World ι :=
  ⟨fun i => (calls i).prog cfg, s⟩

/-- The pools that calls reach when they interleave at their awaits, each step meeting `safe`. -/
def InFlight {ι : Type} [DecidableEq ι] (cfg : AppConfig) (calls : ι → ServiceCall)
    (safe : History ι → ι → Event requests World Answer → Prop) (s : World) (tr : History ι)
    (c : Pool requests ServiceError Unit World ι) : Prop :=
  Pool.Run backend safe (starting cfg calls s) tr c

section LookedUp

variable {ι : Type} [DecidableEq ι]

/-- Call `i` was answered `row` when it looked a runtime up. -/
def LookedUp (tr : History ι) (i : ι) (row : RuntimeEntity) : Prop :=
  ∃ query, ⟨.findRuntime query, some row⟩ ∈ Pool.transcript backend i tr

variable {tr : History ι} {i j : ι} {op : Request} {a : Answer} {s s' : World} {r : op.Reply}
  {row : RuntimeEntity}

/-- A row that was looked up stays looked up. -/
theorem LookedUp.step (hact : act op a s = some (r, s')) (h : LookedUp tr j row) :
    LookedUp (tr ++ [(i, ⟨s, op, a⟩)]) j row := by
  obtain ⟨query, hquery⟩ := h
  exact ⟨query, (Pool.mem_transcript_step hact).mpr (Or.inl hquery)⟩

/-- A row that has been looked up after a step was looked up before, or has just been read from the
table. -/
theorem LookedUp.of_step (hact : act op a s = some (r, s'))
    (h : LookedUp (tr ++ [(i, ⟨s, op, a⟩)]) j row) :
    LookedUp tr j row ∨ (i = j ∧ row ∈ s.runtimes ∧ s' = s ∧ ∃ query, op = .findRuntime query ∧
      query.selects row = true) := by
  obtain ⟨query, hquery⟩ := h
  rcases (Pool.mem_transcript_step hact).mp hquery with hold | ⟨rfl, hlast⟩
  · exact Or.inl ⟨query, hold⟩
  · cases hlast
    simp only [act, Option.some.injEq, Prod.mk.injEq] at hact
    obtain ⟨hrow, hselects⟩ := pickRow_some hact.1
    exact Or.inr ⟨rfl, hrow, hact.2.symm, query, rfl, hselects⟩

/-- A call that looks up at its start only has found at most one row. -/
theorem LookedUp.unique {may : Transcript requests → Request → Prop} {row' : RuntimeEntity}
    (hruled : Prog.Ruled may (Pool.transcript backend i tr))
    (hfirst : ∀ t query, may t (.findRuntime query) → t = []) (h : LookedUp tr i row)
    (h' : LookedUp tr i row') : row' = row := by
  obtain ⟨query, hrow⟩ := h
  obtain ⟨query', hrow'⟩ := h'
  have hsame := hruled.unique_first (fun op => ∃ query, op = Request.findRuntime query)
    (fun u op hop hmay => by obtain ⟨query, rfl⟩ := hop; exact hfirst u query hmay)
    hrow' hrow ⟨query', rfl⟩ ⟨query, rfl⟩
  cases hsame
  rfl

end LookedUp

/-- `n` steps of call `i`, each answered by a healthy backend. -/
def steps {ι : Type} (i : ι) (n : Nat) : List (ι × Answer) := List.replicate n (i, {})

/-- Any step. -/
def anyStep {ι : Type} (_ : History ι) (_ : ι) (_ : Event requests World Answer) : Prop := True

end Microsandbox
