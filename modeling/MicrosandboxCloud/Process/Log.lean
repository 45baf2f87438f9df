import MicrosandboxCloud.Process.Exec

/-!
# Process — calls run one at a time, with the log of how each ended

* **`Logged`** — the states reached by calls run one at a time, each request meeting `safe`,
  together with the outcome of every call.
* **`Logged.invariant`** — the induction, with one `Ensures` goal for each call.
* **`runLogged`** — evaluates such a run; `exists_logged` certifies what it finds.
-/

namespace Process

variable {σ : Signature} {S A ε α C : Type}

/-- The states reached from `s₀` by calls run one at a time, with how each call ended, oldest
first. Every request of a call meets `safe`. -/
inductive Logged (h : Handler σ S A) (prog : C → Prog σ ε α) (safe : Event σ S A → Prop)
    (s₀ : S) : List (C × Except ε α) → S → Prop where
  | start : Logged h prog safe s₀ [] s₀
  | call {log : List (C × Except ε α)} {s s' : S} {c : C} {tr : List (Event σ S A)}
      {x : Except ε α} (hrun : Logged h prog safe s₀ log s)
      (hexec : Exec h (prog c) s tr x s') (hsafe : ∀ ev ∈ tr, safe ev) :
      Logged h prog safe s₀ (log ++ [(c, x)]) s'

/-- What every call preserves, whatever it adds to the log, holds throughout. -/
theorem Logged.invariant {h : Handler σ S A} {prog : C → Prog σ ε α} {safe : Event σ S A → Prop}
    {s₀ s : S} {log : List (C × Except ε α)} {I : List (C × Except ε α) → S → Prop}
    (hinit : I [] s₀)
    (hcall : ∀ c log s, I log s → Ensures h safe (prog c) s fun x s' => I (log ++ [(c, x)]) s')
    (hrun : Logged h prog safe s₀ log s) : I log s := by
  induction hrun with
  | start => exact hinit
  | call _ hexec hsafe ih => exact hcall _ _ _ ih _ _ _ hexec hsafe

/-! ## Evaluation

Evaluating a run gives the log and the state it ends in. The theorem turns that into a run, so that
a witness is a computation and not a derivation. -/

/-- Run the listed calls one after the other, each with its own answers, as long as every request
passes `check`. -/
def runLogged [Inhabited A] (h : Handler σ S A) (prog : C → Prog σ ε α)
    (check : Event σ S A → Bool) :
    List (C × List A) → List (C × Except ε α) → S → Option (List (C × Except ε α) × S)
  | [], log, s => some (log, s)
  | (c, answers) :: rest, log, s =>
    match run h (prog c) answers s with
    | none => none
    | some (tr, x, s') =>
      if tr.all check then runLogged h prog check rest (log ++ [(c, x)]) s' else none

/-- A property that evaluation finds at the end of some calls holds of a log they leave. -/
theorem exists_logged [Inhabited A] (h : Handler σ S A) (prog : C → Prog σ ε α) (s₀ : S)
    {safe : Event σ S A → Prop} {check : Event σ S A → Bool}
    (hcheck : ∀ ev, check ev = true → safe ev) (calls : List (C × List A))
    (p : List (C × Except ε α) → S → Bool)
    (hrun : (runLogged h prog check calls [] s₀).any (fun r => p r.1 r.2) = true) :
    ∃ log s, Logged h prog safe s₀ log s ∧ p log s = true := by
  obtain ⟨⟨log, s⟩, hres, hp⟩ := (Option.any_eq_true _ _).mp hrun
  refine ⟨log, s, ?_, hp⟩
  -- the calls still to run extend a log that is already one of a run
  suffices hgen : ∀ calls log₀ s₁, Logged h prog safe s₀ log₀ s₁ →
      runLogged h prog check calls log₀ s₁ = some (log, s) → Logged h prog safe s₀ log s from
    hgen calls [] s₀ .start hres
  intro calls
  induction calls with
  | nil =>
    intro log₀ s₁ hlogged hres
    simp only [runLogged, Option.some.injEq, Prod.mk.injEq] at hres
    obtain ⟨rfl, rfl⟩ := hres
    exact hlogged
  | cons call rest ih =>
    intro log₀ s₁ hlogged hres
    obtain ⟨c, answers⟩ := call
    simp only [runLogged] at hres
    cases hcall : run h (prog c) answers s₁ with
    | none => simp [hcall] at hres
    | some result =>
      obtain ⟨tr, x, s'⟩ := result
      simp only [hcall, Option.ite_none_right_eq_some] at hres
      obtain ⟨hall, hres⟩ := hres
      have hsafe : ∀ ev ∈ tr, safe ev := fun ev hev => hcheck ev (List.all_eq_true.mp hall ev hev)
      exact ih _ _ (.call hlogged (exec_of_run hcall) hsafe) hres

end Process
