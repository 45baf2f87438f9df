import Mathlib.Logic.Function.Basic

/-!
# Process — systems that move by actions

A system is a partial function: an action takes a state to the next one, or cannot be taken there.

* **`Reached`** — the states reached by actions, each permitted where it is taken.
* **`Reached.invariant`** — what every permitted step keeps holds throughout.
* **`exists_quiet`** — a rank that every permitted step lowers leads to a state without one.
* **`runActions`** — evaluates a run; `exists_reached` certifies what it finds.
-/

namespace Process

variable {S A : Type}

/-- The states reached from `s₀` by actions that `may` permits. -/
inductive Reached (step : A → S → Option S) (may : S → A → Prop) (s₀ : S) : S → Prop where
  | start : Reached step may s₀ s₀
  | next {s s' : S} {a : A} (h : Reached step may s₀ s) (hmay : may s a)
      (hstep : step a s = some s') : Reached step may s₀ s'

/-- What every permitted step keeps holds throughout. -/
theorem Reached.invariant {step : A → S → Option S} {may : S → A → Prop} {s₀ s : S} {I : S → Prop}
    (hinit : I s₀) (hkeep : ∀ s a s', I s → may s a → step a s = some s' → I s')
    (h : Reached step may s₀ s) : I s := by
  induction h with
  | start => exact hinit
  | next _ hmay hstep ih => exact hkeep _ _ _ ih hmay hstep

/-- Runs go on from where others have ended. -/
theorem Reached.trans {step : A → S → Option S} {may : S → A → Prop} {s₀ s₁ s₂ : S}
    (h₁ : Reached step may s₀ s₁) (h₂ : Reached step may s₁ s₂) : Reached step may s₀ s₂ := by
  induction h₂ with
  | start => exact h₁
  | next _ hmay hstep ih => exact .next ih hmay hstep

/-- A run under a stronger condition is one under a weaker condition. -/
theorem Reached.mono {step : A → S → Option S} {may may' : S → A → Prop} {s₀ s : S}
    (h : Reached step may s₀ s) (hmay : ∀ s a, may s a → may' s a) : Reached step may' s₀ s := by
  induction h with
  | start => exact .start
  | next _ ha hstep ih => exact .next ih (hmay _ _ ha) hstep

/-- Steps that lower a rank come to an end. -/
theorem exists_quiet {step : A → S → Option S} {may : S → A → Prop} (rank : S → Nat)
    (hrank : ∀ s a s', may s a → step a s = some s' → rank s' < rank s) (s : S) :
    ∃ s', Reached step may s s' ∧ ∀ a, may s' a → step a s' = none := by
  induction hn : rank s using Nat.strongRecOn generalizing s with
  | _ n ih =>
    by_cases henabled : ∃ a s₁, may s a ∧ step a s = some s₁
    · obtain ⟨a, s₁, hmay, hstep⟩ := henabled
      have hlt : rank s₁ < n := hn ▸ hrank s a s₁ hmay hstep
      obtain ⟨s', hreached, hquiet⟩ := ih (rank s₁) hlt s₁ rfl
      have hfirst : Reached step may s s₁ := .next .start hmay hstep
      exact ⟨s', hfirst.trans hreached, hquiet⟩
    · refine ⟨s, .start, fun a hmay => ?_⟩
      cases hstep : step a s with
      | none => rfl
      | some s₁ => exact absurd ⟨a, s₁, hmay, hstep⟩ henabled

/-- Take the listed actions in turn, as long as each is permitted and can be taken. -/
def runActions (step : A → S → Option S) (may : S → A → Prop) [∀ s a, Decidable (may s a)] :
    List A → S → Option S
  | [], s => some s
  | a :: rest, s => if may s a then (step a s).bind (runActions step may rest) else none

/-- A property that evaluation finds at the end of some actions holds of a state they reach. -/
theorem exists_reached (step : A → S → Option S) (may : S → A → Prop)
    [∀ s a, Decidable (may s a)] (s₀ : S) (actions : List A) (p : S → Bool)
    (hrun : (runActions step may actions s₀).any p = true) :
    ∃ s, Reached step may s₀ s ∧ p s = true := by
  obtain ⟨s, hres, hp⟩ := (Option.any_eq_true _ _).mp hrun
  refine ⟨s, ?_, hp⟩
  -- the actions still to take go on from a state already reached
  suffices hgen : ∀ actions s₁, Reached step may s₀ s₁ →
      runActions step may actions s₁ = some s → Reached step may s₀ s from
    hgen actions s₀ .start hres
  intro actions
  induction actions with
  | nil =>
    intro s₁ hreached hres
    cases hres
    exact hreached
  | cons a rest ih =>
    intro s₁ hreached hres
    simp only [runActions, Option.ite_none_right_eq_some] at hres
    obtain ⟨hmay, hres⟩ := hres
    obtain ⟨s₂, hstep, hrest⟩ := Option.bind_eq_some_iff.mp hres
    exact ih s₂ (.next hreached hmay hstep) hrest

end Process
