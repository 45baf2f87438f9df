import Mathlib.Data.List.Forall2
import MicrosandboxCloud.Process.Pool

/-!
# Process — two systems side by side

Two runs are compared when the second makes the requests of the first in another guise, in a state
that looks like the first one's.

* **`Disguise`** — how a request looks in the second system, and when replies and states look alike.
* **`Disguise.Respected`** — a handler answers disguised requests in states that look alike with
  replies that look alike, and leaves states that do.
* **`Prog.Twin`** — the second program follows the first as long as replies look alike, and ends as
  it does. The rules follow the program.
* **`Exec.twin` / `Pool.Run.twin`** — a run of the first system has its twin, step by step.
-/

namespace Process

variable {σ : Signature} {S A ε α β α' β' ι : Type}

/-- How the requests, replies and states of one system look in the other. -/
structure Disguise (σ : Signature) (S : Type) where
  op : σ.Op → σ.Op
  reply : (o : σ.Op) → σ.Reply o → σ.Reply (op o) → Prop
  state : S → S → Prop

/-- The handler cannot tell a request that `may` allows from its disguise. -/
def Disguise.Respected (d : Disguise σ S) (may : σ.Op → Prop) (h : Handler σ S A) : Prop :=
  ∀ op a s t r s', may op → d.state s t → h.act op a s = some (r, s') →
    ∃ r' t', h.act (d.op op) a t = some (r', t') ∧ d.reply op r r' ∧ d.state s' t'

/-- Two outcomes: the same exception, or values that `R` relates. -/
inductive OutcomeTwin (R : α → β → Prop) : Except ε α → Except ε β → Prop where
  | ok {a : α} {b : β} (h : R a b) : OutcomeTwin R (.ok a) (.ok b)
  | error (e : ε) : OutcomeTwin R (.error e) (.error e)

theorem OutcomeTwin.mono {R R' : α → β → Prop} {x : Except ε α} {y : Except ε β}
    (h : OutcomeTwin R x y) (himp : ∀ a b, R a b → R' a b) : OutcomeTwin R' x y := by
  cases h with
  | ok hab => exact .ok (himp _ _ hab)
  | error e => exact .error e

/-- Values that are related when they are equal: the outcomes are the same. -/
theorem OutcomeTwin.eq {x y : Except ε α} (h : OutcomeTwin (fun a b => b = a) x y) : y = x := by
  cases h with
  | ok hab => rw [hab]
  | error e => rfl

namespace Prog

/-- The second program makes the requests of the first in their disguise, whatever both are
answered as long as the answers look alike; the values they end with are related by `R`. -/
inductive Twin (d : Disguise σ S) (may : σ.Op → Prop) (R : α → β → Prop) :
    Prog σ ε α → Prog σ ε β → Prop where
  | pure {a : α} {b : β} (h : R a b) : Twin d may R (.pure a) (.pure b)
  | throw (e : ε) : Twin d may R (.throw e) (.throw e)
  | await {op : σ.Op} {k : σ.Reply op → Prog σ ε α} {k' : σ.Reply (d.op op) → Prog σ ε β}
      (hop : may op) (hk : ∀ r r', d.reply op r r' → Twin d may R (k r) (k' r')) :
      Twin d may R (.await op k) (.await (d.op op) k')

section Twin

variable {d : Disguise σ S} {may : σ.Op → Prop} {R : α → β → Prop} {R' : α' → β' → Prop}

theorem Twin.mono {R₂ : α → β → Prop} {p : Prog σ ε α} {q : Prog σ ε β} (h : p.Twin d may R q)
    (himp : ∀ a b, R a b → R₂ a b) : p.Twin d may R₂ q := by
  induction h with
  | pure hab => exact .pure (himp _ _ hab)
  | throw e => exact .throw e
  | await hop _ ih => exact .await hop ih

/-- Sequencing. Induction on the first pair. -/
theorem Twin.bind {p : Prog σ ε α} {q : Prog σ ε β} {f : α → Prog σ ε α'} {g : β → Prog σ ε β'}
    (h : p.Twin d may R q) (hfg : ∀ a b, R a b → (f a).Twin d may R' (g b)) :
    (p >>= f).Twin d may R' (q >>= g) := by
  induction h with
  | pure hab => exact hfg _ _ hab
  | throw e => exact .throw e
  | await hop _ ih => exact .await hop ih

/-- Both throw the same exception, so both go on with the same handler. -/
theorem Twin.catchError {p : Prog σ ε α} {q : Prog σ ε β} {f : ε → Prog σ ε α} {g : ε → Prog σ ε β}
    (h : p.Twin d may R q) (hfg : ∀ e, (f e).Twin d may R (g e)) :
    (p.catchError f).Twin d may R (q.catchError g) := by
  induction h with
  | pure hab => exact .pure hab
  | throw e => exact hfg e
  | await hop _ ih => exact .await hop ih

theorem Twin.request {op : σ.Op} (hop : may op) :
    (Prog.request (ε := ε) op).Twin d may (d.reply op) (Prog.request (d.op op)) :=
  .await hop fun _ _ h => .pure h

/-- A request and what follows it. -/
theorem Twin.request_bind {op : σ.Op} {f : σ.Reply op → Prog σ ε α}
    {g : σ.Reply (d.op op) → Prog σ ε β} (hop : may op)
    (hfg : ∀ r r', d.reply op r r' → (f r).Twin d may R (g r')) :
    (Prog.request op >>= f).Twin d may R (Prog.request (d.op op) >>= g) :=
  .await hop hfg

theorem Twin.ofExcept {x : Except ε α} {y : Except ε β} (h : OutcomeTwin R x y) :
    (Prog.ofExcept (σ := σ) x).Twin d may R (Prog.ofExcept y) := by
  cases h with
  | ok hab => exact .pure hab
  | error e => exact .throw e

/-- A synchronous computation and what follows it. -/
theorem Twin.sync {x : Except ε α'} {y : Except ε β'} {f : α' → Prog σ ε α} {g : β' → Prog σ ε β}
    (h : OutcomeTwin R' x y) (hfg : ∀ a b, R' a b → (f a).Twin d may R (g b)) :
    (Prog.ofExcept x >>= f).Twin d may R (Prog.ofExcept y >>= g) :=
  (Twin.ofExcept h).bind hfg

/-- Both have ended, or neither has. -/
theorem Twin.outcome {p : Prog σ ε α} {q : Prog σ ε β} (h : p.Twin d may R q) :
    (p.outcome = none ∧ q.outcome = none) ∨
      ∃ x y, p.outcome = some x ∧ q.outcome = some y ∧ OutcomeTwin R x y := by
  cases h with
  | pure hab => exact Or.inr ⟨_, _, rfl, rfl, .ok hab⟩
  | throw e => exact Or.inr ⟨_, _, rfl, rfl, .error e⟩
  | await _ _ => exact Or.inl ⟨rfl, rfl⟩

/-- Where related values are equal, the outcomes are the same. -/
theorem Twin.outcome_eq {p q : Prog σ ε α} (h : p.Twin d may (fun a b => b = a) q) :
    q.outcome = p.outcome := by
  rcases h.outcome with ⟨hp, hq⟩ | ⟨x, y, hp, hq, hxy⟩
  · rw [hp, hq]
  · rw [hp, hq, hxy.eq]

end Twin

end Prog

/-- An event and its twin: the disguised request, with the same answer of the environment, in a
state that looks alike. -/
structure EventTwin (d : Disguise σ S) (ev ev' : Event σ S A) : Prop where
  state : d.state ev.before ev'.before
  op : ev'.op = d.op ev.op
  answer : ev'.answer = ev.answer

section Runs

variable {d : Disguise σ S} {may : σ.Op → Prop} {h : Handler σ S A} {R : α → β → Prop}

/-- A complete run of a program has its twin. Induction on the run. -/
theorem Exec.twin (hrespected : d.Respected may h) {p : Prog σ ε α} {q : Prog σ ε β} {s s' t : S}
    {tr : List (Event σ S A)} {x : Except ε α} (hexec : Exec h p s tr x s')
    (htwin : p.Twin d may R q) (hstate : d.state s t) :
    ∃ tr' y t', Exec h q t tr' y t' ∧ List.Forall₂ (EventTwin d) tr tr' ∧ OutcomeTwin R x y ∧
      d.state s' t' := by
  induction hexec generalizing q t with
  | pure a s =>
    cases htwin with
    | pure hab => exact ⟨[], _, t, .pure _ t, .nil, .ok hab, hstate⟩
  | throw e s =>
    cases htwin with
    | throw e => exact ⟨[], _, t, .throw e t, .nil, .error e, hstate⟩
  | await hact _ ih =>
    cases htwin with
    | await hop hk =>
      -- the disguised request is served alike, so both programs go on with replies that look alike
      obtain ⟨r', t₁, hact', hreply, hstate₁⟩ := hrespected _ _ _ _ _ _ hop hstate hact
      obtain ⟨tr', y, t', hrest, htr, hxy, hstate'⟩ := ih (hk _ _ hreply) hstate₁
      exact ⟨_, y, t', .await hact' hrest, .cons ⟨hstate, rfl, rfl⟩ htr, hxy, hstate'⟩

/-- A tagged event and its twin. -/
def TaggedTwin (d : Disguise σ S) (x y : ι × Event σ S A) : Prop :=
  y.1 = x.1 ∧ EventTwin d x.2 y.2

namespace Pool

variable [DecidableEq ι]

/-- A run of many programs has its twin, in which the same programs step, their requests disguised
and answered by the same choices of the environment. Induction on the run: the program that steps
and its twin go on with replies that look alike, all others stay as they are. -/
theorem Run.twin (c₀' : Pool σ ε β S ι) (hrespected : d.Respected may h)
    {safe : List (ι × Event σ S A) → ι → Event σ S A → Prop} {c₀ c : Pool σ ε α S ι}
    {tr : List (ι × Event σ S A)} (hrun : Run h safe c₀ tr c)
    (hthreads : ∀ i, (c₀.thread i).Twin d may R (c₀'.thread i))
    (hstate : d.state c₀.state c₀'.state) :
    ∃ tr' c', Run h (fun _ _ _ => True) c₀' tr' c' ∧ List.Forall₂ (TaggedTwin d) tr tr' ∧
      (∀ i, (c.thread i).Twin d may R (c'.thread i)) ∧ d.state c.state c'.state := by
  induction hrun with
  | start => exact ⟨[], c₀', .start, .nil, hthreads, hstate⟩
  | @step tr c _ i _ _ hstep _ ih =>
    obtain ⟨tr', c', hrun', htr, htwins, hlike⟩ := ih
    cases hstep with
    | @serve op k a r s' hthread hact =>
      have hi := htwins i
      rw [hthread] at hi
      cases hthread' : c'.thread i with
      -- a program that awaits has a twin that awaits
      | pure b =>
        rw [hthread'] at hi
        cases hi
      | throw e =>
        rw [hthread'] at hi
        cases hi
      | await op' k' =>
        rw [hthread'] at hi
        cases hi with
        | await hop hk =>
          obtain ⟨r', t', hact', hreply, hlike'⟩ := hrespected _ _ _ _ _ _ hop hlike hact
          refine ⟨_, _, hrun'.step (.serve hthread' hact') trivial,
            List.rel_append htr (.cons ⟨rfl, hlike, rfl, rfl⟩ .nil), fun j => ?_, hlike'⟩
          by_cases hj : j = i
          · subst hj
            simpa using hk _ _ hreply
          · simpa [Function.update_of_ne hj] using htwins j

end Pool

end Runs

end Process
