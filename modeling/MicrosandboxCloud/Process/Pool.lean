import MicrosandboxCloud.Process.Exec

/-!
# Process — interleaving programs at their requests

Many programs run over one shared state. A step lets one of them have its awaited request
served; what it does between two requests is not observable by the others.

* **`Pool.Step` / `Pool.Run`** — one step, and a run with its tagged history. A run can be
  restricted by `safe`, a condition on the history, the program about to step and its event.
* **`Pool.Run.invariant`** — the typestate rule: when each program conforms to its automaton,
  an assertion over the history, the control states and the shared state that every automaton
  step keeps holds throughout, and each program still conforms to its automaton.
* **`schedule`** — evaluates a run given who steps and how it is answered.
-/

namespace Process

variable {σ : Signature} {S A ε α ι Q : Type}

namespace Prog

/-- How a program ended, if it has. -/
def outcome : Prog σ ε α → Option (Except ε α)
  | .pure a => some (.ok a)
  | .throw e => some (.error e)
  | .await _ _ => none

@[simp] theorem outcome_eq_ok {p : Prog σ ε α} {a : α} :
    p.outcome = some (.ok a) ↔ p = .pure a := by
  cases p <;> simp [outcome]

/-- A program that conforms to its automaton and has ended satisfies the automaton's
postcondition in the control state it is in. -/
theorem Conforms.outcome {next : Q → (op : σ.Op) → σ.Reply op → Q → Prop}
    {post : Q → Except ε α → Prop} {q : Q} {p : Prog σ ε α} {x : Except ε α}
    (hp : p.Conforms next post q) (hx : p.outcome = some x) : post q x := by
  cases p with
  | pure a => simp only [Prog.outcome, Option.some.injEq] at hx; subst hx; simpa using hp
  | throw e => simp only [Prog.outcome, Option.some.injEq] at hx; subst hx; simpa using hp
  | await op k => simp [Prog.outcome] at hx

end Prog

/-- Programs in flight over one shared state. -/
structure Pool (σ : Signature) (ε α S ι : Type) where
  thread : ι → Prog σ ε α
  state : S

namespace Pool

/-- Every program has ended. -/
def Finished (c : Pool σ ε α S ι) : Prop := ∀ i, (c.thread i).outcome ≠ none

variable [DecidableEq ι]

/-- One program has its awaited request served. -/
inductive Step (h : Handler σ S A) : Pool σ ε α S ι → ι → Event σ S A → Pool σ ε α S ι → Prop where
  | serve {c : Pool σ ε α S ι} {i : ι} {op : σ.Op} {k : σ.Reply op → Prog σ ε α} {ans : A}
      {r : σ.Reply op} {s' : S} (hthread : c.thread i = .await op k)
      (hact : h.act op ans c.state = some (r, s')) :
      Step h c i ⟨c.state, op, ans⟩ ⟨Function.update c.thread i (k r), s'⟩

/-- A run from `c₀` with its history, oldest event first. Every step meets `safe`. -/
inductive Run (h : Handler σ S A) (safe : List (ι × Event σ S A) → ι → Event σ S A → Prop)
    (c₀ : Pool σ ε α S ι) : List (ι × Event σ S A) → Pool σ ε α S ι → Prop where
  | start : Run h safe c₀ [] c₀
  | step {tr : List (ι × Event σ S A)} {c c' : Pool σ ε α S ι} {i : ι} {ev : Event σ S A}
      (hrun : Run h safe c₀ tr c) (hstep : Step h c i ev c') (hsafe : safe tr i ev) :
      Run h safe c₀ (tr ++ [(i, ev)]) c'

section Run

variable {h : Handler σ S A} {safe : List (ι × Event σ S A) → ι → Event σ S A → Prop}
  {c₀ c : Pool σ ε α S ι} {tr : List (ι × Event σ S A)}

/-- The typestate rule. Induction on the run: the stepping program's automaton moves, every
other program and control state stays as it was. -/
theorem Run.invariant {next : ι → Q → (op : σ.Op) → σ.Reply op → Q → Prop}
    {post : ι → Q → Except ε α → Prop} {q₀ : ι → Q}
    {J : List (ι × Event σ S A) → (ι → Q) → S → Prop}
    (hconf : ∀ i, (c₀.thread i).Conforms (next i) (post i) (q₀ i))
    (hinit : J [] q₀ c₀.state)
    (hkeep : ∀ tr q s i op ans r s' q', J tr q s → safe tr i ⟨s, op, ans⟩ →
      h.act op ans s = some (r, s') → next i (q i) op r q' →
      J (tr ++ [(i, ⟨s, op, ans⟩)]) (Function.update q i q') s')
    (hrun : Run h safe c₀ tr c) :
    ∃ q, J tr q c.state ∧ ∀ i, (c.thread i).Conforms (next i) (post i) (q i) := by
  induction hrun with
  | start => exact ⟨q₀, hinit, hconf⟩
  | @step tr c c' i ev _ hstep hsafe ih =>
    obtain ⟨q, hJ, hq⟩ := ih
    cases hstep with
    | @serve op k ans r s' hthread hact =>
      have hi := hq i
      rw [hthread, Prog.conforms_await] at hi
      obtain ⟨q', hnext, hk⟩ := hi r
      refine ⟨Function.update q i q', hkeep _ _ _ _ _ _ _ _ _ hJ hsafe hact hnext, ?_⟩
      intro j
      -- the program that stepped has moved its automaton; all others are where they were
      by_cases hj : j = i
      · subst hj
        simpa using hk
      · simpa [Function.update_of_ne hj] using hq j

/-- A run is one under `safe` when each of its steps is. -/
theorem Run.restrict (hrun : Run h (fun _ _ _ => True) c₀ tr c)
    (hsafe : ∀ pre x rest, tr = pre ++ x :: rest → safe pre x.1 x.2) : Run h safe c₀ tr c := by
  induction hrun with
  | start => exact .start
  | @step tr c c' i ev _ hstep _ ih =>
    refine .step (ih fun pre x rest htr => hsafe pre x (rest ++ [(i, ev)]) ?_) hstep
      (hsafe tr (i, ev) [] rfl)
    rw [htr, List.append_assoc, List.cons_append]

/-- A program that has ended when the run starts stays as it is, and takes no step. -/
theorem Run.ended {i : ι} (hended : (c₀.thread i).outcome ≠ none) (hrun : Run h safe c₀ tr c) :
    c.thread i = c₀.thread i ∧ ∀ ev, (i, ev) ∉ tr := by
  induction hrun with
  | start => exact ⟨rfl, fun ev => List.not_mem_nil⟩
  | @step tr c c' j ev _ hstep _ ih =>
    obtain ⟨hthread, hnone⟩ := ih
    cases hstep with
    | @serve op k a r s' hawait hact =>
      have hne : i ≠ j := by
        rintro rfl
        rw [← hthread, hawait] at hended
        exact hended rfl
      refine ⟨(Function.update_of_ne hne _ _).trans hthread, fun ev' hmem => ?_⟩
      rcases List.mem_append.mp hmem with hmem | hmem
      · exact hnone ev' hmem
      · exact hne (congrArg Prod.fst (List.mem_singleton.mp hmem))

end Run

/-! ## Evaluation

A schedule says who steps and what the environment answers. What comes of it is computed, and is a
run. -/

/-- Let the listed programs step in turn, each answered as listed. `none` when a listed program
has ended or the handler refuses the answer. -/
def schedule (h : Handler σ S A) :
    List (ι × A) → Pool σ ε α S ι → Option (List (ι × Event σ S A) × Pool σ ε α S ι)
  | [], c => some ([], c)
  | (i, ans) :: rest, c =>
    match c.thread i with
    | .pure _ => none
    | .throw _ => none
    | .await op k =>
      match h.act op ans c.state with
      | none => none
      | some (r, s') =>
        match schedule h rest ⟨Function.update c.thread i (k r), s'⟩ with
        | none => none
        | some (tr, c') => some ((i, ⟨c.state, op, ans⟩) :: tr, c')

/-- What `schedule` computes is a run, when nothing restricts the runs. -/
theorem run_of_schedule {h : Handler σ S A} {c₀ c c' : Pool σ ε α S ι}
    {pre tr : List (ι × Event σ S A)} {steps : List (ι × A)}
    (hpre : Run h (fun _ _ _ => True) c₀ pre c) (hsched : schedule h steps c = some (tr, c')) :
    Run h (fun _ _ _ => True) c₀ (pre ++ tr) c' := by
  induction steps generalizing c pre tr with
  | nil =>
    simp only [schedule, Option.some.injEq, Prod.mk.injEq] at hsched
    obtain ⟨rfl, rfl⟩ := hsched
    simpa using hpre
  | cons step rest ih =>
    obtain ⟨i, ans⟩ := step
    simp only [schedule] at hsched
    cases hthread : c.thread i with
    | pure a => simp [hthread] at hsched
    | throw e => simp [hthread] at hsched
    | await op k =>
      simp only [hthread] at hsched
      cases hact : h.act op ans c.state with
      | none => simp [hact] at hsched
      | some rs =>
        obtain ⟨r, s'⟩ := rs
        simp only [hact] at hsched
        cases hrest : schedule h rest ⟨Function.update c.thread i (k r), s'⟩ with
        | none => simp [hrest] at hsched
        | some res =>
          obtain ⟨tr', c''⟩ := res
          simp only [hrest, Option.some.injEq, Prod.mk.injEq] at hsched
          obtain ⟨rfl, rfl⟩ := hsched
          -- the scheduled step prolongs the run
          have hstep : Run h (fun _ _ _ => True) c₀ (pre ++ [(i, ⟨c.state, op, ans⟩)])
              ⟨Function.update c.thread i (k r), s'⟩ :=
            .step hpre (.serve hthread hact) trivial
          simpa using ih hstep hrest

/-- A property that evaluation finds at the end of a schedule holds of a pool it reaches. -/
theorem exists_run_of_schedule {h : Handler σ S A} {c₀ : Pool σ ε α S ι} (steps : List (ι × A))
    (p : List (ι × Event σ S A) → Pool σ ε α S ι → Bool)
    (hsched : (schedule h steps c₀).any (fun r => p r.1 r.2) = true) :
    ∃ tr c, Run h (fun _ _ _ => True) c₀ tr c ∧ p tr c = true := by
  obtain ⟨⟨tr, c⟩, hres, hp⟩ := (Option.any_eq_true _ _).mp hsched
  have hrun := run_of_schedule .start hres
  rw [List.nil_append] at hrun
  exact ⟨tr, c, hrun, hp⟩

/-- The check holds of each step of a history that goes on from `pre`. -/
def everyStep (check : List (ι × Event σ S A) → ι → Event σ S A → Bool) :
    List (ι × Event σ S A) → List (ι × Event σ S A) → Bool
  | _, [] => true
  | pre, x :: rest => check pre x.1 x.2 && everyStep check (pre ++ [x]) rest

omit [DecidableEq ι] in
/-- A check of every step is a check of each. -/
theorem check_of_everyStep {check : List (ι × Event σ S A) → ι → Event σ S A → Bool}
    {pre mid rest : List (ι × Event σ S A)} {x : ι × Event σ S A}
    (h : everyStep check pre (mid ++ x :: rest) = true) : check (pre ++ mid) x.1 x.2 = true := by
  induction mid generalizing pre with
  | nil =>
    rw [List.append_nil]
    exact (Bool.and_eq_true _ _ ▸ h : _ ∧ _).1
  | cons y mid ih =>
    have htail : everyStep check (pre ++ [y]) (mid ++ x :: rest) = true :=
      (Bool.and_eq_true _ _ ▸ h : _ ∧ _).2
    have hrest := ih htail
    rwa [List.append_assoc, List.singleton_append] at hrest

/-- The same for runs that meet `safe`, where `check` finds each step safe. -/
theorem exists_safe_run_of_schedule (h : Handler σ S A) (c₀ : Pool σ ε α S ι)
    {safe : List (ι × Event σ S A) → ι → Event σ S A → Prop}
    {check : List (ι × Event σ S A) → ι → Event σ S A → Bool}
    (hcheck : ∀ pre i ev, check pre i ev = true → safe pre i ev) (steps : List (ι × A))
    (p : List (ι × Event σ S A) → Pool σ ε α S ι → Bool)
    (hsched : (schedule h steps c₀).any (fun r => everyStep check [] r.1 && p r.1 r.2) = true) :
    ∃ tr c, Run h safe c₀ tr c ∧ p tr c = true := by
  obtain ⟨tr, c, hrun, hp⟩ := exists_run_of_schedule steps
    (fun tr c => everyStep check [] tr && p tr c) hsched
  rw [Bool.and_eq_true] at hp
  refine ⟨tr, c, hrun.restrict fun pre x rest htr => hcheck pre x.1 x.2 ?_, hp.2⟩
  have hevery := hp.1
  rw [htr] at hevery
  exact check_of_everyStep hevery

end Pool

end Process
