import MicrosandboxCloud.Process.Prog

/-!
# Process — running a program alone, and running calls one at a time

* **`Handler`** — what a request does to the shared state. The answer `A` is the environment's
  choice (an outcome of a backend call, which matching row a query returns); a handler refuses
  the answers that the environment cannot give.
* **`Exec`** — a complete run of one program with nothing in between, with the trace of its
  requests.
* **`Ensures`** — every complete run whose requests meet `safe` ends as `Q` says. The rules
  follow the program: `Ensures.await`, `Ensures.bind`, `Ensures.catchError`.
* **`Runs`** — states reached by calls run one at a time, carrying a ghost value. `Runs.invariant`
  is the induction; `runCalls` evaluates such a run and `runs_of_runCalls` certifies it.
-/

namespace Process

/-- What each request does to the shared state under an answer of the environment. `none` marks
an answer the environment cannot give there. -/
structure Handler (σ : Signature) (S A : Type) where
  act : (op : σ.Op) → A → S → Option (σ.Reply op × S)

/-! ## Calls that may throw

What a model of an outside service has to say of each call: whether it throws, and whether it has
done its work when it does. -/

/-- What an environment chooses about a call that may throw. -/
structure Fallible (ε : Type) where
  /-- the exception the call throws -/
  failure : Option ε := none

namespace Fallible

variable {ε α : Type} {a : Fallible ε} {value : α}

/-- The value of the call, or the exception it throws. -/
def outcome (a : Fallible ε) (value : α) : Except ε α :=
  match a.failure with
  | none => .ok value
  | some e => .error e

theorem outcome_of_none (h : a.failure = none) : a.outcome value = .ok value := by
  rw [outcome, h]

theorem outcome_of_some {e : ε} (h : a.failure = some e) : a.outcome value = .error e := by
  rw [outcome, h]

/-- A call that has returned did not throw. -/
theorem failure_of_ok {u : α} (h : a.outcome value = .ok u) : a.failure = none := by
  cases hfailure : a.failure with
  | none => rfl
  | some e =>
    rw [outcome_of_some hfailure] at h
    cases h

end Fallible

/-- And whether a call that throws has taken effect nevertheless. -/
structure Uncertain (ε : Type) extends Fallible ε where
  tookEffect : Bool := false

namespace Uncertain

variable {ε α : Type} {a : Uncertain ε}

/-- Has the call changed anything? -/
def effective (a : Uncertain ε) : Bool := a.failure.isNone || a.tookEffect

/-- A call that does not throw has taken effect. -/
theorem effective_of_none (h : a.failure = none) : a.effective = true := by
  rw [effective, h]
  rfl

theorem effective_of_ok {value u : α} (h : a.outcome value = .ok u) : a.effective = true :=
  effective_of_none (Fallible.failure_of_ok h)

end Uncertain

/-! ## Runs of one program

A run is a derivation, and its trace records what the state was before each request. The inversion
lemmas follow the constructs by which programs are built. -/

/-- One request of a run: the state it found, the request, and the environment's answer. -/
structure Event (σ : Signature) (S A : Type) where
  before : S
  op : σ.Op
  answer : A

variable {σ : Signature} {S A ε α β C G : Type}

/-- `Exec h p s tr x s'`: run alone from `s`, `p` can issue exactly the requests `tr`, end with
`x` and leave `s'`. -/
inductive Exec (h : Handler σ S A) :
    Prog σ ε α → S → List (Event σ S A) → Except ε α → S → Prop where
  | pure (a : α) (s : S) : Exec h (.pure a) s [] (.ok a) s
  | throw (e : ε) (s : S) : Exec h (.throw e) s [] (.error e) s
  | await {op : σ.Op} {k : σ.Reply op → Prog σ ε α} {ans : A} {s s₁ s' : S} {r : σ.Reply op}
      {tr : List (Event σ S A)} {x : Except ε α}
      (hact : h.act op ans s = some (r, s₁)) (hrest : Exec h (k r) s₁ tr x s') :
      Exec h (.await op k) s (⟨s, op, ans⟩ :: tr) x s'

/-- A program whose requests can always be served runs to its end. -/
theorem exists_exec {h : Handler σ S A} {allowed : σ.Op → Prop} {p : Prog σ ε α}
    (hp : p.Uses allowed) (hserved : ∀ op s, allowed op → ∃ ans r s', h.act op ans s = some (r, s'))
    (s : S) : ∃ tr x s', Exec h p s tr x s' := by
  induction p generalizing s with
  | pure a => exact ⟨_, _, _, .pure a s⟩
  | throw e => exact ⟨_, _, _, .throw e s⟩
  | await op k ih =>
    obtain ⟨hop, hk⟩ := (Prog.uses_await op k).mp hp
    obtain ⟨ans, r, s₁, hact⟩ := hserved op s hop
    obtain ⟨tr, x, s', hrest⟩ := ih r (hk r) s₁
    exact ⟨_, _, _, .await hact hrest⟩

/-- A run in which a fatal reply came has ended with an exception. -/
theorem Exec.error_of_fatal {h : Handler σ S A} {fatal : (op : σ.Op) → σ.Reply op → Prop}
    {p : Prog σ ε α} {s s' : S} {tr : List (Event σ S A)} {x : Except ε α}
    (hexec : Exec h p s tr x s') (hp : p.Propagates fatal) {ev : Event σ S A} (hev : ev ∈ tr)
    {r : σ.Reply ev.op} {s₁ : S} (hact : h.act ev.op ev.answer ev.before = some (r, s₁))
    (hr : fatal ev.op r) : ∃ e, x = .error e := by
  induction hexec with
  | pure a s => simp at hev
  | throw e s => simp at hev
  | @await op k ans s s₂ s' r' tr x hact' hrest ih =>
    have hk := Prog.propagates_await op k |>.mp hp r'
    rcases List.mem_cons.mp hev with rfl | hev
    -- the fatal reply is the first: the rest throws at once
    · obtain ⟨rfl, -⟩ : r' = r ∧ s₂ = s₁ := by
        simpa [hact'] using hact
      obtain ⟨e, he⟩ := hk.2 hr
      rw [he] at hrest
      cases hrest
      exact ⟨e, rfl⟩
    · exact ih hk.1 hev

/-- Runs compose. Induction on the first. -/
theorem Exec.bind {h : Handler σ S A} {p : Prog σ ε α} {f : α → Prog σ ε β} {s s₁ s' : S} {a : α}
    {tr tr' : List (Event σ S A)} {x : Except ε β} (hp : Exec h p s tr (.ok a) s₁)
    (hf : Exec h (f a) s₁ tr' x s') : Exec h (p >>= f) s (tr ++ tr') x s' := by
  generalize hy : (Except.ok a : Except ε α) = y at hp
  induction hp with
  | pure b s =>
    cases hy
    exact hf
  | throw e s => cases hy
  | await hact _ ih => exact .await hact (ih hf hy)

/-- A run of a program whose value is then mapped is a run of the program. -/
theorem Exec.of_map {h : Handler σ S A} {p : Prog σ ε α} {f : α → β} {s s' : S}
    {tr : List (Event σ S A)} {x : Except ε β}
    (hexec : Exec h (p >>= fun a => Prog.pure (f a)) s tr x s') : ∃ x₀, Exec h p s tr x₀ s' := by
  induction p generalizing s tr with
  | pure a =>
    cases hexec
    exact ⟨.ok a, .pure a s'⟩
  | throw e =>
    cases hexec
    exact ⟨.error e, .throw e s'⟩
  | await op k ih =>
    cases hexec with
    | await hact hrest =>
      obtain ⟨x₀, hx₀⟩ := ih _ hrest
      exact ⟨x₀, .await hact hx₀⟩

/-- A run of a sequence is a run of the first program, and of the second if the first returned. -/
theorem Exec.of_bind {h : Handler σ S A} {p : Prog σ ε α} {f : α → Prog σ ε β} {s s' : S}
    {tr : List (Event σ S A)} {x : Except ε β} (hexec : Exec h (p >>= f) s tr x s') :
    (∃ a s₁ tr₁ tr₂, tr = tr₁ ++ tr₂ ∧ Exec h p s tr₁ (.ok a) s₁ ∧ Exec h (f a) s₁ tr₂ x s') ∨
      ∃ e, x = .error e ∧ Exec h p s tr (.error e) s' := by
  induction p generalizing s tr with
  | pure a => exact Or.inl ⟨a, s, [], tr, rfl, .pure a s, hexec⟩
  | throw e =>
    cases hexec
    exact Or.inr ⟨e, rfl, .throw e s'⟩
  | await op k ih =>
    cases hexec with
    | await hact hrest =>
      rcases ih _ hrest with ⟨a, s₁, tr₁, tr₂, rfl, hp, hf⟩ | ⟨e, rfl, hp⟩
      · exact Or.inl ⟨a, s₁, _ :: tr₁, tr₂, rfl, .await hact hp, hf⟩
      · exact Or.inr ⟨e, rfl, .await hact hp⟩

/-- Where the second program returned, so did the first. -/
theorem Exec.of_bind_ok {h : Handler σ S A} {p : Prog σ ε α} {f : α → Prog σ ε β} {s s' : S}
    {tr : List (Event σ S A)} {b : β} (hexec : Exec h (p >>= f) s tr (.ok b) s') :
    ∃ a s₁ tr₁ tr₂, tr = tr₁ ++ tr₂ ∧ Exec h p s tr₁ (.ok a) s₁ ∧
      Exec h (f a) s₁ tr₂ (.ok b) s' := by
  rcases hexec.of_bind with hboth | ⟨e, he, -⟩
  · exact hboth
  · cases he

/-- A run of a single request. -/
theorem Exec.of_request {h : Handler σ S A} {op : σ.Op} {s s' : S} {tr : List (Event σ S A)}
    {x : Except ε (σ.Reply op)} (hexec : Exec h (Prog.request op) s tr x s') :
    ∃ ans r, h.act op ans s = some (r, s') ∧ x = .ok r ∧ tr = [⟨s, op, ans⟩] := by
  cases hexec with
  | await hact hrest =>
    cases hrest
    exact ⟨_, _, hact, rfl, rfl⟩

theorem Exec.of_ofExcept {h : Handler σ S A} {y x : Except ε α} {s s' : S}
    {tr : List (Event σ S A)} (hexec : Exec h (Prog.ofExcept y) s tr x s') :
    x = y ∧ s' = s ∧ tr = [] := by
  cases y <;> cases hexec <;> exact ⟨rfl, rfl, rfl⟩

/-- A run makes only requests that its program may make. -/
theorem Exec.uses {h : Handler σ S A} {allowed : σ.Op → Prop} {p : Prog σ ε α} {s s' : S}
    {tr : List (Event σ S A)} {x : Except ε α} (hexec : Exec h p s tr x s')
    (hp : p.Uses allowed) : ∀ ev ∈ tr, allowed ev.op := by
  induction hexec with
  | pure a s => exact fun ev hev => absurd hev List.not_mem_nil
  | throw e s => exact fun ev hev => absurd hev List.not_mem_nil
  | await hact _ ih =>
    obtain ⟨hop, hk⟩ := (Prog.uses_await _ _).mp hp
    exact List.forall_mem_cons.mpr ⟨hop, ih (hk _)⟩

/-- A run without requests leaves the state alone. -/
theorem Exec.of_nil {h : Handler σ S A} {p : Prog σ ε α} {s s' : S} {x : Except ε α}
    (hexec : Exec h p s [] x s') : s' = s := by
  cases hexec <;> rfl

/-- Every request of a run was served. -/
theorem Exec.served {h : Handler σ S A} {p : Prog σ ε α} {s s' : S} {tr : List (Event σ S A)}
    {x : Except ε α} (hexec : Exec h p s tr x s') {ev : Event σ S A} (hev : ev ∈ tr) :
    ∃ r s₁, h.act ev.op ev.answer ev.before = some (r, s₁) := by
  induction hexec with
  | pure a s => cases hev
  | throw e s => cases hev
  | await hact _ ih =>
    rcases List.mem_cons.mp hev with rfl | hev
    · exact ⟨_, _, hact⟩
    · exact ih hev

/-- The last request of a run leaves the state that the run does. -/
theorem Exec.last {h : Handler σ S A} {p : Prog σ ε α} {s s' : S} {tr : List (Event σ S A)}
    {x : Except ε α} (hexec : Exec h p s tr x s') {ev : Event σ S A} (hev : tr.getLast? = some ev) :
    ∃ r, h.act ev.op ev.answer ev.before = some (r, s') := by
  induction hexec with
  | pure a s => cases hev
  | throw e s => cases hev
  | @await op k a s s₁ s' r tr x hact hrest ih =>
    cases tr with
    | nil =>
      cases hev
      rw [hrest.of_nil]
      exact ⟨r, hact⟩
    | cons ev' tr =>
      rw [List.getLast?_cons_cons] at hev
      exact ih hev

/-- Every complete run of `p` from `s` whose requests all meet `safe` ends as `Q` says. -/
def Ensures (h : Handler σ S A) (safe : Event σ S A → Prop) (p : Prog σ ε α) (s : S)
    (Q : Except ε α → S → Prop) : Prop :=
  ∀ tr x s', Exec h p s tr x s' → (∀ ev ∈ tr, safe ev) → Q x s'

section Ensures

variable {h : Handler σ S A} {safe : Event σ S A → Prop}

/-- Where every request is safe, what is ensured holds of every run. -/
theorem Ensures.exec {p : Prog σ ε α} {s s' : S} {Q : Except ε α → S → Prop}
    {tr : List (Event σ S A)} {x : Except ε α} (hp : Ensures h (fun _ => True) p s Q)
    (hexec : Exec h p s tr x s') : Q x s' := hp tr x s' hexec fun _ _ => trivial

theorem Ensures.pure {a : α} {s : S} {Q : Except ε α → S → Prop} (hq : Q (.ok a) s) :
    Ensures h safe (.pure a) s Q := by
  intro tr x s' hex _
  cases hex
  exact hq

theorem Ensures.throw {e : ε} {s : S} {Q : Except ε α → S → Prop} (hq : Q (.error e) s) :
    Ensures h safe (.throw e) s Q := by
  intro tr x s' hex _
  cases hex
  exact hq

/-- The rule of one request: whatever the handler may answer, the rest ensures the condition. -/
theorem Ensures.await {op : σ.Op} {k : σ.Reply op → Prog σ ε α} {s : S}
    {Q : Except ε α → S → Prop}
    (hk : ∀ ans r s₁, h.act op ans s = some (r, s₁) → safe ⟨s, op, ans⟩ →
      Ensures h safe (k r) s₁ Q) :
    Ensures h safe (.await op k) s Q := by
  intro tr x s' hex hsafe
  cases hex with
  | await hact hrest =>
    obtain ⟨hev, hsafe⟩ := List.forall_mem_cons.mp hsafe
    exact hk _ _ _ hact hev _ _ _ hrest hsafe

/-- The same for a request written in front of its continuation. -/
theorem Ensures.request_bind {op : σ.Op} {f : σ.Reply op → Prog σ ε α} {s : S}
    {Q : Except ε α → S → Prop}
    (hf : ∀ ans r s₁, h.act op ans s = some (r, s₁) → safe ⟨s, op, ans⟩ →
      Ensures h safe (f r) s₁ Q) :
    Ensures h safe (Prog.request op >>= f) s Q :=
  Ensures.await hf

theorem Ensures.mono {p : Prog σ ε α} {s : S} {Q Q' : Except ε α → S → Prop}
    (hp : Ensures h safe p s Q) (himp : ∀ x s', Q x s' → Q' x s') : Ensures h safe p s Q' :=
  fun tr x s' hex hsafe => himp _ _ (hp tr x s' hex hsafe)

/-- Sequencing rule. Induction on the first program. -/
theorem Ensures.bind {p : Prog σ ε α} {f : α → Prog σ ε β} {s : S} {Q : Except ε β → S → Prop}
    (hp : Ensures h safe p s fun x s₁ =>
      match x with
      | .ok a => Ensures h safe (f a) s₁ Q
      | .error e => Q (.error e) s₁) :
    Ensures h safe (p >>= f) s Q := by
  induction p generalizing s with
  | pure a => exact hp [] (.ok a) s (.pure a s) (by simp)
  | throw e => exact Ensures.throw (hp [] (.error e) s (.throw e s) (by simp))
  | await op k ih =>
    refine Ensures.await fun ans r s₁ hact hev => ih r ?_
    intro tr x s' hex hsafe
    exact hp _ _ _ (.await hact hex) (List.forall_mem_cons.mpr ⟨hev, hsafe⟩)

/-- The rule of a handler for exceptions: what the program ends with decides whether it runs.
Induction on the program. -/
theorem Ensures.catchError {p : Prog σ ε α} {g : ε → Prog σ ε α} {s : S}
    {Q : Except ε α → S → Prop}
    (hp : Ensures h safe p s fun x s₁ =>
      match x with
      | .ok a => Q (.ok a) s₁
      | .error e => Ensures h safe (g e) s₁ Q) :
    Ensures h safe (p.catchError g) s Q := by
  induction p generalizing s with
  | pure a => exact Ensures.pure (hp [] (.ok a) s (.pure a s) (by simp))
  | throw e => exact hp [] (.error e) s (.throw e s) (by simp)
  | await op k ih =>
    refine Ensures.await fun ans r s₁ hact hev => ih r ?_
    intro tr x s' hex hsafe
    exact hp _ _ _ (.await hact hex) (List.forall_mem_cons.mpr ⟨hev, hsafe⟩)

/-- A synchronous computation leaves the state alone. -/
theorem Ensures.ofExcept {x : Except ε α} {s : S} {Q : Except ε α → S → Prop} (hq : Q x s) :
    Ensures h safe (Prog.ofExcept x) s Q := by
  cases x with
  | ok a => exact Ensures.pure hq
  | error e => exact Ensures.throw hq

/-- A program whose requests all keep `I` keeps `I`. -/
theorem Ensures.of_uses {allowed : σ.Op → Prop} {I : S → Prop} {p : Prog σ ε α} {s : S}
    (hp : p.Uses allowed)
    (hkeep : ∀ op ans s r s₁, allowed op → I s → h.act op ans s = some (r, s₁) → I s₁)
    (hs : I s) : Ensures h safe p s fun _ s' => I s' := by
  induction p generalizing s with
  | pure a => exact Ensures.pure hs
  | throw e => exact Ensures.throw hs
  | await op k ih =>
    obtain ⟨hop, hk⟩ := (Prog.uses_await op k).mp hp
    exact Ensures.await fun ans r s₁ hact _ => ih r (hk r) (hkeep op ans s r s₁ hop hs hact)

end Ensures

/-! ## Calls run one at a time

Each call runs from its first request to its last before the next begins. The condition may speak of
the whole trace of a call. -/

/-- The states reached from `s₀` by calls run one at a time, each a complete run that meets
`safe`. `ghost` updates a value that only the proofs carry. -/
inductive Runs (h : Handler σ S A) (prog : C → Prog σ ε α)
    (safe : C → S → List (Event σ S A) → G → Prop)
    (ghost : C → S → List (Event σ S A) → S → G → G) (s₀ : S) (g₀ : G) : S → G → Prop where
  | start : Runs h prog safe ghost s₀ g₀ s₀ g₀
  | call {s s' : S} {g : G} {c : C} {tr : List (Event σ S A)} {x : Except ε α}
      (hrun : Runs h prog safe ghost s₀ g₀ s g) (hexec : Exec h (prog c) s tr x s')
      (hsafe : safe c s tr g) : Runs h prog safe ghost s₀ g₀ s' (ghost c s tr s' g)

section Runs

variable {h : Handler σ S A} {prog : C → Prog σ ε α}
  {safe : C → S → List (Event σ S A) → G → Prop}
  {ghost : C → S → List (Event σ S A) → S → G → G} {s₀ : S} {g₀ : G}

/-- What every safe call preserves holds of every state reached. -/
theorem Runs.invariant {I : S → G → Prop} (hinit : I s₀ g₀)
    (hstep : ∀ c s g tr x s', I s g → safe c s tr g → Exec h (prog c) s tr x s' →
      I s' (ghost c s tr s' g))
    {s : S} {g : G} (hrun : Runs h prog safe ghost s₀ g₀ s g) : I s g := by
  induction hrun with
  | start => exact hinit
  | call _ hexec hsafe ih => exact hstep _ _ _ _ _ _ ih hsafe hexec

end Runs

/-! ## Evaluation -/

/-- Run `p` with the listed answers, and with `default` where the list has run out. `none` when
the handler refuses an answer. -/
def run [Inhabited A] (h : Handler σ S A) :
    Prog σ ε α → List A → S → Option (List (Event σ S A) × Except ε α × S)
  | .pure a, _, s => some ([], .ok a, s)
  | .throw e, _, s => some ([], .error e, s)
  | .await op k, answers, s =>
    match h.act op answers.head! s with
    | none => none
    | some (r, s₁) =>
      match run h (k r) answers.tail s₁ with
      | none => none
      | some (tr, x, s') => some (⟨s, op, answers.head!⟩ :: tr, x, s')

/-- What `run` computes is a complete run. -/
theorem exec_of_run [Inhabited A] {h : Handler σ S A} {p : Prog σ ε α} {answers : List A}
    {s s' : S} {tr : List (Event σ S A)} {x : Except ε α}
    (hrun : run h p answers s = some (tr, x, s')) : Exec h p s tr x s' := by
  induction p generalizing answers s tr with
  | pure a =>
    simp only [run, Option.some.injEq, Prod.mk.injEq] at hrun
    obtain ⟨rfl, rfl, rfl⟩ := hrun
    exact .pure a s
  | throw e =>
    simp only [run, Option.some.injEq, Prod.mk.injEq] at hrun
    obtain ⟨rfl, rfl, rfl⟩ := hrun
    exact .throw e s
  | await op k ih =>
    simp only [run] at hrun
    cases hact : h.act op answers.head! s with
    -- a request that is not served computes nothing
    | none => simp [hact] at hrun
    | some rs =>
      obtain ⟨r, s₁⟩ := rs
      simp only [hact] at hrun
      cases hk : run h (k r) answers.tail s₁ with
      | none => simp [hk] at hrun
      | some res =>
        obtain ⟨tr₁, x₁, s₂⟩ := res
        simp only [hk, Option.some.injEq, Prod.mk.injEq] at hrun
        obtain ⟨rfl, rfl, rfl⟩ := hrun
        exact .await hact (ih r hk)

/-- Run the listed calls one after the other, each with its own answers, as long as each passes the
check. -/
def runChecked [Inhabited A] (h : Handler σ S A) (prog : C → Prog σ ε α)
    (check : C → S → List (Event σ S A) → G → Bool)
    (ghost : C → S → List (Event σ S A) → S → G → G) :
    List (C × List A) → S → G → Option (S × G)
  | [], s, g => some (s, g)
  | (c, answers) :: rest, s, g =>
    match run h (prog c) answers s with
    | none => none
    | some (tr, _, s') =>
      if check c s tr g then runChecked h prog check ghost rest s' (ghost c s tr s' g) else none

/-- The same without a check. -/
abbrev runCalls [Inhabited A] (h : Handler σ S A) (prog : C → Prog σ ε α)
    (ghost : C → S → List (Event σ S A) → S → G → G) :
    List (C × List A) → S → G → Option (S × G) :=
  runChecked h prog (fun _ _ _ _ => true) ghost

section Checked

variable {h : Handler σ S A} {prog : C → Prog σ ε α}
  {safe : C → S → List (Event σ S A) → G → Prop} {check : C → S → List (Event σ S A) → G → Bool}
  {ghost : C → S → List (Event σ S A) → S → G → G} {s₀ : S} {g₀ : G}

/-- What `runChecked` computes is reached, by calls that are safe when the check says so. -/
theorem runs_of_runChecked [Inhabited A]
    (hcheck : ∀ c s tr g, check c s tr g = true → safe c s tr g)
    {calls : List (C × List A)} {s s' : S} {g g' : G}
    (hreach : Runs h prog safe ghost s₀ g₀ s g)
    (hrun : runChecked h prog check ghost calls s g = some (s', g')) :
    Runs h prog safe ghost s₀ g₀ s' g' := by
  induction calls generalizing s g with
  | nil =>
    simp only [runChecked, Option.some.injEq, Prod.mk.injEq] at hrun
    obtain ⟨rfl, rfl⟩ := hrun
    exact hreach
  -- the first call runs alone, its check has passed, and the rest goes on from the state it leaves
  | cons call rest ih =>
    obtain ⟨c, answers⟩ := call
    simp only [runChecked] at hrun
    cases hcall : run h (prog c) answers s with
    | none => simp [hcall] at hrun
    | some res =>
      obtain ⟨tr, x, s₁⟩ := res
      simp only [hcall, Option.ite_none_right_eq_some] at hrun
      exact ih (.call hreach (exec_of_run hcall) (hcheck c s tr g hrun.1)) hrun.2

/-- A property that evaluation finds at the end of some checked calls holds of a state they reach. -/
theorem exists_runs_of_runChecked [Inhabited A]
    (hcheck : ∀ c s tr g, check c s tr g = true → safe c s tr g)
    (calls : List (C × List A)) (p : S → G → Bool)
    (hrun : (runChecked h prog check ghost calls s₀ g₀).any (fun q => p q.1 q.2) = true) :
    ∃ s g, Runs h prog safe ghost s₀ g₀ s g ∧ p s g = true := by
  obtain ⟨⟨s, g⟩, hcalls, hp⟩ := (Option.any_eq_true _ _).mp hrun
  exact ⟨s, g, runs_of_runChecked hcheck .start hcalls, hp⟩

/-- The same for calls that may go in any way. -/
theorem exists_runs_of_runCalls [Inhabited A] (calls : List (C × List A)) (p : S → G → Bool)
    (hrun : (runCalls h prog ghost calls s₀ g₀).any (fun q => p q.1 q.2) = true) :
    ∃ s g, Runs h prog (fun _ _ _ _ => True) ghost s₀ g₀ s g ∧ p s g = true :=
  exists_runs_of_runChecked (fun _ _ _ _ _ => trivial) calls p hrun

end Checked

/-- A property that evaluation finds at the end of one run holds of a state it reaches. -/
theorem exists_exec_of_run [Inhabited A] {h : Handler σ S A} {p : Prog σ ε α} {s : S}
    (answers : List A) (q : List (Event σ S A) → Except ε α → S → Bool)
    (hrun : (run h p answers s).any (fun r => q r.1 r.2.1 r.2.2) = true) :
    ∃ tr x s', Exec h p s tr x s' ∧ q tr x s' = true := by
  obtain ⟨⟨tr, x, s'⟩, hres, hq⟩ := (Option.any_eq_true _ _).mp hrun
  exact ⟨tr, x, s', exec_of_run hres, hq⟩

end Process
