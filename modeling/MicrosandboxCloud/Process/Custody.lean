import Mathlib.Data.Multiset.Filter
import MicrosandboxCloud.Process.Refine

/-!
# Process — programs that hold resources

A request may open a resource, which its reply names; others use one, and the last of these closes
it.

* **`Custody`** — which requests do what. `held` is what a transcript has opened and not closed.
* **`Keeps` / `Releases`** — a program uses only what it holds, and ends holding what it held before,
  or all but one. The rules follow the program.
* **`Pool.Run.custody`** — if every program keeps to this and resources are new when opened, then in
  every interleaving each is used by the program that opened it alone, and never after it was closed;
  and a program that has ended has closed all it opened.
-/

namespace Process

variable {σ τ : Signature} {S A ε α β ι ρ : Type}

/-- Which requests open a resource, which use one, and which of these close it. -/
structure Custody (σ : Signature) (ρ : Type) where
  opens : (op : σ.Op) → σ.Reply op → Option ρ
  uses : σ.Op → Option ρ
  closes : σ.Op → Bool
  opens_eq_none : ∀ op r, uses op ≠ none → opens op r = none

namespace Custody

variable (κ : Custody σ ρ)

/-! ## Transcripts

What a program holds is read off its transcript: a request may open something, use it, and close it
by using it for the last time. -/

/-- The program has opened it. -/
def OpenedIn (t : Transcript σ) (x : ρ) : Prop := ∃ e ∈ t, κ.opens e.1 e.2 = some x

/-- The program has made a request that closes it. -/
def ClosedIn (t : Transcript σ) (x : ρ) : Prop :=
  ∃ e ∈ t, κ.uses e.1 = some x ∧ κ.closes e.1 = true

section Snoc

variable {κ} {t : Transcript σ} {op : σ.Op} {r : σ.Reply op} {x : ρ}

/-- What was opened before, or by the last request. -/
theorem openedIn_snoc :
    κ.OpenedIn (t ++ [⟨op, r⟩]) x ↔ κ.OpenedIn t x ∨ κ.opens op r = some x := by
  simp only [OpenedIn, List.mem_append, List.mem_singleton, or_and_right, exists_or,
    exists_eq_left]

/-- What was closed before, or by the last request. -/
theorem closedIn_snoc : κ.ClosedIn (t ++ [⟨op, r⟩]) x ↔
    κ.ClosedIn t x ∨ (κ.uses op = some x ∧ κ.closes op = true) := by
  simp only [ClosedIn, List.mem_append, List.mem_singleton, or_and_right, exists_or,
    exists_eq_left]

end Snoc

variable [DecidableEq ρ]

/-- What is held after a request, of what was held before. -/
def hold (held : Multiset ρ) (e : Σ op : σ.Op, σ.Reply op) : Multiset ρ :=
  match κ.uses e.1 with
  | some x => if κ.closes e.1 then held.erase x else held
  | none =>
    match κ.opens e.1 e.2 with
    | some x => x ::ₘ held
    | none => held

/-- What the program holds, as often as it has opened it and not closed it. -/
def held (t : Transcript σ) : Multiset ρ := t.foldl κ.hold 0

theorem held_snoc (t : Transcript σ) (e : Σ op : σ.Op, σ.Reply op) :
    κ.held (t ++ [e]) = κ.hold (κ.held t) e := by
  rw [held, List.foldl_append]
  rfl

/-- A request may use what is held. -/
def Allows (t : Transcript σ) (op : σ.Op) : Prop := ∀ x, κ.uses op = some x → x ∈ κ.held t

/-! ## Programs

`Keeps P p` says that `p` holds in the end what it held at its start, and uses nothing but what
satisfies `P` or what it opens itself; `Releases x p` that it uses and closes `x`. Both compose
along the program, so that a function is checked once, whatever its caller holds. -/

/-- Where `P` is held, the program uses this and what it opens itself, and ends holding the same. -/
def Keeps (P : ρ → Prop) (p : Prog σ ε α) : Prop :=
  ∀ t, (∀ x, P x → x ∈ κ.held t) → p.Follows κ.Allows (fun u _ => κ.held u = κ.held t) t

/-- The program gives up `x`, which it holds. -/
def Releases (x : ρ) (p : Prog σ ε α) : Prop :=
  ∀ t, x ∈ κ.held t → p.Follows κ.Allows (fun u _ => κ.held u = (κ.held t).erase x) t

variable {κ}

section Rules

variable {P Q : ρ → Prop} {x : ρ}

theorem Keeps.pure (a : α) : κ.Keeps P (.pure a : Prog σ ε α) := fun _ _ => Prog.Follows.pure rfl

theorem Keeps.throw (e : ε) : κ.Keeps P (.throw e : Prog σ ε α) := fun _ _ => Prog.Follows.throw rfl

theorem Keeps.ofExcept (y : Except ε α) : κ.Keeps P (Prog.ofExcept (σ := σ) y) :=
  fun _ _ => Prog.Follows.ofExcept rfl

/-- A program may be allowed to use more than it does. -/
theorem Keeps.mono {p : Prog σ ε α} (hp : κ.Keeps P p) (himp : ∀ x, P x → Q x) : κ.Keeps Q p :=
  fun t ht => hp t fun x hx => ht x (himp x hx)

theorem Keeps.bind {p : Prog σ ε β} {f : β → Prog σ ε α} (hp : κ.Keeps P p)
    (hf : ∀ b, κ.Keeps P (f b)) : κ.Keeps P (p >>= f) := by
  intro t ht
  have hfirst := hp t ht
  refine Prog.Follows.bind (hfirst.mono fun u y hu => ?_)
  cases y with
  | ok b =>
    have hheld : ∀ x, P x → x ∈ κ.held u := fun x hx => hu ▸ ht x hx
    exact (hf b u hheld).mono fun v _ hv => hv.trans hu
  | error e => exact hu

/-- A reply that is an exception ends the program; any other goes to the rest of it. -/
theorem Keeps.checked {p : Prog σ ε (Except ε β)} {f : β → Prog σ ε α} (hp : κ.Keeps P p)
    (hf : ∀ b, κ.Keeps P (f b)) : κ.Keeps P (p >>= fun r => Prog.ofExcept r >>= f) := by
  have hrest : ∀ r : Except ε β, κ.Keeps P (Prog.ofExcept r >>= f) := by
    intro r
    exact (Keeps.ofExcept r).bind hf
  exact hp.bind hrest

theorem Keeps.catchError {p : Prog σ ε α} {g : ε → Prog σ ε α} (hp : κ.Keeps P p)
    (hg : ∀ e, κ.Keeps P (g e)) : κ.Keeps P (p.catchError g) := by
  intro t ht
  have hbody := hp t ht
  refine Prog.Follows.catchError (hbody.mono fun u y hu => ?_)
  cases y with
  | ok a => exact hu
  | error e =>
    have hheld : ∀ x, P x → x ∈ κ.held u := fun x hx => hu ▸ ht x hx
    exact (hg e u hheld).mono fun v _ hv => hv.trans hu

/-- An exception that is caught and kept for later. -/
theorem Keeps.attempt {p : Prog σ ε α} (hp : κ.Keeps P p) : κ.Keeps P p.attempt :=
  fun t ht => (hp t ht).attempt.mono fun _ _ ⟨_, _, h⟩ => h

/-- A request that uses something held, or nothing, and neither opens nor closes. -/
theorem Keeps.request {op : σ.Op} (huses : ∀ x, κ.uses op = some x → P x)
    (hcloses : κ.closes op = false) (hopens : ∀ r, κ.opens op r = none) :
    κ.Keeps P (Prog.request (ε := ε) op) := by
  refine fun t ht => Prog.Follows.await (fun x hx => ht x (huses x hx)) fun r => Prog.Follows.pure ?_
  rw [held_snoc, hold, hcloses, hopens r]
  split <;> rfl

/-- An implemented program keeps what the implementations of its requests do. -/
theorem Keeps.implement {allowed : τ.Op → Prop} {impl : (op : τ.Op) → Prog σ ε (τ.Reply op)}
    {p : Prog τ ε α} (hp : p.Uses allowed) (himpl : ∀ op, allowed op → κ.Keeps P (impl op)) :
    κ.Keeps P (p.implement impl) := by
  induction p with
  | pure a => exact Keeps.pure a
  | throw e => exact Keeps.throw e
  | await op k ih =>
    obtain ⟨hop, hk⟩ := (Prog.uses_await op k).mp hp
    rw [Prog.implement_await]
    exact (himpl op hop).bind fun r => ih r (hk r)

/-- Opening: what was opened is given up by the rest of the program. -/
theorem Keeps.opening {op : σ.Op} {k : σ.Reply op → Prog σ ε α} (huses : κ.uses op = none)
    (hopened : ∀ r x, κ.opens op r = some x → κ.Releases x (k r))
    (hother : ∀ r, κ.opens op r = none → κ.Keeps P (k r)) :
    κ.Keeps P (Prog.request op >>= k) := by
  refine fun t ht => Prog.Follows.request (fun x hx => ?_) fun r => ?_
  · rw [huses] at hx
    cases hx
  · cases hopens : κ.opens op r with
    -- nothing was opened, so what is held has not changed
    | none =>
      have hheld : κ.held (t ++ [⟨op, r⟩]) = κ.held t := by
        rw [held_snoc, hold, huses]
        simp only [hopens]
      exact (hother r hopens _ fun x hx => hheld ▸ ht x hx).mono fun u _ hu => hu.trans hheld
    | some x =>
      have hheld : κ.held (t ++ [⟨op, r⟩]) = x ::ₘ κ.held t := by
        rw [held_snoc, hold, huses]
        simp only [hopens]
      refine (hopened r x hopens _ (hheld ▸ Multiset.mem_cons_self x _)).mono fun u _ hu => ?_
      rw [hu, hheld, Multiset.erase_cons_head]

/-- The body of a `try` whose `finally` gives up `x`. -/
theorem Releases.attempt {p : Prog σ ε β} {f : Except ε β → Prog σ ε α}
    (hp : κ.Keeps (· = x) p) (hf : ∀ y, κ.Releases x (f y)) : κ.Releases x (p.attempt >>= f) := by
  intro t hx
  have hattempt := (hp t fun z hz => hz ▸ hx).attempt
  refine Prog.Follows.bind (hattempt.mono fun u y hu => ?_)
  obtain ⟨z, rfl, hu⟩ := hu
  exact ((hf z) u (hu ▸ hx)).mono fun v _ hv => hv.trans (by rw [hu])

/-- Closing. -/
theorem Releases.closing {op : σ.Op} {k : σ.Reply op → Prog σ ε α} (huses : κ.uses op = some x)
    (hcloses : κ.closes op = true) (hk : ∀ r, κ.Keeps (fun _ => False) (k r)) :
    κ.Releases x (Prog.request op >>= k) := by
  refine fun t hx => Prog.Follows.request (fun z hz => ?_) fun r => ?_
  · rw [huses] at hz
    cases hz
    exact hx
  · have hheld : κ.held (t ++ [⟨op, r⟩]) = (κ.held t).erase x := by
      rw [held_snoc, hold, huses]
      exact if_pos hcloses
    exact ((hk r) _ fun _ h => h.elim).mono fun u _ hu => hu.trans hheld

end Rules

/-! ## Accounts

The account of a transcript: what is held is what was opened and not closed, each thing once. It
holds along every run in which nothing is opened twice. -/

variable (κ)

/-- What is held was opened and not closed, and once; what was closed was opened. -/
structure Accounts (t : Transcript σ) : Prop where
  mem_held : ∀ x, x ∈ κ.held t ↔ κ.OpenedIn t x ∧ ¬ κ.ClosedIn t x
  nodup : (κ.held t).Nodup
  opened : ∀ x, κ.ClosedIn t x → κ.OpenedIn t x

variable {κ}

section Accounts

variable {t : Transcript σ} {op : σ.Op} {r : σ.Reply op}

theorem Accounts.nil : κ.Accounts [] :=
  ⟨fun x => by simp [held, OpenedIn], Multiset.nodup_zero, fun x h => by simp [ClosedIn] at h⟩

/-- A request that neither opens nor closes leaves the account as it is. -/
theorem Accounts.of_same {u : Transcript σ} (h : κ.Accounts t) (hheld : κ.held u = κ.held t)
    (hopened : ∀ x, κ.OpenedIn u x ↔ κ.OpenedIn t x)
    (hclosed : ∀ x, κ.ClosedIn u x ↔ κ.ClosedIn t x) : κ.Accounts u where
  mem_held x := by
    rw [hheld, hopened, hclosed]
    exact h.mem_held x
  nodup := hheld ▸ h.nodup
  opened x hx := (hopened x).mpr (h.opened x ((hclosed x).mp hx))

/-- **One request.** The accounts are kept by what is allowed, if what it opens is new. -/
theorem Accounts.snoc (h : κ.Accounts t) (hallows : κ.Allows t op)
    (hnew : ∀ x, κ.opens op r = some x → ¬ κ.OpenedIn t x) : κ.Accounts (t ++ [⟨op, r⟩]) := by
  cases huses : κ.uses op with
  | some x =>
    -- a request that uses a resource opens none
    have hopens : κ.opens op r = none :=
      κ.opens_eq_none op r (huses ▸ Option.some_ne_none x)
    have hopened : ∀ z, κ.OpenedIn (t ++ [⟨op, r⟩]) z ↔ κ.OpenedIn t z := fun z => by
      rw [openedIn_snoc, hopens, or_iff_left (by simp)]
    have hx : x ∈ κ.held t := hallows x huses
    cases hcloses : κ.closes op with
    -- it uses the resource and keeps it
    | false =>
      have hclosed : ∀ z, κ.ClosedIn (t ++ [⟨op, r⟩]) z ↔ κ.ClosedIn t z := fun z => by
        rw [closedIn_snoc, hcloses, or_iff_left (by simp)]
      have hheld : κ.held (t ++ [⟨op, r⟩]) = κ.held t := by
        rw [held_snoc, hold, huses]
        simp only [hcloses, Bool.false_eq_true, if_false]
      exact h.of_same hheld hopened hclosed
    -- it closes the resource, which is held no longer
    | true =>
      have hclosed : ∀ z, κ.ClosedIn (t ++ [⟨op, r⟩]) z ↔ κ.ClosedIn t z ∨ z = x := fun z => by
        rw [closedIn_snoc, huses, hcloses, and_iff_left rfl, Option.some.injEq, eq_comm (a := x)]
      have hheld : κ.held (t ++ [⟨op, r⟩]) = (κ.held t).erase x := by
        rw [held_snoc, hold, huses]
        exact if_pos hcloses
      refine ⟨fun z => ?_, hheld ▸ h.nodup.erase x, fun z => ?_⟩
      · rw [hheld, h.nodup.mem_erase_iff, h.mem_held, hopened, hclosed, not_or]
        tauto
      · rw [hopened, hclosed]
        rintro (hz | rfl)
        · exact h.opened z hz
        · exact ((h.mem_held z).mp hx).1
  | none =>
    have hclosed : ∀ z, κ.ClosedIn (t ++ [⟨op, r⟩]) z ↔ κ.ClosedIn t z := fun z => by
      rw [closedIn_snoc, huses, or_iff_left (by simp)]
    cases hopens : κ.opens op r with
    | none =>
      have hopened : ∀ z, κ.OpenedIn (t ++ [⟨op, r⟩]) z ↔ κ.OpenedIn t z := fun z => by
        rw [openedIn_snoc, hopens, or_iff_left (by simp)]
      have hheld : κ.held (t ++ [⟨op, r⟩]) = κ.held t := by
        rw [held_snoc, hold, huses]
        simp only [hopens]
      exact h.of_same hheld hopened hclosed
    | some x =>
      have hopened : ∀ z, κ.OpenedIn (t ++ [⟨op, r⟩]) z ↔ κ.OpenedIn t z ∨ z = x := fun z => by
        rw [openedIn_snoc, hopens, Option.some.injEq, eq_comm (a := x)]
      have hheld : κ.held (t ++ [⟨op, r⟩]) = x ::ₘ κ.held t := by
        rw [held_snoc, hold, huses]
        simp only [hopens]
      -- what is opened is new, so it was neither opened nor closed before
      have hx : ¬ κ.OpenedIn t x := hnew x hopens
      refine ⟨fun z => ?_, ?_, fun z => ?_⟩
      · rw [hheld, Multiset.mem_cons, h.mem_held, hopened, hclosed]
        constructor
        · rintro (rfl | ⟨hz, hz'⟩)
          · exact ⟨Or.inr rfl, fun hz => hx (h.opened z hz)⟩
          · exact ⟨Or.inl hz, hz'⟩
        · rintro ⟨hz | rfl, hz'⟩
          · exact Or.inr ⟨hz, hz'⟩
          · exact Or.inl rfl
      · rw [hheld, Multiset.nodup_cons]
        exact ⟨fun hz => hx ((h.mem_held x).mp hz).1, h.nodup⟩
      · rw [hopened, hclosed]
        exact fun hz => Or.inl (h.opened z hz)

end Accounts

/-! ## Programs together

When the handler mints what it opens, two programs never hold the same thing. The ledger says for
all programs of a pool at once who has opened what, and is kept by every step. -/

/-- A resource that is opened is one that was never opened before. -/
structure Mints (κ : Custody σ ρ) (h : Handler σ S A) (minted : S → ρ → Prop) : Prop where
  opened : ∀ op a s r s' x, h.act op a s = some (r, s') → κ.opens op r = some x →
    ¬ minted s x ∧ minted s' x
  kept : ∀ op a s r s' x, h.act op a s = some (r, s') → minted s x → minted s' x

end Custody

open Custody

/-- What holds of the transcripts together: each is in order, what was opened was minted, and no
resource was opened by two programs. -/
structure Custody.Ledger [DecidableEq ι] [DecidableEq ρ] (κ : Custody σ ρ) (h : Handler σ S A)
    (minted : S → ρ → Prop) (tr : List (ι × Event σ S A)) (s : S) : Prop where
  accounts : ∀ i, κ.Accounts (Pool.transcript h i tr)
  minted : ∀ i x, κ.OpenedIn (Pool.transcript h i tr) x → minted s x
  owner : ∀ i j x, κ.OpenedIn (Pool.transcript h i tr) x → κ.OpenedIn (Pool.transcript h j tr) x →
    i = j

/-- One step of one of the programs: what it opens is new, and what it uses it holds. -/
theorem Custody.Ledger.step [DecidableEq ι] [DecidableEq ρ] {κ : Custody σ ρ} {h : Handler σ S A}
    {minted : S → ρ → Prop} (hmints : κ.Mints h minted) {tr : List (ι × Event σ S A)} {s s' : S}
    {i : ι} {op : σ.Op} {a : A} {r : σ.Reply op} (hledger : κ.Ledger h minted tr s)
    (hact : h.act op a s = some (r, s')) (hallows : κ.Allows (Pool.transcript h i tr) op) :
    κ.Ledger h minted (tr ++ [(i, ⟨s, op, a⟩)]) s' := by
  have hself : Pool.transcript h i (tr ++ [(i, ⟨s, op, a⟩)]) =
      Pool.transcript h i tr ++ [⟨op, r⟩] := Pool.transcript_self hact
  have hother : ∀ j, i ≠ j →
      Pool.transcript h j (tr ++ [(i, ⟨s, op, a⟩)]) = Pool.transcript h j tr :=
    fun j hj => Pool.transcript_other _ hj
  have hnew : ∀ x, κ.opens op r = some x → ∀ j, ¬ κ.OpenedIn (Pool.transcript h j tr) x :=
    fun x hx j hj => (hmints.opened op a s r s' x hact hx).1 (hledger.minted j x hj)
  -- who has opened a resource after the step
  have hopened : ∀ j x, κ.OpenedIn (Pool.transcript h j (tr ++ [(i, ⟨s, op, a⟩)])) x ↔
      κ.OpenedIn (Pool.transcript h j tr) x ∨ (j = i ∧ κ.opens op r = some x) := by
    intro j x
    by_cases hj : i = j
    · subst hj
      rw [hself, openedIn_snoc, and_iff_right rfl]
    · rw [hother j hj, or_iff_left (fun h => hj h.1.symm)]
  refine ⟨fun j => ?_, fun j x hx => ?_, fun j k x hj hk => ?_⟩
  · by_cases hj : i = j
    · subst hj
      rw [hself]
      exact (hledger.accounts i).snoc hallows fun x hx => hnew x hx i
    · rw [hother j hj]
      exact hledger.accounts j
  · rcases (hopened j x).mp hx with hx | ⟨-, hx⟩
    · exact hmints.kept op a s r s' x hact (hledger.minted j x hx)
    · exact (hmints.opened op a s r s' x hact hx).2
  · rcases (hopened j x).mp hj with hj | ⟨hji, hj⟩
    · rcases (hopened k x).mp hk with hk | ⟨-, hk⟩
      · exact hledger.owner j k x hj hk
      · exact absurd hj (hnew x hk j)
    · rcases (hopened k x).mp hk with hk | ⟨hki, -⟩
      · exact absurd hk (hnew x hj k)
      · exact hji.trans hki.symm

/-- **Custody.** If every program keeps to what it holds and resources are new when opened, then in
every interleaving a resource is used only by the program that opened it, and never once it was
closed; and a program that has ended has closed all that it opened. -/
theorem Pool.Run.custody [DecidableEq ι] [DecidableEq ρ] {κ : Custody σ ρ} {h : Handler σ S A}
    {minted : S → ρ → Prop} (hmints : κ.Mints h minted)
    {safe : List (ι × Event σ S A) → ι → Event σ S A → Prop} {c₀ c : Pool σ ε α S ι}
    {tr : List (ι × Event σ S A)} (hkeeps : ∀ i, κ.Keeps (fun _ => False) (c₀.thread i))
    (hrun : Pool.Run h safe c₀ tr c) :
    (∀ pre i ev rest x, tr = pre ++ (i, ev) :: rest → κ.uses ev.op = some x →
      κ.OpenedIn (Pool.transcript h i pre) x ∧ ¬ κ.ClosedIn (Pool.transcript h i pre) x ∧
        ∀ j, κ.OpenedIn (Pool.transcript h j pre) x → j = i) ∧
    ∀ i x, (c.thread i).outcome ≠ none → κ.OpenedIn (Pool.transcript h i tr) x →
      κ.ClosedIn (Pool.transcript h i tr) x := by
  -- nobody holds anything at the start
  have hfollows : ∀ i, (c₀.thread i).Follows κ.Allows (fun u _ => κ.held u = 0) [] :=
    fun i => hkeeps i [] fun _ h => h.elim
  obtain ⟨⟨hledger, hsteps⟩, -, hends⟩ := Pool.Run.every_step (J := κ.Ledger h minted)
    (P := fun pre i ev => ∀ x, κ.uses ev.op = some x →
      κ.OpenedIn (Pool.transcript h i pre) x ∧ ¬ κ.ClosedIn (Pool.transcript h i pre) x ∧
        ∀ j, κ.OpenedIn (Pool.transcript h j pre) x → j = i) hfollows
    ⟨fun i => Accounts.nil, fun i x hx => by simp [OpenedIn] at hx,
      fun i j x hx => by simp [OpenedIn] at hx⟩
    (fun tr s i op a r s' hledger _ _ hact hmay => by
      refine ⟨hledger.step hmints hact hmay, fun x hx => ?_⟩
      obtain ⟨hopened, hclosed⟩ := ((hledger.accounts i).mem_held x).mp (hmay x hx)
      exact ⟨hopened, hclosed, fun j hj => hledger.owner j i x hj hopened⟩) hrun
  refine ⟨fun pre i ev rest x htr hx => hsteps pre (i, ev) rest htr x hx, fun i x hended hx => ?_⟩
  obtain ⟨y, hy⟩ := Option.ne_none_iff_exists'.mp hended
  have hnone : κ.held (Pool.transcript h i tr) = 0 := (hends i).outcome hy
  -- a resource that was opened and not closed would still be held at the end
  by_contra hopen
  have hmem := ((hledger.accounts i).mem_held x).mpr ⟨hx, hopen⟩
  rw [hnone] at hmem
  exact absurd hmem (Multiset.notMem_zero x)

end Process
