import MicrosandboxCloud.Process.Exec
import MicrosandboxCloud.Process.Transcript

/-!
# Process — implementing requests by programs

A program over one signature becomes a program over another when each of its requests is carried
out by a program over the other.

* **`Prog.attempt`** — an exception as a value, so that a program can stand for a request whose
  reply may be one.
* **`Prog.implement`** — every request replaced by its implementation.
* **`Prog.Follows.implement`** — the rule of an implemented program, from that of the program.
* **`Prog.Expands`** — the transcript of an implemented program, request by request.
* **`Implements`** — an implementation does what a handler says its request does.
* **`Exec.of_implement`** — then a run of the implemented program is one of the program.
-/

namespace Process

variable {σ τ : Signature} {S T A B ε α β : Type}

namespace Prog

/-- Run `p` and return how it ended. -/
def attempt : Prog σ ε α → Prog σ ε (Except ε α)
  | .pure a => .pure (.ok a)
  | .throw e => .pure (.error e)
  | .await op k => .await op fun r => (k r).attempt

/-- Carry out every request of a program by the program that implements it. -/
def implement (impl : (op : σ.Op) → Prog τ ε (σ.Reply op)) : Prog σ ε α → Prog τ ε α
  | .pure a => .pure a
  | .throw e => .throw e
  | .await op k => impl op >>= fun r => (k r).implement impl

section Implement

variable {impl : (op : σ.Op) → Prog τ ε (σ.Reply op)}

@[simp] theorem implement_pure (a : α) : (Prog.pure a : Prog σ ε α).implement impl = .pure a := rfl

@[simp] theorem implement_throw (e : ε) :
    (Prog.throw e : Prog σ ε α).implement impl = .throw e := rfl

/-- A program that awaits is carried out request first. -/
theorem implement_await (op : σ.Op) (k : σ.Reply op → Prog σ ε α) :
    (Prog.await op k).implement impl = impl op >>= fun r => (k r).implement impl := rfl

/-- The same for a request written in front of its continuation. -/
theorem implement_request (op : σ.Op) (k : σ.Reply op → Prog σ ε α) :
    (Prog.request op >>= k).implement impl = impl op >>= fun r => (k r).implement impl := rfl

/-- To carry out one program after another is to carry out the two in turn. Induction on the first.
-/
theorem implement_bind (p : Prog σ ε α) (f : α → Prog σ ε β) :
    (p >>= f).implement impl = p.implement impl >>= fun a => (f a).implement impl := by
  induction p with
  | pure a => rfl
  | throw e => rfl
  | await op k ih =>
    rw [await_bind, implement_await, implement_await, bind_assoc]
    congr 1
    funext r
    exact ih r

/-- There is nothing to carry out in a synchronous computation. -/
theorem implement_ofExcept (x : Except ε α) :
    (Prog.ofExcept (σ := σ) x).implement impl = Prog.ofExcept x := by
  cases x <;> rfl

/-- An attempt asks for what the program does. -/
theorem Uses.attempt {allowed : σ.Op → Prop} {p : Prog σ ε α} (hp : p.Uses allowed) :
    p.attempt.Uses allowed := by
  induction p with
  | pure a => exact (uses_pure (Except.ok a)).mpr trivial
  | throw e => exact (uses_pure (Except.error e)).mpr trivial
  | await op k ih =>
    obtain ⟨hop, hk⟩ := (uses_await op k).mp hp
    exact (uses_await op _).mpr ⟨hop, fun r => ih r (hk r)⟩

/-- What the implementations of the requests may ask for, the implemented program may. -/
theorem Uses.implement {allowed : σ.Op → Prop} {allowed' : τ.Op → Prop} {p : Prog σ ε α}
    (hp : p.Uses allowed) (himpl : ∀ op, allowed op → (impl op).Uses allowed') :
    (p.implement impl).Uses allowed' := by
  induction p with
  | pure a => exact (uses_pure a).mpr trivial
  | throw e => exact (uses_throw e).mpr trivial
  | await op k ih =>
    obtain ⟨hop, hk⟩ := (uses_await op k).mp hp
    rw [implement_await]
    exact (himpl op hop).bind fun r => ih r (hk r)

end Implement

section Follow

variable {may : Transcript σ → σ.Op → Prop} {post : Transcript σ → Except ε α → Prop}
  {may' : Transcript τ → τ.Op → Prop} {post' : Transcript τ → Except ε β → Prop}
  {t : Transcript σ} {u : Transcript τ}

/-- An attempt keeps to the rule of the program, and returns how it ended. -/
theorem Follows.attempt {p : Prog σ ε α} (hp : p.Follows may post t) :
    p.attempt.Follows may (fun t y => ∃ x, y = .ok x ∧ post t x) t := by
  induction p generalizing t with
  | pure a => exact Follows.pure ⟨_, rfl, Follows.outcome hp rfl⟩
  | throw e => exact Follows.pure ⟨_, rfl, Follows.outcome hp rfl⟩
  | await op k ih =>
    exact follows_await.mpr fun r =>
      ⟨(follows_await.mp hp r).1, ih r (follows_await.mp hp r).2⟩

/-- The rule for an implemented program. `rel` ties its transcript to that of the program. -/
theorem Follows.implement [∀ op, Nonempty (σ.Reply op)] {impl : (op : σ.Op) → Prog τ ε (σ.Reply op)}
    {rel : Transcript σ → Transcript τ → Prop} {p : Prog σ ε α} {k : α → Prog τ ε β}
    (hp : p.Follows may post t) (hrel : rel t u)
    (himpl : ∀ t u op (k : σ.Reply op → Prog τ ε β), may t op → rel t u →
      (∀ r u', rel (t ++ [⟨op, r⟩]) u' → (k r).Follows may' post' u') →
        (impl op >>= k).Follows may' post' u)
    (hk : ∀ t u a, rel t u → post t (.ok a) → (k a).Follows may' post' u)
    (herror : ∀ t u e, rel t u → post t (.error e) → post' u (.error e)) :
    (p.implement impl >>= k).Follows may' post' u := by
  induction p generalizing t u with
  | pure a => exact hk t u a hrel (Follows.outcome hp rfl)
  | throw e => exact Follows.throw (herror t u e hrel (Follows.outcome hp rfl))
  | await op q ih =>
    have hop : may t op := (follows_await.mp hp (Classical.arbitrary _)).1
    rw [implement_await, bind_assoc]
    exact himpl t u op _ hop hrel fun r u' hrel' => ih r (follows_await.mp hp r).2 hrel'

end Follow

/-- `u` consists of the transcripts of the programs that carried out the requests in `t`. -/
inductive Expands (impl : (op : σ.Op) → Prog τ ε (σ.Reply op)) :
    Transcript σ → Transcript τ → Prop where
  | nil : Expands impl [] []
  | cons {op : σ.Op} {r : σ.Reply op} {t : Transcript σ} {w u : Transcript τ}
      (hop : (impl op).Ends w (.ok r)) (hrest : Expands impl t u) :
      Expands impl (⟨op, r⟩ :: t) (w ++ u)

section Expands

variable {impl : (op : σ.Op) → Prog τ ε (σ.Reply op)} {t : Transcript σ} {u : Transcript τ}

/-- What an implemented program returns, the program returns on the replies of its requests. -/
theorem Ends.of_implement {p : Prog σ ε α} {a : α} (h : (p.implement impl).Ends u (.ok a)) :
    ∃ t, p.Ends t (.ok a) ∧ Expands impl t u := by
  induction p generalizing u with
  | pure b =>
    obtain ⟨rfl, hb⟩ := ends_pure.mp h
    cases hb
    exact ⟨[], .pure a, .nil⟩
  | throw e =>
    obtain ⟨-, he⟩ := ends_throw.mp h
    cases he
  | await op k ih =>
    obtain ⟨w, u', r, rfl, hop, hrest⟩ := Ends.of_bind h
    obtain ⟨t, hends, hexpands⟩ := ih r hrest
    exact ⟨⟨op, r⟩ :: t, .await hends, .cons hop hexpands⟩

/-- The transcript of each request is a stretch of the whole. -/
theorem Expands.stretch (h : Expands impl t u) {e : Σ op : σ.Op, σ.Reply op} (he : e ∈ t) :
    ∃ w, w <:+: u ∧ (impl e.1).Ends w (.ok e.2) := by
  induction h with
  | nil => exact absurd he List.not_mem_nil
  | @cons op r t w u hop _ ih =>
    rcases List.mem_cons.mp he with rfl | he
    · exact ⟨w, (List.prefix_append w u).isInfix, hop⟩
    · obtain ⟨w', hpart, hends⟩ := ih he
      exact ⟨w', hpart.trans (List.suffix_append w u).isInfix, hends⟩

/-- What was asked for was asked for by the program of some request. -/
theorem Expands.source (h : Expands impl t u) {e : Σ op : τ.Op, τ.Reply op} (he : e ∈ u) :
    ∃ e' ∈ t, ∃ w, (impl e'.1).Ends w (.ok e'.2) ∧ e ∈ w := by
  induction h with
  | nil => exact absurd he List.not_mem_nil
  | @cons op r t w u hop _ ih =>
    rcases List.mem_append.mp he with he | he
    · exact ⟨_, List.mem_cons_self, w, hop, he⟩
    · obtain ⟨e', he', w', hends, hmem⟩ := ih he
      exact ⟨e', List.mem_cons_of_mem _ he', w', hends, hmem⟩

end Expands

end Prog

/-- The attempt returns how the program ended. -/
theorem Exec.of_attempt {h : Handler σ S A} {p : Prog σ ε α} {s s' : S} {tr : List (Event σ S A)}
    {x : Except ε (Except ε α)} (hexec : Exec h p.attempt s tr x s') :
    ∃ y, x = .ok y ∧ Exec h p s tr y s' := by
  induction p generalizing s tr with
  | pure a =>
    cases hexec
    exact ⟨.ok a, rfl, .pure a s'⟩
  | throw e =>
    cases hexec
    exact ⟨.error e, rfl, .throw e s'⟩
  | await op k ih =>
    cases hexec with
    | await hact hrest =>
      obtain ⟨y, rfl, hk⟩ := ih _ hrest
      exact ⟨y, rfl, .await hact hk⟩

/-- Seen through `abs`, a run of the implementation of a request returns, and is one step of the
handler. -/
def Implements (h : Handler τ T B) (h' : Handler σ S A)
    (impl : (op : σ.Op) → Prog τ ε (σ.Reply op)) (abs : T → S) : Prop :=
  ∀ op t tr x t', Exec h (impl op) t tr x t' →
    ∃ r a, x = .ok r ∧ h'.act op a (abs t) = some (r, abs t')

/-- Seen through `abs`, a run of the implemented program is a run of the program. Induction on the
program. -/
theorem Exec.of_implement {h : Handler τ T B} {h' : Handler σ S A}
    {impl : (op : σ.Op) → Prog τ ε (σ.Reply op)} {abs : T → S} (himpl : Implements h h' impl abs)
    {p : Prog σ ε α} {t t' : T} {tr : List (Event τ T B)} {x : Except ε α}
    (hexec : Exec h (p.implement impl) t tr x t') : ∃ tr', Exec h' p (abs t) tr' x (abs t') := by
  induction p generalizing t tr with
  | pure a =>
    cases hexec
    exact ⟨[], .pure a _⟩
  | throw e =>
    cases hexec
    exact ⟨[], .throw e _⟩
  | await op k ih =>
    -- the implementation of one request is a run of its own, which acts as one step seen through
    -- `abs`
    rcases hexec.of_bind with ⟨r, t₁, tr₁, tr₂, -, hop, hrest⟩ | ⟨e, rfl, hop⟩
    · obtain ⟨r', a, hr, hact⟩ := himpl op _ _ _ _ hop
      cases hr
      obtain ⟨tr', hk⟩ := ih r hrest
      exact ⟨_, .await hact hk⟩
    · obtain ⟨r', a, hr, -⟩ := himpl op _ _ _ _ hop
      cases hr

end Process
