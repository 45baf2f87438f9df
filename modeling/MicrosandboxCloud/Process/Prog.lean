import Mathlib.Logic.Function.Basic

/-!
# Process — resumable programs over awaited requests

An `async` function is a tree: it ends with a value, ends with an exception, or awaits one
request and goes on with the reply. Nothing here says what a request means; `Exec.lean` runs a
program alone against a shared state and `Pool.lean` interleaves many of them.

* **`Prog σ ε α`** — a program over the signature `σ`, throwing `ε`, returning `α`.
* **`Prog.bind` / `Prog.catchError`** — sequencing and `try … catch`, as a monad instance, so
  that models are written with `do`.
* **`Prog.Uses`** — every request a program can issue, whatever the replies, is allowed.
* **`Prog.Propagates`** — the replies marked fatal end the program with an exception.
* **`Prog.Conforms`** — a program follows a small control automaton (a *typestate*); the
  automaton is what the interleaving proofs reason about.
-/

namespace Process

/-- The requests a program can await, and the type of the reply to each. -/
structure Signature where
  Op : Type
  Reply : Op → Type

/-- A resumable program: a value, an exception, or one awaited request and its continuation. -/
inductive Prog (σ : Signature) (ε α : Type) : Type where
  | pure (a : α)
  | throw (e : ε)
  | await (op : σ.Op) (k : σ.Reply op → Prog σ ε α)

namespace Prog

variable {σ : Signature} {ε α β γ : Type}

/-- Sequencing: the exception of the first program skips the second. -/
def bind : Prog σ ε α → (α → Prog σ ε β) → Prog σ ε β
  | .pure a, f => f a
  | .throw e, _ => .throw e
  | .await op k, f => .await op fun r => (k r).bind f

/-- `try p catch g`. -/
def catchError : Prog σ ε α → (ε → Prog σ ε α) → Prog σ ε α
  | .pure a, _ => .pure a
  | .throw e, g => g e
  | .await op k, g => .await op fun r => (k r).catchError g

instance : Monad (Prog σ ε) where
  pure := .pure
  bind := bind

instance : MonadExceptOf ε (Prog σ ε) where
  throw := .throw
  tryCatch := catchError

/-- Await one request and return its reply. -/
def request (op : σ.Op) : Prog σ ε (σ.Reply op) := .await op .pure

/-- A synchronous computation that may throw. -/
def ofExcept : Except ε α → Prog σ ε α
  | .ok a => .pure a
  | .error e => .throw e

/-! ## Equations of the monad

The operations of `do` notation compute by their constructors, so that a program is unfolded by
`simp` and by `rfl`. -/

/-- `return` is the constructor. -/
@[simp] theorem pure_eq (a : α) : (Pure.pure a : Prog σ ε α) = .pure a := rfl

/-- `throw` is the constructor. -/
@[simp] theorem throw_eq (e : ε) : (MonadExcept.throw e : Prog σ ε α) = .throw e := rfl

/-- `throw` with the exception type given. -/
@[simp] theorem throwThe_eq (e : ε) : (throwThe ε e : Prog σ ε α) = .throw e := rfl

/-- `try … catch` is `catchError`, which follows the program to its end. -/
@[simp] theorem tryCatch_eq (p : Prog σ ε α) (g : ε → Prog σ ε α) :
    (tryCatch p g : Prog σ ε α) = p.catchError g := rfl

/-- What is returned is passed on. -/
@[simp] theorem pure_bind (a : α) (f : α → Prog σ ε β) : (Prog.pure a >>= f) = f a := rfl

/-- After an exception nothing runs. -/
@[simp] theorem throw_bind (e : ε) (f : α → Prog σ ε β) : (Prog.throw e >>= f) = .throw e := rfl

/-- A program that waits goes on waiting: the rest is put behind the reply. -/
@[simp] theorem await_bind (op : σ.Op) (k : σ.Reply op → Prog σ ε α) (f : α → Prog σ ε β) :
    (Prog.await op k >>= f) = .await op fun r => k r >>= f := rfl

/-- One request and what follows it. -/
@[simp] theorem request_bind (op : σ.Op) (f : σ.Reply op → Prog σ ε β) :
    (request op >>= f) = .await op f := rfl

/-- A synchronous computation that returns. -/
@[simp] theorem ofExcept_ok (a : α) : (ofExcept (.ok a) : Prog σ ε α) = .pure a := rfl

/-- A synchronous computation that throws. -/
@[simp] theorem ofExcept_error (e : ε) : (ofExcept (.error e) : Prog σ ε α) = .throw e := rfl

/-- Sequencing is associative. Induction on the first program; the law lets proofs bring its first
request to the front. -/
theorem bind_assoc (p : Prog σ ε α) (f : α → Prog σ ε β) (g : β → Prog σ ε γ) :
    (p >>= f >>= g) = (p >>= fun a => f a >>= g) := by
  induction p with
  | pure a => rfl
  | throw e => rfl
  | await op k ih =>
    simp only [await_bind]
    congr 1
    funext r
    exact ih r

/-- Returning the value at the end changes nothing. Induction on the program. -/
theorem bind_pure (p : Prog σ ε α) : (p >>= fun a => Prog.pure a) = p := by
  induction p with
  | pure a => rfl
  | throw e => rfl
  | await op k ih =>
    rw [await_bind]
    congr 1
    funext r
    exact ih r

/-! ## What a program may ask for

The weakest property of a program: every request it can make, whatever it was answered before, is
among those allowed. The rules follow the program. -/

/-- Every request `p` can issue, whatever it is answered, satisfies `allowed`. -/
def Uses (allowed : σ.Op → Prop) : Prog σ ε α → Prop
  | .pure _ => True
  | .throw _ => True
  | .await op k => allowed op ∧ ∀ r, (k r).Uses allowed

section Uses

variable {allowed : σ.Op → Prop}

/-- An ended program asks for nothing. -/
@[simp] theorem uses_pure (a : α) : (Prog.pure a : Prog σ ε α).Uses allowed ↔ True := Iff.rfl

/-- Nor does one that has thrown. -/
@[simp] theorem uses_throw (e : ε) : (Prog.throw e : Prog σ ε α).Uses allowed ↔ True := Iff.rfl

/-- The request is allowed, and so is everything after each reply. -/
@[simp] theorem uses_await (op : σ.Op) (k : σ.Reply op → Prog σ ε α) :
    (Prog.await op k).Uses allowed ↔ allowed op ∧ ∀ r, (k r).Uses allowed := Iff.rfl

theorem Uses.bind {p : Prog σ ε α} {f : α → Prog σ ε β}
    (hp : p.Uses allowed) (hf : ∀ a, (f a).Uses allowed) : (p >>= f).Uses allowed := by
  induction p with
  | pure a => exact hf a
  | throw e => trivial
  | await op k ih => exact ⟨hp.1, fun r => ih r (hp.2 r)⟩

/-- What a sequence may ask for, its first program may. -/
theorem Uses.of_bind {p : Prog σ ε α} {f : α → Prog σ ε β} (h : (p >>= f).Uses allowed) :
    p.Uses allowed := by
  induction p with
  | pure a => exact (uses_pure a).mpr trivial
  | throw e => exact (uses_throw e).mpr trivial
  | await op k ih =>
    obtain ⟨hop, hk⟩ := (uses_await op _).mp h
    exact (uses_await op k).mpr ⟨hop, fun r => ih r (hk r)⟩

theorem Uses.catchError {p : Prog σ ε α} {g : ε → Prog σ ε α}
    (hp : p.Uses allowed) (hg : ∀ e, (g e).Uses allowed) : (p.catchError g).Uses allowed := by
  induction p with
  | pure a => trivial
  | throw e => exact hg e
  | await op k ih => exact ⟨hp.1, fun r => ih r (hp.2 r)⟩

theorem Uses.ofExcept (x : Except ε α) : (Prog.ofExcept (σ := σ) x).Uses allowed := by
  cases x <;> trivial

theorem Uses.request {op : σ.Op} (h : allowed op) :
    (Prog.request (ε := ε) op).Uses allowed :=
  ⟨h, fun _ => trivial⟩

theorem uses_all (p : Prog σ ε α) : p.Uses fun _ => True := by
  induction p with
  | pure a => trivial
  | throw e => trivial
  | await op k ih => exact (uses_await op k).mpr ⟨trivial, ih⟩

theorem Uses.mono {allowed' : σ.Op → Prop} {p : Prog σ ε α} (hp : p.Uses allowed)
    (himp : ∀ op, allowed op → allowed' op) : p.Uses allowed' := by
  induction p with
  | pure a => trivial
  | throw e => trivial
  | await op k ih => exact ⟨himp op hp.1, fun r => ih r (hp.2 r)⟩

end Uses

/-! ## Fatal replies

Some replies are failures that a program has to pass on: right after one it throws. No handler of its
own has caught it then, and in a sequence what follows is not reached. -/

/-- Wherever a reply is fatal the program ends there and then, with an exception. -/
def Propagates (fatal : (op : σ.Op) → σ.Reply op → Prop) : Prog σ ε α → Prop
  | .pure _ => True
  | .throw _ => True
  | .await op k => ∀ r, (k r).Propagates fatal ∧ (fatal op r → ∃ e, k r = .throw e)

section Propagates

variable {fatal : (op : σ.Op) → σ.Reply op → Prop}

/-- An ended program has nothing to propagate. -/
@[simp] theorem propagates_pure (a : α) :
    (Prog.pure a : Prog σ ε α).Propagates fatal ↔ True := Iff.rfl

/-- Nor has one that has thrown. -/
@[simp] theorem propagates_throw (e : ε) :
    (Prog.throw e : Prog σ ε α).Propagates fatal ↔ True := Iff.rfl

/-- After a fatal reply the program is a `throw`, and after any other it still propagates. -/
@[simp] theorem propagates_await (op : σ.Op) (k : σ.Reply op → Prog σ ε α) :
    (Prog.await op k).Propagates fatal ↔
      ∀ r, (k r).Propagates fatal ∧ (fatal op r → ∃ e, k r = .throw e) := Iff.rfl

/-- What follows in a sequence is not reached after a `throw`. -/
theorem Propagates.bind {p : Prog σ ε α} {f : α → Prog σ ε β}
    (hp : p.Propagates fatal) (hf : ∀ a, (f a).Propagates fatal) : (p >>= f).Propagates fatal := by
  induction p with
  | pure a => exact hf a
  | throw e => trivial
  | await op k ih =>
    intro r
    refine ⟨ih r (hp r).1, fun hr => ?_⟩
    obtain ⟨e, he⟩ := (hp r).2 hr
    exact ⟨e, congrArg (· >>= f) he⟩

/-- A program that never gets a fatal reply. -/
theorem Uses.propagates {p : Prog σ ε α} (hp : p.Uses fun op => ∀ r, ¬ fatal op r) :
    p.Propagates fatal := by
  induction p with
  | pure a => trivial
  | throw e => trivial
  | await op k ih => exact fun r => ⟨ih r (hp.2 r), fun hr => absurd hr (hp.1 r)⟩

end Propagates

/-! ## Typestate

A program is checked against an automaton: `next` says which requests may be made in a state and
where each reply leads, and `post` says in which states it may end. What the program needs to
remember of its past is the state. -/

/-- `p` follows the automaton `next` from the control state `q`: each reply to each request it
issues is a transition of the automaton, and where `p` ends, `post` relates the control state
reached to the outcome. -/
def Conforms {Q : Type} (next : Q → (op : σ.Op) → σ.Reply op → Q → Prop)
    (post : Q → Except ε α → Prop) : Q → Prog σ ε α → Prop
  | q, .pure a => post q (.ok a)
  | q, .throw e => post q (.error e)
  | q, .await op k => ∀ r, ∃ q', next q op r q' ∧ (k r).Conforms next post q'

section Conforms

variable {Q : Type} {next : Q → (op : σ.Op) → σ.Reply op → Q → Prop}

/-- An ended program has to be in a state where it may end so. -/
@[simp] theorem conforms_pure {post : Q → Except ε α → Prop} {q : Q} (a : α) :
    (Prog.pure a : Prog σ ε α).Conforms next post q ↔ post q (.ok a) := Iff.rfl

/-- The same for an exception. -/
@[simp] theorem conforms_throw {post : Q → Except ε α → Prop} {q : Q} (e : ε) :
    (Prog.throw e : Prog σ ε α).Conforms next post q ↔ post q (.error e) := Iff.rfl

/-- Each reply leads to a state from which the rest conforms. -/
@[simp] theorem conforms_await {post : Q → Except ε α → Prop} {q : Q} (op : σ.Op)
    (k : σ.Reply op → Prog σ ε α) : (Prog.await op k).Conforms next post q ↔
      ∀ r, ∃ q', next q op r q' ∧ (k r).Conforms next post q' := Iff.rfl

/-- What is said of the end may be weakened. -/
theorem Conforms.mono {post post' : Q → Except ε α → Prop} {p : Prog σ ε α} {q : Q}
    (hp : p.Conforms next post q) (himp : ∀ q x, post q x → post' q x) :
    p.Conforms next post' q := by
  induction p generalizing q with
  | pure a => exact himp q _ hp
  | throw e => exact himp q _ hp
  | await op k ih =>
    intro r
    obtain ⟨q', hnext, hk⟩ := hp r
    exact ⟨q', hnext, ih r hk⟩

/-- Sequencing rule: the first program's outcome decides how the second has to go on. -/
theorem Conforms.bind {post : Q → Except ε β → Prop} {p : Prog σ ε α} {f : α → Prog σ ε β} {q : Q}
    (hp : p.Conforms next
      (fun q x => match x with
        | .ok a => (f a).Conforms next post q
        | .error e => post q (.error e)) q) :
    (p >>= f).Conforms next post q := by
  induction p generalizing q with
  | pure a => exact hp
  | throw e => exact hp
  | await op k ih =>
    intro r
    obtain ⟨q', hnext, hk⟩ := hp r
    exact ⟨q', hnext, ih r hk⟩

/-- The handler has to conform from every state in which the program can have thrown. -/
theorem Conforms.catchError {post : Q → Except ε α → Prop} {p : Prog σ ε α} {g : ε → Prog σ ε α}
    {q : Q}
    (hp : p.Conforms next
      (fun q x => match x with
        | .ok a => post q (.ok a)
        | .error e => (g e).Conforms next post q) q) :
    (p.catchError g).Conforms next post q := by
  induction p generalizing q with
  | pure a => exact hp
  | throw e => exact hp
  | await op k ih =>
    intro r
    obtain ⟨q', hnext, hk⟩ := hp r
    exact ⟨q', hnext, ih r hk⟩

end Conforms

-- from here on these predicates are reasoned about through their rules, so that unification does
-- not evaluate programs
attribute [irreducible] Uses Propagates Conforms

end Prog

end Process
