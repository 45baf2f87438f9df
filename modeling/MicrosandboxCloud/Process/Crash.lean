import MicrosandboxCloud.Process.Transcript

/-!
# Process — runs that are cut off

A process can stop at any of its requests, and what it did until then stays.

* **`Cut`** — a run up to some request; `Prog.serve` computes one.
* **`Throughout`** — an assertion about every state on the way of a program, and one about the state
  and the result it ends with. The rules follow the program.
* **`Cut.holds`** — wherever the program is cut off, the first assertion holds.
-/

namespace Process

variable {σ : Signature} {S A ε α β : Type}

/-- The program has been served these events and is in the middle of the rest, or at its end. -/
inductive Cut (h : Handler σ S A) : Prog σ ε α → S → List (Event σ S A) → S → Prop where
  | here (p : Prog σ ε α) (s : S) : Cut h p s [] s
  | await {op : σ.Op} {k : σ.Reply op → Prog σ ε α} {a : A} {s s₁ s' : S} {r : σ.Reply op}
      {tr : List (Event σ S A)} (hact : h.act op a s = some (r, s₁)) (hrest : Cut h (k r) s₁ tr s') :
      Cut h (.await op k) s (⟨s, op, a⟩ :: tr) s'

/-- What has ended was also served until then. -/
theorem Exec.cut {h : Handler σ S A} {p : Prog σ ε α} {s s' : S} {tr : List (Event σ S A)}
    {x : Except ε α} (hexec : Exec h p s tr x s') : Cut h p s tr s' := by
  induction hexec with
  | pure a s => exact .here _ s
  | throw e s => exact .here _ s
  | await hact _ ih => exact .await hact ih

/-- Serving a program the answers, for as long as there are any. -/
def Prog.serve (h : Handler σ S A) : Prog σ ε α → List A → S → Option S
  | _, [], s => some s
  | .await op k, a :: answers, s =>
    match h.act op a s with
    | some (r, s₁) => (k r).serve h answers s₁
    | none => none
  | _, _ :: _, _ => none

/-- What was served is cut off there, after events with these answers. -/
theorem Cut.of_serve {h : Handler σ S A} {p : Prog σ ε α} {answers : List A} {s s' : S}
    (hserve : p.serve h answers s = some s') :
    ∃ tr, Cut h p s tr s' ∧ ∀ ev ∈ tr, ev.answer ∈ answers := by
  induction answers generalizing p s with
  -- the answers are used up: the program is cut here
  | nil =>
    rw [Prog.serve, Option.some.injEq] at hserve
    exact ⟨[], hserve ▸ .here p s, fun ev hev => absurd hev List.not_mem_nil⟩
  | cons a answers ih =>
    cases p with
    -- a program that has ended has nothing left to be answered
    | pure b => cases hserve
    | throw e => cases hserve
    | await op k =>
      rw [Prog.serve] at hserve
      split at hserve
      · rename_i r s₁ hact
        obtain ⟨tr, hcut, hanswers⟩ := ih hserve
        refine ⟨_, .await hact hcut, List.forall_mem_cons.mpr ⟨List.mem_cons_self, ?_⟩⟩
        exact fun ev hev => List.mem_cons_of_mem a (hanswers ev hev)
      · cases hserve

/-- If the events are safe, `I` holds of every state the program goes through, and `Q` of its result
and the last one. -/
def Throughout (h : Handler σ S A) (safe : Event σ S A → Prop) (I : S → Prop) :
    Prog σ ε α → S → (Except ε α → S → Prop) → Prop
  | .pure a, s, Q => I s ∧ Q (.ok a) s
  | .throw e, s, Q => I s ∧ Q (.error e) s
  | .await op k, s, Q => I s ∧ ∀ a r s', h.act op a s = some (r, s') → safe ⟨s, op, a⟩ →
      Throughout h safe I (k r) s' Q

section Rules

variable {h : Handler σ S A} {safe : Event σ S A → Prop} {I R : S → Prop} {s : S}

theorem Throughout.holds {p : Prog σ ε α} {Q : Except ε α → S → Prop}
    (hp : Throughout h safe I p s Q) : I s := by
  cases p with
  | pure a => exact hp.1
  | throw e => exact hp.1
  | await op k => exact hp.1

/-- Wherever a program is cut off, the assertion holds. Induction on what it was served. -/
theorem Cut.holds {p : Prog σ ε α} {Q : Except ε α → S → Prop} {tr : List (Event σ S A)} {s' : S}
    (hcut : Cut h p s tr s') (hp : Throughout h safe I p s Q) (hsafe : ∀ ev ∈ tr, safe ev) :
    I s' := by
  induction hcut with
  | here p s => exact hp.holds
  | await hact _ ih =>
    obtain ⟨hev, hrest⟩ := List.forall_mem_cons.mp hsafe
    exact ih (hp.2 _ _ _ hact hev) hrest

/-- An ended program is only where it is. -/
theorem Throughout.pure {a : α} {Q : Except ε α → S → Prop} (hI : I s) (hq : Q (.ok a) s) :
    Throughout h safe I (.pure a : Prog σ ε α) s Q := ⟨hI, hq⟩

theorem Throughout.throw {e : ε} {Q : Except ε α → S → Prop} (hI : I s) (hq : Q (.error e) s) :
    Throughout h safe I (.throw e : Prog σ ε α) s Q := ⟨hI, hq⟩

/-- A synchronous computation has no await in which it could be cut off. -/
theorem Throughout.ofExcept {x : Except ε α} {Q : Except ε α → S → Prop} (hI : I s) (hq : Q x s) :
    Throughout h safe I (Prog.ofExcept (σ := σ) x) s Q := by
  cases x with
  | ok a => exact .pure hI hq
  | error e => exact .throw hI hq

/-- One request: the invariant holds before it, and whatever the environment answers, throughout the
rest. -/
theorem Throughout.request {op : σ.Op} {k : σ.Reply op → Prog σ ε α} {Q : Except ε α → S → Prop}
    (hI : I s) (hk : ∀ a r s', h.act op a s = some (r, s') → safe ⟨s, op, a⟩ →
      Throughout h safe I (k r) s' Q) : Throughout h safe I (Prog.request op >>= k) s Q :=
  ⟨hI, hk⟩

/-- What is said of the end may be weakened, by the help of the invariant. -/
theorem Throughout.mono {p : Prog σ ε α} {Q Q' : Except ε α → S → Prop}
    (hp : Throughout h safe I p s Q) (himp : ∀ x s', I s' → Q x s' → Q' x s') :
    Throughout h safe I p s Q' := by
  induction p generalizing s with
  | pure a => exact ⟨hp.1, himp _ _ hp.1 hp.2⟩
  | throw e => exact ⟨hp.1, himp _ _ hp.1 hp.2⟩
  | await op k ih => exact ⟨hp.1, fun a r s' hact hsafe => ih r (hp.2 a r s' hact hsafe)⟩

/-- The rest runs from where the first program returned; where it threw the sequence has ended. -/
theorem Throughout.bind {p : Prog σ ε β} {f : β → Prog σ ε α} {Q : Except ε α → S → Prop}
    (hp : Throughout h safe I p s fun x s' =>
      match x with
      | .ok b => Throughout h safe I (f b) s' Q
      | .error e => Q (.error e) s') : Throughout h safe I (p >>= f) s Q := by
  induction p generalizing s with
  | pure b => exact hp.2
  | throw e => exact hp
  | await op k ih => exact ⟨hp.1, fun a r s' hact hsafe => ih r (hp.2 a r s' hact hsafe)⟩

/-- The handler runs from where the program threw. -/
theorem Throughout.catchError {p : Prog σ ε α} {g : ε → Prog σ ε α} {Q : Except ε α → S → Prop}
    (hp : Throughout h safe I p s fun x s' =>
      match x with
      | .ok a => Q (.ok a) s'
      | .error e => Throughout h safe I (g e) s' Q) : Throughout h safe I (p.catchError g) s Q := by
  induction p generalizing s with
  | pure a => exact hp
  | throw e => exact hp.2
  | await op k ih => exact ⟨hp.1, fun a r s' hact hsafe => ih r (hp.2 a r s' hact hsafe)⟩

/-- What every request of a rule keeps, and `I` follows from, holds all the way of a program that
keeps to the rule. -/
theorem Throughout.of_follows {may : Transcript σ → σ.Op → Prop}
    {post : Transcript σ → Except ε α → Prop} {t : Transcript σ} {p : Prog σ ε α}
    (hp : p.Follows may post t) (hI : ∀ s, R s → I s)
    (hkeep : ∀ t op a s r s', may t op → h.act op a s = some (r, s') → safe ⟨s, op, a⟩ → R s → R s')
    (hR : R s) : Throughout h safe I p s fun _ s' => R s' := by
  induction p generalizing s t with
  | pure a => exact ⟨hI s hR, hR⟩
  | throw e => exact ⟨hI s hR, hR⟩
  | await op k ih =>
    refine ⟨hI s hR, fun a r s' hact hsafe => ?_⟩
    obtain ⟨hop, hk⟩ := Prog.follows_await.mp hp r
    exact ih r hk (hkeep t op a s r s' hop hact hsafe hR)

/-- A program whose requests all keep something that implies the invariant. -/
theorem Throughout.of_uses {allowed : σ.Op → Prop} {p : Prog σ ε α} (hp : p.Uses allowed)
    (hI : ∀ s, R s → I s)
    (hkeep : ∀ op a s r s', allowed op → h.act op a s = some (r, s') → safe ⟨s, op, a⟩ → R s → R s')
    (hR : R s) : Throughout h safe I p s fun _ s' => R s' := by
  have hfollows : p.Follows (fun _ => allowed) (fun _ _ => True) [] :=
    Prog.Follows.of_uses hp (fun _ _ _ hop => hop) fun _ _ _ => trivial
  exact Throughout.of_follows hfollows hI (fun _ => hkeep) hR

end Rules

-- a program's assertion is proved with the rules alone, never by running the program
attribute [irreducible] Throughout

end Process
