import MicrosandboxCloud.Process.Pool

/-!
# Process — what a program may ask after what it was answered

The typestate of a program with its own *transcript* as the control state: the requests it has
made so far, each with its reply.

* **`Since`** — what a history holds after an event.
* **`Prog.Ends`** — how a program ends when it is answered as in a transcript, whoever answers.
* **`Prog.Follows may post`** — every request is one that `may` allows after the transcript so far,
  and `post` relates the whole transcript to the outcome. The rules follow the program.
* **`Prog.Ruled`** — the same, said of a transcript alone.
* **`Pool.transcript`** — the transcript of one program, read off the history of a pool.
* **`Pool.Run.history_invariant`** — an assertion over history and shared state that every allowed
  step keeps holds throughout, and every program has followed its rule. `Pool.Run.every_step` adds
  what holds of each step when it is made.
-/

namespace Process

variable {σ : Signature} {S A ε α β ι : Type}

/-! ## What has happened since

Histories grow at their end. `Since tr x mid` picks an entry of a history and what came after it, so
that a rule can speak about what happened between two steps. -/

/-- In the history `tr`, `mid` is what came after an occurrence of `x`. -/
def Since {X : Type} (tr : List X) (x : X) (mid : List X) : Prop := ∃ pre, tr = pre ++ x :: mid

section Since

variable {X : Type} {tr mid : List X} {x y : X}

/-- Whatever is in a history happened at some time, and the rest came after it. -/
theorem exists_since (hx : x ∈ tr) : ∃ mid, Since tr x mid := by
  obtain ⟨pre, mid, rfl⟩ := List.append_of_mem hx
  exact ⟨mid, pre, rfl⟩

/-- Where a history that was extended by `y` splits: at `y`, or before. -/
theorem snoc_eq_append_cons {pre rest : List X} (h : tr ++ [y] = pre ++ x :: rest) :
    (tr = pre ∧ x = y ∧ rest = []) ∨ ∃ rest', rest = rest' ++ [y] ∧ tr = pre ++ x :: rest' := by
  rcases List.eq_nil_or_concat rest with rfl | ⟨rest', z, rfl⟩
  · obtain ⟨htr, hlast⟩ := List.append_inj' h rfl
    exact Or.inl ⟨htr, (List.singleton_inj.mp hlast).symm, rfl⟩
  · rw [List.concat_eq_append, ← List.cons_append, ← List.append_assoc] at h
    obtain ⟨htr, hlast⟩ := List.append_inj' h rfl
    rw [List.singleton_inj.mp hlast, List.concat_eq_append]
    exact Or.inr ⟨rest', rfl, htr⟩

/-- One more event has happened since, or it is the event itself. -/
theorem since_snoc : Since (tr ++ [y]) x mid ↔
    (x = y ∧ mid = []) ∨ ∃ mid', mid = mid' ++ [y] ∧ Since tr x mid' := by
  constructor
  · rintro ⟨pre, h⟩
    rcases snoc_eq_append_cons h with ⟨-, hlast⟩ | ⟨mid', rfl, htr⟩
    · exact Or.inl hlast
    · exact Or.inr ⟨mid', rfl, pre, htr⟩
  · rintro (⟨rfl, rfl⟩ | ⟨mid', rfl, pre, rfl⟩)
    · exact ⟨tr, rfl⟩
    · exact ⟨pre, by simp⟩

end Since

/-! ## Transcripts

A transcript is what one program has asked for and been answered, in order; what other programs did
in between is left out. `Ends` says how a program can have ended with a transcript, `Follows` which
requests it may make after one and how it may end: both by recursion on the program. -/

/-- The requests a program has made, each with its reply, oldest first. -/
abbrev Transcript (σ : Signature) := List (Σ op : σ.Op, σ.Reply op)

namespace Prog

/-- Answered as in the transcript `t`, `p` makes just those requests and ends with `x`. -/
inductive Ends : Prog σ ε α → Transcript σ → Except ε α → Prop where
  | pure (a : α) : Ends (.pure a) [] (.ok a)
  | throw (e : ε) : Ends (.throw e) [] (.error e)
  | await {op : σ.Op} {k : σ.Reply op → Prog σ ε α} {r : σ.Reply op} {t : Transcript σ}
      {x : Except ε α} (hrest : Ends (k r) t x) : Ends (.await op k) (⟨op, r⟩ :: t) x

section Ends

variable {t : Transcript σ} {x : Except ε α}

/-- An ended program asks for nothing more. -/
@[simp] theorem ends_pure {a : α} :
    (Prog.pure a : Prog σ ε α).Ends t x ↔ t = [] ∧ x = .ok a := by
  constructor
  · intro h
    cases h
    exact ⟨rfl, rfl⟩
  · rintro ⟨rfl, rfl⟩
    exact .pure a

/-- Nor does one that has thrown. -/
@[simp] theorem ends_throw {e : ε} :
    (Prog.throw e : Prog σ ε α).Ends t x ↔ t = [] ∧ x = .error e := by
  constructor
  · intro h
    cases h
    exact ⟨rfl, rfl⟩
  · rintro ⟨rfl, rfl⟩
    exact .throw e

/-- The first entry is the request, with any reply. -/
@[simp] theorem ends_await {op : σ.Op} {k : σ.Reply op → Prog σ ε α} :
    (Prog.await op k).Ends t x ↔ ∃ r t', t = ⟨op, r⟩ :: t' ∧ (k r).Ends t' x := by
  constructor
  · intro h
    cases h with
    | await hrest => exact ⟨_, _, rfl, hrest⟩
  · rintro ⟨r, t', rfl, hrest⟩
    exact .await hrest

/-- A sequence ends with the exception of its first program, or in its second. -/
theorem ends_bind {p : Prog σ ε β} {k : β → Prog σ ε α} : (p >>= k).Ends t x ↔
    (∃ e, p.Ends t (.error e) ∧ x = .error e) ∨
      ∃ t₁ t₂ b, t = t₁ ++ t₂ ∧ p.Ends t₁ (.ok b) ∧ (k b).Ends t₂ x := by
  induction p generalizing t with
  | pure b =>
    constructor
    · exact fun h => Or.inr ⟨[], t, b, rfl, .pure b, h⟩
    · rintro (⟨e, hp, -⟩ | ⟨t₁, t₂, b', rfl, hp, hk⟩)
      · cases hp
      · cases hp
        exact hk
  -- the second program is never reached
  | throw e =>
    constructor
    · intro h
      obtain ⟨rfl, rfl⟩ := ends_throw.mp h
      exact Or.inl ⟨e, .throw e, rfl⟩
    · rintro (⟨e', hp, rfl⟩ | ⟨t₁, t₂, b, rfl, hp, -⟩)
      · cases hp
        exact .throw e
      · cases hp
  -- the first request is answered, and the rest is a sequence again
  | await op q ih =>
    constructor
    · intro h
      obtain ⟨r, t', rfl, hrest⟩ := ends_await.mp h
      rcases (ih r).mp hrest with ⟨e, hq, rfl⟩ | ⟨t₁, t₂, b, rfl, hq, hk⟩
      · exact Or.inl ⟨e, .await hq, rfl⟩
      · exact Or.inr ⟨_, t₂, b, rfl, .await hq, hk⟩
    · rintro (⟨e, hp, rfl⟩ | ⟨t₁, t₂, b, rfl, hp, hk⟩)
      · obtain ⟨r, t', rfl, hq⟩ := ends_await.mp hp
        exact .await ((ih r).mpr (Or.inl ⟨e, hq, rfl⟩))
      · obtain ⟨r, t', rfl, hq⟩ := ends_await.mp hp
        exact .await ((ih r).mpr (Or.inr ⟨t', t₂, b, rfl, hq, hk⟩))

/-- The same for a request at the head of a sequence. -/
theorem ends_request {op : σ.Op} {k : σ.Reply op → Prog σ ε α} :
    (Prog.request op >>= k).Ends t x ↔ ∃ r t', t = ⟨op, r⟩ :: t' ∧ (k r).Ends t' x :=
  ends_await

/-- A sequence that returns has been through both programs. -/
theorem Ends.of_bind {p : Prog σ ε β} {k : β → Prog σ ε α} {a : α}
    (h : (p >>= k).Ends t (.ok a)) :
    ∃ t₁ t₂ b, t = t₁ ++ t₂ ∧ p.Ends t₁ (.ok b) ∧ (k b).Ends t₂ (.ok a) := by
  rcases ends_bind.mp h with ⟨e, -, hx⟩ | hboth
  · cases hx
  · exact hboth

/-- A program has asked for nothing but what it may ask for. -/
theorem Ends.uses {allowed : σ.Op → Prop} {p : Prog σ ε α} (h : p.Ends t x)
    (hp : p.Uses allowed) : ∀ e ∈ t, allowed e.1 := by
  induction h with
  | pure a => exact fun e he => absurd he List.not_mem_nil
  | throw e => exact fun e he => absurd he List.not_mem_nil
  | await _ ih =>
    obtain ⟨hop, hk⟩ := (uses_await _ _).mp hp
    exact List.forall_mem_cons.mpr ⟨hop, ih (hk _)⟩

end Ends

/-- A run is an answer to the program. -/
theorem Ends.of_exec {h : Handler σ S A} {p : Prog σ ε α} {s s' : S} {tr : List (Event σ S A)}
    {x : Except ε α} (hexec : Exec h p s tr x s') : ∃ t, p.Ends t x := by
  induction hexec with
  | pure a s => exact ⟨[], .pure a⟩
  | throw e s => exact ⟨[], .throw e⟩
  | await _ _ ih =>
    obtain ⟨t, ht⟩ := ih
    exact ⟨_, .await ht⟩

/-- After the transcript `t`, `p` makes only requests that `may` allows, and ends as `post` says. -/
def Follows (may : Transcript σ → σ.Op → Prop) (post : Transcript σ → Except ε α → Prop)
    (t : Transcript σ) (p : Prog σ ε α) : Prop :=
  p.Conforms (fun t op r t' => may t op ∧ t' = t ++ [⟨op, r⟩]) post t

section Follows

variable {may may' : Transcript σ → σ.Op → Prop} {post post' : Transcript σ → Except ε α → Prop}
  {t : Transcript σ}

/-- The end has to be one that `post` allows after the transcript. -/
theorem Follows.pure {a : α} (h : post t (.ok a)) :
    (Prog.pure a : Prog σ ε α).Follows may post t :=
  (conforms_pure a).mpr h

theorem Follows.throw {e : ε} (h : post t (.error e)) :
    (Prog.throw e : Prog σ ε α).Follows may post t :=
  (conforms_throw e).mpr h

/-- A request has to be allowed after the transcript, and the rest is checked with it at the end. -/
theorem Follows.await {op : σ.Op} {k : σ.Reply op → Prog σ ε α} (hop : may t op)
    (hk : ∀ r, (k r).Follows may post (t ++ [⟨op, r⟩])) : (Prog.await op k).Follows may post t :=
  (conforms_await op k).mpr fun r => ⟨_, ⟨hop, rfl⟩, hk r⟩

/-- The same for a request at the head of a sequence. -/
theorem Follows.request {op : σ.Op} {k : σ.Reply op → Prog σ ε α} (hop : may t op)
    (hk : ∀ r, (k r).Follows may post (t ++ [⟨op, r⟩])) :
    (Prog.request op >>= k).Follows may post t :=
  Follows.await hop hk

/-- What is said of the end may be weakened. -/
theorem Follows.mono {p : Prog σ ε α} (hp : p.Follows may post t)
    (himp : ∀ t x, post t x → post' t x) : p.Follows may post' t :=
  Conforms.mono hp himp

/-- A wider rule. -/
theorem Follows.widen {p : Prog σ ε α} (hp : p.Follows may post t)
    (himp : ∀ t op, may t op → may' t op) : p.Follows may' post t := by
  induction p generalizing t with
  | pure a => exact Follows.pure ((conforms_pure a).mp hp)
  | throw e => exact Follows.throw ((conforms_throw e).mp hp)
  | await op k ih =>
    refine (conforms_await op k).mpr fun r => ?_
    obtain ⟨_, ⟨hop, rfl⟩, hk⟩ := (conforms_await op k).mp hp r
    exact ⟨_, ⟨himp _ _ hop, rfl⟩, ih r hk⟩

/-- Sequencing: the transcript of the first program is what the second goes on from. -/
theorem Follows.bind {post : Transcript σ → Except ε β → Prop} {p : Prog σ ε α}
    {f : α → Prog σ ε β}
    (hp : p.Follows may
      (fun t x => match x with
        | .ok a => (f a).Follows may post t
        | .error e => post t (.error e)) t) : (p >>= f).Follows may post t :=
  Conforms.bind hp

/-- The handler is checked from the transcript with which the program threw. -/
theorem Follows.catchError {p : Prog σ ε α} {g : ε → Prog σ ε α}
    (hp : p.Follows may
      (fun t x => match x with
        | .ok a => post t (.ok a)
        | .error e => (g e).Follows may post t) t) : (p.catchError g).Follows may post t :=
  Conforms.catchError hp

/-- A synchronous computation adds nothing to the transcript. -/
theorem Follows.ofExcept {x : Except ε α} (h : post t x) :
    (Prog.ofExcept (σ := σ) x).Follows may post t := by
  cases x with
  | ok a => exact Follows.pure h
  | error e => exact Follows.throw h

/-- A synchronous step first: the rest is checked when it returns, and the end when it throws. -/
theorem Follows.sync {post : Transcript σ → Except ε β → Prop} {x : Except ε α}
    {k : α → Prog σ ε β} (hok : ∀ a, x = .ok a → (k a).Follows may post t)
    (herror : ∀ e, x = .error e → post t (.error e)) :
    (Prog.ofExcept x >>= k).Follows may post t := by
  cases x with
  | ok a => exact hok a rfl
  | error e => exact Follows.throw (herror e rfl)

/-- A program that makes only some kind of request adds only that kind to the transcript. -/
theorem Follows.of_uses {allowed : σ.Op → Prop} {p : Prog σ ε α} (hp : p.Uses allowed)
    (hmay : ∀ u : Transcript σ, (∀ e ∈ u, allowed e.1) → ∀ op, allowed op → may (t ++ u) op)
    (hpost : ∀ u : Transcript σ, (∀ e ∈ u, allowed e.1) → ∀ x, post (t ++ u) x) :
    p.Follows may post t := by
  induction p generalizing t with
  | pure a => exact Follows.pure (by simpa using hpost [] (by simp) (.ok a))
  | throw e => exact Follows.throw (by simpa using hpost [] (by simp) (.error e))
  | await op k ih =>
    obtain ⟨hop, hk⟩ := (uses_await op k).mp hp
    refine Follows.await (by simpa using hmay [] (by simp) op hop) fun r => ih r (hk r) ?_ ?_
    · intro u hu op' hop'
      simpa using hmay (⟨op, r⟩ :: u) (List.forall_mem_cons.mpr ⟨hop, hu⟩) op' hop'
    · intro u hu x
      simpa using hpost (⟨op, r⟩ :: u) (List.forall_mem_cons.mpr ⟨hop, hu⟩) x

/-- A rule that allows every request says nothing about the program. -/
theorem Follows.trivial (p : Prog σ ε α) : p.Follows (fun _ _ => True) (fun _ _ => True) t := by
  induction p generalizing t with
  | pure a => exact Follows.pure True.intro
  | throw e => exact Follows.throw True.intro
  | await op k ih => exact Follows.await True.intro fun r => ih r

/-- A program only adds to its transcript. -/
theorem Follows.extends {p : Prog σ ε α} (hp : p.Follows may post t) :
    p.Follows may (fun u x => t <+: u ∧ post u x) t := by
  induction p generalizing t with
  | pure a => exact Follows.pure ⟨List.prefix_rfl, (conforms_pure a).mp hp⟩
  | throw e => exact Follows.throw ⟨List.prefix_rfl, (conforms_throw e).mp hp⟩
  | await op k ih =>
    refine (conforms_await op k).mpr fun r => ?_
    obtain ⟨_, ⟨hop, rfl⟩, hk⟩ := (conforms_await op k).mp hp r
    refine ⟨_, ⟨hop, rfl⟩, (ih r hk).mono fun u x hx => ⟨?_, hx.2⟩⟩
    exact (List.prefix_append t _).trans hx.1

/-- The rule for `await` holds in both directions. -/
theorem follows_await {op : σ.Op} {k : σ.Reply op → Prog σ ε α} :
    (Prog.await op k).Follows may post t ↔
      ∀ r, may t op ∧ (k r).Follows may post (t ++ [⟨op, r⟩]) := by
  constructor
  · intro h r
    obtain ⟨_, ⟨hop, rfl⟩, hk⟩ := (conforms_await op k).mp h r
    exact ⟨hop, hk⟩
  · exact fun h => (conforms_await op k).mpr fun r => ⟨_, ⟨(h r).1, rfl⟩, (h r).2⟩

/-- Run alone, a program has the transcript of its trace. -/
theorem Follows.exec {h : Handler σ S A} {p : Prog σ ε α} {s s' : S} {tr : List (Event σ S A)}
    {x : Except ε α} (hexec : Exec h p s tr x s') (hp : p.Follows may post t) :
    post (t ++ tr.filterMap fun ev => (h.act ev.op ev.answer ev.before).map fun r => ⟨ev.op, r.1⟩)
      x := by
  induction hexec generalizing t with
  | pure a s => simpa using (conforms_pure a).mp hp
  | throw e s => simpa using (conforms_throw e).mp hp
  | @await op k a s s₁ s' r tr x hact _ ih =>
    obtain ⟨_, ⟨hop, rfl⟩, hk⟩ := (conforms_await op k).mp hp r
    have hrest := ih hk
    rw [List.append_assoc] at hrest
    rw [List.filterMap_cons_some (by rw [hact]; rfl)]
    exact hrest

/-- A program that has ended has the transcript `post` asks for. -/
theorem Follows.outcome {p : Prog σ ε α} {x : Except ε α} (hp : p.Follows may post t)
    (hx : p.outcome = some x) : post t x :=
  Conforms.outcome hp hx

end Follows

attribute [irreducible] Follows

/-- Every request of the transcript is one the rule allows after what comes before it. -/
def Ruled (may : Transcript σ → σ.Op → Prop) (t : Transcript σ) : Prop :=
  ∀ pre e rest, t = pre ++ e :: rest → may pre e.1

section Ruled

variable {may : Transcript σ → σ.Op → Prop} {t : Transcript σ}

theorem ruled_nil : Ruled may ([] : Transcript σ) := by
  intro pre e rest h
  simp at h

/-- One more request that is allowed after what went before. -/
theorem Ruled.snoc {op : σ.Op} {r : σ.Reply op} (h : Ruled may t) (hop : may t op) :
    Ruled may (t ++ [⟨op, r⟩]) := by
  intro pre e rest ht
  rcases snoc_eq_append_cons ht with ⟨rfl, rfl, -⟩ | ⟨rest', -, ht'⟩
  · exact hop
  · exact h pre e rest' ht'

/-- Where a request stands in a transcript, the rule allowed it. -/
theorem Ruled.of_mem {e : Σ op : σ.Op, σ.Reply op} (h : Ruled may t) (he : e ∈ t) :
    ∃ pre rest, t = pre ++ e :: rest ∧ may pre e.1 := by
  obtain ⟨pre, rest, rfl⟩ := List.append_of_mem he
  exact ⟨pre, rest, rfl, h pre e rest rfl⟩

/-- Where a rule allows requests of a kind only at the start, there is at most one. -/
theorem Ruled.unique_first (h : Ruled may t) (first : σ.Op → Prop)
    (hfirst : ∀ u op, first op → may u op → u = []) {e e' : Σ op : σ.Op, σ.Reply op}
    (he : e ∈ t) (he' : e' ∈ t) (hop : first e.1) (hop' : first e'.1) : e = e' := by
  have hhead : ∀ {e : Σ op : σ.Op, σ.Reply op}, e ∈ t → first e.1 → t.head? = some e := by
    intro e hmem hop
    obtain ⟨pre, rest, ht, hmay⟩ := h.of_mem hmem
    rw [ht, hfirst pre e.1 hop hmay]
    rfl
  exact Option.some.inj ((hhead he hop).symm.trans (hhead he' hop'))

end Ruled

end Prog

namespace Pool

open Prog (Ruled ruled_nil)

variable [DecidableEq ι]

/-- The request of a step and the reply to it. -/
def answered (h : Handler σ S A) (ev : Event σ S A) : Option (Σ op : σ.Op, σ.Reply op) :=
  (h.act ev.op ev.answer ev.before).map fun r => ⟨ev.op, r.1⟩

/-- What program `i` was answered in a history. -/
def transcript (h : Handler σ S A) (i : ι) (tr : List (ι × Event σ S A)) : Transcript σ :=
  tr.filterMap fun x => if x.1 = i then answered h x.2 else none

section Transcript

variable {h : Handler σ S A} {i j : ι} {tr : List (ι × Event σ S A)} {s s' : S} {op : σ.Op}
  {a : A} {r : σ.Reply op}

/-- Before anything has happened the transcript is empty. -/
@[simp] theorem transcript_nil : transcript h i ([] : List (ι × Event σ S A)) = [] := rfl

/-- A step of the program itself is added at the end. -/
theorem transcript_self (hact : h.act op a s = some (r, s')) :
    transcript h i (tr ++ [(i, ⟨s, op, a⟩)]) = transcript h i tr ++ [⟨op, r⟩] := by
  simp [transcript, answered, hact]

theorem transcript_other (ev : Event σ S A) (hne : j ≠ i) :
    transcript h i (tr ++ [(j, ev)]) = transcript h i tr := by
  simp [transcript, hne]

/-- The transcript of a history in two parts. -/
theorem transcript_append (tr tr' : List (ι × Event σ S A)) :
    transcript h i (tr ++ tr') = transcript h i tr ++ transcript h i tr' :=
  List.filterMap_append

/-- What stands in a transcript happened in the history. -/
theorem mem_transcript {e : Σ op : σ.Op, σ.Reply op} :
    e ∈ transcript h i tr ↔ ∃ ev, (i, ev) ∈ tr ∧ answered h ev = some e := by
  simp only [transcript, List.mem_filterMap, Prod.exists, Option.ite_none_right_eq_some]
  constructor
  · rintro ⟨_, ev, hev, rfl, he⟩
    exact ⟨ev, hev, he⟩
  · rintro ⟨ev, hev, he⟩
    exact ⟨i, ev, hev, rfl, he⟩

/-- A step adds its request to the transcript of the program that steps. -/
theorem mem_transcript_step (hact : h.act op a s = some (r, s')) {e : Σ op : σ.Op, σ.Reply op} :
    e ∈ transcript h j (tr ++ [(i, ⟨s, op, a⟩)]) ↔
      e ∈ transcript h j tr ∨ (i = j ∧ e = ⟨op, r⟩) := by
  by_cases hij : i = j
  · subst hij
    simp [transcript_self hact]
  · simp [transcript_other _ hij, hij]

/-- An event is answered when the handler gives a reply. -/
theorem answered_eq_some {ev : Event σ S A} :
    answered h ev = some ⟨op, r⟩ ↔
      ∃ s a s', ev = ⟨s, op, a⟩ ∧ h.act op a s = some (r, s') := by
  obtain ⟨s₀, op₀, a₀⟩ := ev
  simp only [answered, Option.map_eq_some_iff, Sigma.mk.injEq, Event.mk.injEq]
  constructor
  · rintro ⟨⟨r₀, s'⟩, hact, rfl, hr⟩
    obtain rfl := eq_of_heq hr
    exact ⟨s₀, a₀, s', ⟨rfl, rfl, rfl⟩, hact⟩
  · rintro ⟨s, a, s', ⟨rfl, rfl, rfl⟩, hact⟩
    exact ⟨(r, s'), hact, rfl, HEq.rfl⟩

end Transcript

variable {h : Handler σ S A} {safe : List (ι × Event σ S A) → ι → Event σ S A → Prop}
  {c₀ c : Pool σ ε α S ι} {tr : List (ι × Event σ S A)}
  {may : ι → Transcript σ → σ.Op → Prop} {post : ι → Transcript σ → Except ε α → Prop}

/-- The rule for assertions over history and state. The control state of each program is its
transcript, so that the typestate rule applies; every transcript keeps to the rule of its program
throughout. -/
theorem Run.history_invariant {J : List (ι × Event σ S A) → S → Prop}
    (hfollows : ∀ i, (c₀.thread i).Follows (may i) (post i) [])
    (hinit : J [] c₀.state)
    (hkeep : ∀ tr s i op a r s', J tr s → (∀ i, Ruled (may i) (transcript h i tr)) →
      safe tr i ⟨s, op, a⟩ → h.act op a s = some (r, s') → may i (transcript h i tr) op →
      J (tr ++ [(i, ⟨s, op, a⟩)]) s')
    (hrun : Run h safe c₀ tr c) :
    J tr c.state ∧ (∀ i, Ruled (may i) (transcript h i tr)) ∧
      ∀ i, (c.thread i).Follows (may i) (post i) (transcript h i tr) := by
  unfold Prog.Follows at hfollows ⊢
  -- the control states of the typestate rule are the transcripts themselves
  have hinv : ∃ q : ι → Transcript σ,
      (J tr c.state ∧ ∀ i, q i = transcript h i tr ∧ Ruled (may i) (q i)) ∧
      ∀ i, (c.thread i).Conforms (fun t op r t' => may i t op ∧ t' = t ++ [⟨op, r⟩]) (post i)
        (q i) := by
    refine Run.invariant
      (J := fun tr q s => J tr s ∧ ∀ i, q i = transcript h i tr ∧ Ruled (may i) (q i)) hfollows
      ⟨hinit, fun i => ⟨rfl, ruled_nil⟩⟩ ?_ hrun
    rintro tr q s i op a r s' t' ⟨hJ, hq⟩ hsafe hact ⟨hmay, rfl⟩
    have hruled : ∀ i, Ruled (may i) (transcript h i tr) := fun j => (hq j).1 ▸ (hq j).2
    refine ⟨hkeep tr s i op a r s' hJ hruled hsafe hact ((hq i).1 ▸ hmay), fun j => ?_⟩
    -- only the transcript of the program that stepped has grown
    by_cases hj : j = i
    · subst hj
      rw [Function.update_self, transcript_self hact, (hq j).1]
      exact ⟨rfl, (hruled j).snoc ((hq j).1 ▸ hmay)⟩
    · rw [Function.update_of_ne hj, transcript_other _ (Ne.symm hj)]
      exact hq j
  obtain ⟨q, ⟨hJ, hq⟩, hconf⟩ := hinv
  have heq : ∀ i, q i = transcript h i tr := fun i => (hq i).1
  exact ⟨hJ, fun i => heq i ▸ (hq i).2, fun i => heq i ▸ hconf i⟩

/-- The same with a fact about every step, which holds when the step is made. -/
theorem Run.every_step {J : List (ι × Event σ S A) → S → Prop}
    {P : List (ι × Event σ S A) → ι → Event σ S A → Prop}
    (hfollows : ∀ i, (c₀.thread i).Follows (may i) (post i) [])
    (hinit : J [] c₀.state)
    (hkeep : ∀ tr s i op a r s', J tr s → (∀ i, Ruled (may i) (transcript h i tr)) →
      safe tr i ⟨s, op, a⟩ → h.act op a s = some (r, s') → may i (transcript h i tr) op →
      J (tr ++ [(i, ⟨s, op, a⟩)]) s' ∧ P tr i ⟨s, op, a⟩)
    (hrun : Run h safe c₀ tr c) :
    (J tr c.state ∧ ∀ pre x rest, tr = pre ++ x :: rest → P pre x.1 x.2) ∧
      (∀ i, Ruled (may i) (transcript h i tr)) ∧
      ∀ i, (c.thread i).Follows (may i) (post i) (transcript h i tr) := by
  refine Run.history_invariant
    (J := fun tr s => J tr s ∧ ∀ pre x rest, tr = pre ++ x :: rest → P pre x.1 x.2) hfollows
    ⟨hinit, fun pre x rest htr => by simp at htr⟩ ?_ hrun
  rintro tr s i op a r s' ⟨hJ, hP⟩ hruled hsafe hact hmay
  obtain ⟨hJ', hstep⟩ := hkeep tr s i op a r s' hJ hruled hsafe hact hmay
  refine ⟨hJ', fun pre x rest htr => ?_⟩
  -- a step of the longer run is its last step or one of the steps before it
  rcases snoc_eq_append_cons htr with ⟨rfl, rfl, -⟩ | ⟨rest', -, htr'⟩
  · exact hstep
  · exact hP pre x rest' htr'

end Pool

end Process
