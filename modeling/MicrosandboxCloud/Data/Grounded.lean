import Mathlib.Data.List.Induction

/-!
# Data — sequences in which everything stands after what it needs

* **`Grounded needs l`** — what an element of `l` needs stands before it.
* **`addLast`** — adding to a set that keeps the order of insertion.

Grounded sequences are closed under appending, mapping, and adding an element whose needs are met.
-/

namespace Data

variable {α β : Type} {needs : α → α → Prop} {l l' : List α} {x y : α}

/-- Everything an element of `l` needs stands before it. -/
def Grounded (needs : α → α → Prop) (l : List α) : Prop :=
  ∀ pre x rest, l = pre ++ x :: rest → ∀ y, needs x y → y ∈ pre

theorem grounded_nil : Grounded needs [] := by
  intro pre x rest h
  simp at h

/-- A sequence goes on when what follows needs only what it or what came before provides. -/
theorem Grounded.append_of (h : Grounded needs l)
    (h' : ∀ pre x rest, l' = pre ++ x :: rest → ∀ y, needs x y → y ∈ l ++ pre) :
    Grounded needs (l ++ l') := by
  intro pre x rest heq y hy
  rcases List.append_eq_append_iff.mp heq with ⟨mid, rfl, hl'⟩ | ⟨mid, hl, hrest⟩
  · exact h' mid x rest hl' y hy
  · cases mid with
    | nil =>
      rw [List.append_nil] at hl
      subst hl
      simpa using h' [] x rest hrest.symm y hy
    | cons z mid =>
      rw [List.cons_append, List.cons.injEq] at hrest
      obtain ⟨rfl, -⟩ := hrest
      exact h pre x mid hl y hy

/-- What the second list needs may also be in the first. -/
theorem Grounded.append (h : Grounded needs l) (h' : Grounded needs l') :
    Grounded needs (l ++ l') := by
  refine h.append_of fun pre x rest heq y hy => ?_
  exact List.mem_append_right _ (h' pre x rest heq y hy)

/-- A new last element, whose needs are met already. -/
theorem Grounded.snoc (h : Grounded needs l) (hx : ∀ y, needs x y → y ∈ l) :
    Grounded needs (l ++ [x]) := by
  refine h.append_of fun pre x' rest heq y hy => ?_
  obtain ⟨rfl, rfl, -⟩ : pre = [] ∧ x' = x ∧ rest = [] := by
    cases pre with
    | nil =>
      rw [List.nil_append, List.cons.injEq] at heq
      exact ⟨rfl, heq.1.symm, heq.2.symm⟩
    | cons z pre => simp at heq
  exact List.mem_append_left _ (hx y hy)

/-- What a grounded sequence starts with is grounded. -/
theorem Grounded.of_append (h : Grounded needs (l ++ l')) : Grounded needs l := by
  intro pre x rest heq y hy
  exact h pre x (rest ++ l') (by simp [heq]) y hy

/-- The needs of an image are images of needs. -/
theorem Grounded.map {needs' : β → β → Prop} {f : α → β} (h : Grounded needs l)
    (hneeds : ∀ x y', needs' (f x) y' → ∃ y, y' = f y ∧ needs x y) :
    Grounded needs' (l.map f) := by
  intro pre' x' rest' heq y' hy'
  obtain ⟨pre, tail, rfl, rfl, htail⟩ := List.map_eq_append_iff.mp heq
  obtain ⟨x, rest, rfl, rfl, -⟩ := List.map_eq_cons_iff.mp htail
  obtain ⟨y, rfl, hy⟩ := hneeds x y' hy'
  exact List.mem_map_of_mem (h pre x rest rfl y hy)

/-! ## Sets in insertion order

A set that remembers the order of its first insertions, as the sets of JavaScript do. Elements are
added last, once. -/

section AddLast

variable [DecidableEq α]

/-- An element that is there keeps its place. -/
def addLast (l : List α) (x : α) : List α := if x ∈ l then l else l ++ [x]

/-- An insertion adds its element. -/
@[simp] theorem mem_addLast : y ∈ addLast l x ↔ y ∈ l ∨ y = x := by
  unfold addLast
  split
  case isTrue hx =>
    constructor
    · exact Or.inl
    · rintro (hy | rfl)
      · exact hy
      · exact hx
  case isFalse => simp

theorem mem_foldl_addLast {xs : List α} : y ∈ xs.foldl addLast l ↔ y ∈ l ∨ y ∈ xs := by
  induction xs generalizing l with
  | nil => simp
  | cons x xs ih => rw [List.foldl_cons, ih, mem_addLast, List.mem_cons, or_assoc]

/-- Inserting an element that is there changes nothing; a new one needs what it needs. -/
theorem Grounded.addLast (h : Grounded needs l) (hx : ∀ y, needs x y → y ∈ l) :
    Grounded needs (addLast l x) := by
  unfold Data.addLast
  split
  · exact h
  · exact h.snoc hx

/-- The elements of a grounded sequence are added one after another. -/
theorem Grounded.foldl_addLast {xs : List α} (h : Grounded needs l) (hxs : Grounded needs xs) :
    Grounded needs (xs.foldl Data.addLast l) := by
  induction xs using List.reverseRecOn with
  | nil => exact h
  | append_singleton xs x ih =>
    rw [List.foldl_append]
    refine (ih hxs.of_append).addLast fun y hy => ?_
    exact mem_foldl_addLast.mpr (Or.inr (hxs xs x [] rfl y hy))

end AddLast

end Data
