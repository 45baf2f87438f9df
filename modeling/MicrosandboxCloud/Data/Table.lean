import Mathlib.Data.List.Basic
import Mathlib.Data.List.Pairwise

/-!
# Data — tables with unique constraints

A table is a list of rows of which no two clash. What clashes is the table's constraint: two
rows clash when storing both would break a primary key or a unique constraint. The rows carry
the proof, so a table that breaks its constraint cannot be built, and every write that would
break it is refused.

* **`Table.insert`** — refused when the row clashes with a stored one.
* **`Table.delete`** — drops the rows that satisfy a predicate.
* **`Table.save`** — replaces the row with the same key, or inserts when there is none.
-/

namespace Data

/-- A unique constraint: which pairs of rows may not be stored together. -/
structure Constraint (ρ : Type) where
  clash : ρ → ρ → Prop
  [decidable : DecidableRel clash]
  symm : ∀ {a b}, clash a b → clash b a

attribute [instance] Constraint.decidable

/-- Rows of which no two clash. -/
structure Table (ρ : Type) (C : Constraint ρ) where
  rows : List ρ
  distinct : rows.Pairwise fun a b => ¬ C.clash a b

namespace Table

variable {ρ : Type} {C : Constraint ρ}

instance : Membership ρ (Table ρ C) := ⟨fun t r => r ∈ t.rows⟩

/-- Being in the table is being one of its rows. -/
theorem mem_def {t : Table ρ C} {r : ρ} : r ∈ t ↔ r ∈ t.rows := Iff.rfl

/-- The table without rows. -/
def empty : Table ρ C := ⟨[], .nil⟩

/-- Nothing is in the empty table. -/
@[simp] theorem not_mem_empty (r : ρ) : r ∉ (empty : Table ρ C) := by simp [mem_def, empty]

/-- Two stored rows that clash are one row. -/
theorem eq_of_clash {t : Table ρ C} {a b : ρ} (ha : a ∈ t) (hb : b ∈ t) (hab : C.clash a b) :
    a = b := by
  have hsymm : Std.Symm fun a b => ¬ C.clash a b := ⟨fun _ _ h hba => h (C.symm hba)⟩
  by_contra hne
  exact t.distinct.forall ha hb hne hab

/-- A table is its rows. -/
theorem ext_rows {t t' : Table ρ C} (h : t.rows = t'.rows) : t = t' := by
  cases t
  cases t'
  cases h
  rfl

/-! ## Writes

Inserting and saving can be refused, and then there is no new table; deleting never is. What a write
does to the rows is said by `mem_insert`, `mem_delete` and `mem_save`, which is all that the
invariants use. -/

/-- Add a row, unless it clashes with a stored one. -/
def insert (t : Table ρ C) (r : ρ) : Option (Table ρ C) :=
  if h : ∀ x ∈ t.rows, ¬ C.clash x r then
    some ⟨t.rows ++ [r], List.pairwise_append.mpr ⟨t.distinct, List.pairwise_singleton _ _,
      fun x hx y hy => by rw [List.mem_singleton.mp hy]; exact h x hx⟩⟩
  else none

/-- Drop the rows that satisfy `p`. -/
def delete (t : Table ρ C) (p : ρ → Bool) : Table ρ C :=
  ⟨t.rows.filter fun r => !p r, t.distinct.sublist List.filter_sublist⟩

/-- Write `r` over the rows for which `same` holds, or add it when there is none. -/
def save (t : Table ρ C) (same : ρ → Bool) (r : ρ) : Option (Table ρ C) :=
  (t.delete same).insert r

theorem rows_insert {t t' : Table ρ C} {r : ρ} (h : t.insert r = some t') :
    t'.rows = t.rows ++ [r] := by
  unfold insert at h
  split at h
  · exact (Option.some.inj h) ▸ rfl
  · simp at h

theorem rows_delete (t : Table ρ C) (p : ρ → Bool) :
    (t.delete p).rows = t.rows.filter fun r => !p r := rfl

theorem mem_insert {t t' : Table ρ C} {r : ρ} (h : t.insert r = some t') {x : ρ} :
    x ∈ t' ↔ x ∈ t ∨ x = r := by
  simp [mem_def, rows_insert h]

/-- The rows that were not selected. -/
@[simp] theorem mem_delete {t : Table ρ C} {p : ρ → Bool} {x : ρ} :
    x ∈ t.delete p ↔ x ∈ t ∧ p x = false := by
  simp [mem_def, delete]

/-- The row replaces the one with its key, or is added. -/
theorem mem_save {t t' : Table ρ C} {same : ρ → Bool} {r : ρ} (h : t.save same r = some t')
    {x : ρ} : x ∈ t' ↔ x = r ∨ (x ∈ t ∧ same x = false) := by
  rw [mem_insert h, mem_delete, or_comm]

/-- An insertion is refused only because of a stored row. -/
theorem insert_eq_none {t : Table ρ C} {r : ρ} :
    t.insert r = none ↔ ∃ x ∈ t, C.clash x r := by
  unfold insert
  split
  · rename_i h
    simp only [reduceCtorEq, false_iff, not_exists, not_and]
    exact h
  · rename_i h
    simpa [mem_def] using h

/-- A save is refused only because of a stored row it does not overwrite. -/
theorem save_eq_none {t : Table ρ C} {same : ρ → Bool} {r : ρ} :
    t.save same r = none ↔ ∃ x ∈ t, same x = false ∧ C.clash x r := by
  simp [save, insert_eq_none, and_assoc]

/-- Dropping nothing leaves the table. -/
theorem delete_eq_self {t : Table ρ C} {p : ρ → Bool} (h : ∀ x ∈ t, p x = false) :
    t.delete p = t := by
  cases t with
  | mk rows distinct =>
    simp only [delete, mk.injEq, List.filter_eq_self]
    intro r hr
    rw [h r hr]
    rfl

/-- A row inserted and at once dropped again leaves the table. -/
theorem delete_insert {t t' : Table ρ C} {r : ρ} {p : ρ → Bool} (h : t.insert r = some t')
    (hold : ∀ x ∈ t, p x = false) (hr : p r = true) : t'.delete p = t := by
  cases t with
  | mk rows distinct =>
    have hrows := rows_insert h
    simp only [delete, mk.injEq, hrows, List.filter_append]
    have hfilter : rows.filter (fun x => !p x) = rows := by
      rw [List.filter_eq_self]
      intro x hx
      rw [hold x hx]
      rfl
    simp [hfilter, hr]

theorem delete_delete (t : Table ρ C) (p : ρ → Bool) : (t.delete p).delete p = t.delete p :=
  delete_eq_self fun _ hx => (mem_delete.mp hx).2

/-- Dropping a row drops also what was saved over it. -/
theorem delete_save {t t' : Table ρ C} {same : ρ → Bool} {r : ρ} (h : t.save same r = some t')
    (hr : same r = true) : t'.delete same = t.delete same :=
  delete_insert h (fun _ hx => (mem_delete.mp hx).2) hr

/-! ## Rewriting the rows

A change of all rows that keeps apart what is apart commutes with every write, as long as the
selections do not look at what it changes. -/

/-- Rewrite every row, in a way that neither makes nor mends a clash. -/
def map (t : Table ρ C) (f : ρ → ρ) (hf : ∀ a b, C.clash (f a) (f b) ↔ C.clash a b) :
    Table ρ C :=
  ⟨t.rows.map f, List.pairwise_map.mpr (t.distinct.imp fun h hc => h ((hf _ _).mp hc))⟩

section Map

variable {f : ρ → ρ} {hf : ∀ a b, C.clash (f a) (f b) ↔ C.clash a b}

theorem mem_map {t : Table ρ C} {x : ρ} : x ∈ t.map f hf ↔ ∃ r ∈ t, f r = x := List.mem_map

/-- An insertion into the rewritten table is the insertion rewritten. -/
theorem insert_map (t : Table ρ C) (r : ρ) :
    (t.map f hf).insert (f r) = (t.insert r).map fun t' => t'.map f hf := by
  cases h : t.insert r with
  | none =>
    -- a clash is one before and after the rewriting
    obtain ⟨x, hx, hclash⟩ := insert_eq_none.mp h
    exact insert_eq_none.mpr ⟨f x, mem_map.mpr ⟨x, hx, rfl⟩, (hf x r).mpr hclash⟩
  | some t' =>
    cases h' : (t.map f hf).insert (f r) with
    | none =>
      obtain ⟨_, hmem, hclash⟩ := insert_eq_none.mp h'
      obtain ⟨x, hx, rfl⟩ := mem_map.mp hmem
      have hnone : t.insert r = none := insert_eq_none.mpr ⟨x, hx, (hf x r).mp hclash⟩
      rw [hnone] at h
      cases h
    | some t'' =>
      refine congrArg some (ext_rows ?_)
      rw [rows_insert h']
      simp [map, rows_insert h]

theorem delete_map (t : Table ρ C) {p q : ρ → Bool} (hpq : ∀ r, q (f r) = p r) :
    (t.map f hf).delete q = (t.delete p).map f hf := by
  refine ext_rows ?_
  simp only [map, rows_delete, List.filter_map]
  congr 1
  exact List.filter_congr fun r _ => by simp [hpq r]

/-- So does saving, also when it is refused. -/
theorem save_map (t : Table ρ C) (r : ρ) {same same' : ρ → Bool}
    (hsame : ∀ r, same' (f r) = same r) :
    (t.map f hf).save same' (f r) = (t.save same r).map fun t' => t'.map f hf := by
  unfold save
  rw [delete_map t hsame, insert_map]

end Map

end Table

end Data
