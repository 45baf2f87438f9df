/-!
# Data — natural numbers as doubles

A double holds 53 significant bits. A longer number is read as the nearest one that has no more,
and a tie goes to the one whose last bit is even.

* **`roundEven`** — a number in multiples of a unit: the nearest one, the even one of two.
* **`ofNat`** — the double that a natural number is read as. Infinity stands as `2 ^ 1024`, the
  least power of two that is no double.
* **`ofNat_eq_self`** — numbers below `2 ^ 53` are doubles themselves.
-/

namespace Data.Double

/-- The multiple of `unit` that is nearest to `n`: `n` is `q` units and a remainder `r`, which is
dropped when it is less than half a unit, or just half and `q` is even. -/
def roundEven (unit n : Nat) : Nat :=
  let q := n / unit
  let r := n % unit
  if 2 * r < unit ∨ (2 * r = unit ∧ q % 2 = 0) then q * unit else (q + 1) * unit

/-- What is no double any more, and stands for infinity. -/
def infinity : Nat := Nat.pow 2 1024

/-- The value of the last of the 53 bits of a double that is as large as `n`. -/
def lastPlace (n : Nat) : Nat := Nat.pow 2 (n.log2 - 52)

/-- The double that `n` is read as. -/
def ofNat (n : Nat) : Nat := min (roundEven (lastPlace n) n) infinity

/-- Nothing is rounded to a multiple of one. -/
theorem roundEven_one (n : Nat) : roundEven 1 n = n := by
  unfold roundEven
  rw [Nat.mod_one, Nat.div_one, if_pos (Or.inl Nat.one_pos), Nat.mul_one]

/-- A number below `2 ^ 53` has no bit to lose. -/
theorem lastPlace_eq_one {n : Nat} (h : n < Nat.pow 2 53) : lastPlace n = 1 := by
  have hlog : n.log2 ≤ 52 := by
    rcases Nat.eq_zero_or_pos n with rfl | hpos
    · rw [Nat.log2_zero]
      exact Nat.zero_le 52
    · exact Nat.le_of_lt_succ ((Nat.log2_lt (Nat.ne_of_gt hpos)).mpr h)
  rw [lastPlace, Nat.sub_eq_zero_of_le hlog]

/-- A number below `2 ^ 53` is a double. -/
theorem ofNat_eq_self {n : Nat} (h : n < Nat.pow 2 53) : ofNat n = n := by
  have hfinite : Nat.pow 2 53 ≤ infinity := by decide +kernel
  rw [ofNat, lastPlace_eq_one h, roundEven_one]
  exact Nat.min_eq_left (Nat.le_trans (Nat.le_of_lt h) hfinite)

/-- Halfway between two doubles, both ways, and past the last one. -/
example : ofNat 9007199254740993 = 9007199254740992 ∧ ofNat 9007199254740995 = 9007199254740996 ∧
    ofNat (Nat.pow 10 309) = infinity := by
  decide +kernel

end Data.Double
