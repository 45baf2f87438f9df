import Mathlib.Data.List.Basic

/-!
# Text — strings as UTF-16 code units

JavaScript counts, cuts and compares strings by their code units, and a string may hold half of a
surrogate pair.

* **`codeUnits`** — the units of a text.
* **`codePoints`** — reading units back: a character, or a surrogate that is not part of a pair.
* **`toScalars`** — what is left of a string in a well-formed text: a lone surrogate becomes U+FFFD.
-/

namespace Text

/-- The UTF-16 code units of a character. -/
def charUnits (c : Char) : List UInt16 :=
  if c.toNat < 0x10000 then [UInt16.ofNat c.toNat]
  else [UInt16.ofNat (0xD800 + (c.toNat - 0x10000) / 0x400),
    UInt16.ofNat (0xDC00 + (c.toNat - 0x10000) % 0x400)]

/-- A text as JavaScript counts and cuts it. -/
def codeUnits (s : List Char) : List UInt16 := s.flatMap charUnits

@[simp] theorem codeUnits_nil : codeUnits [] = [] := rfl

/-- The units of a text are those of its first character and the rest. -/
theorem codeUnits_cons (c : Char) (s : List Char) :
    codeUnits (c :: s) = charUnits c ++ codeUnits s := List.flatMap_cons

/-- What a reader of units meets: a character, or half of one. -/
inductive CodePoint where
  | scalar (c : Char)
  | lone (u : UInt16)

/-- The first half of a pair. -/
def IsHigh (u : UInt16) : Prop := 0xD800 ≤ u.toNat ∧ u.toNat ≤ 0xDBFF

/-- The second half of a pair. -/
def IsLow (u : UInt16) : Prop := 0xDC00 ≤ u.toNat ∧ u.toNat ≤ 0xDFFF

instance (u : UInt16) : Decidable (IsHigh u) := inferInstanceAs (Decidable (_ ∧ _))

instance (u : UInt16) : Decidable (IsLow u) := inferInstanceAs (Decidable (_ ∧ _))

/-- A unit that is not part of a pair. -/
def unitPoint (u : UInt16) : CodePoint :=
  if IsHigh u ∨ IsLow u then .lone u else .scalar (Char.ofNat u.toNat)

/-- The character of a pair. -/
def pairChar (high low : UInt16) : Char :=
  Char.ofNat (0x10000 + (high.toNat - 0xD800) * 0x400 + (low.toNat - 0xDC00))

/-- A high half and a low half that follow each other are one character; any other half stands
alone. -/
def codePoints : List UInt16 → List CodePoint
  | [] => []
  | [u] => [unitPoint u]
  | u :: v :: rest =>
    if IsHigh u ∧ IsLow v then .scalar (pairChar u v) :: codePoints rest
    else unitPoint u :: codePoints (v :: rest)

/-- The units it was read from. -/
def CodePoint.units : CodePoint → List UInt16
  | .scalar c => charUnits c
  | .lone u => [u]

/-- `toWellFormed` -/
def CodePoint.toScalar : CodePoint → Char
  | .scalar c => c
  | .lone _ => Char.ofNat 0xFFFD

/-- The text that a string becomes on its way out of JavaScript. -/
def toScalars (s : List UInt16) : List Char := (codePoints s).map CodePoint.toScalar

/-! ## Reading units back

Texts and units are two ways to write the same thing as long as no half stands alone: `toScalars`
undoes `codeUnits`, and the units of a text determine it. -/

theorem toNat_ofNat {n : Nat} (h : n.isValidChar) : (Char.ofNat n).toNat = n := by
  rw [Char.ofNat, dif_pos h]
  rfl

/-- A pair is the units of its character. -/
theorem charUnits_pairChar {u v : UInt16} (hu : IsHigh u) (hv : IsLow v) :
    charUnits (pairChar u v) = [u, v] := by
  obtain ⟨hu₁, hu₂⟩ := hu
  obtain ⟨hv₁, hv₂⟩ := hv
  have hpoint : (pairChar u v).toNat =
      0x10000 + (u.toNat - 0xD800) * 0x400 + (v.toNat - 0xDC00) := by
    refine toNat_ofNat (Or.inr ⟨?_, ?_⟩) <;> omega
  have hhigh : 0xD800 + ((pairChar u v).toNat - 0x10000) / 0x400 = u.toNat := by omega
  have hlow : 0xDC00 + ((pairChar u v).toNat - 0x10000) % 0x400 = v.toNat := by omega
  rw [charUnits, if_neg (by omega), hhigh, hlow, UInt16.ofNat_toNat, UInt16.ofNat_toNat]

/-- A unit by itself is read as itself. -/
theorem units_unitPoint (u : UInt16) : (unitPoint u).units = [u] := by
  unfold unitPoint
  split
  case isTrue => rfl
  case isFalse h =>
    have hlt := u.toNat_lt
    have hvalid : u.toNat.isValidChar := by
      simp only [IsHigh, IsLow, not_or] at h
      simp only [Nat.isValidChar]
      omega
    rw [CodePoint.units, charUnits, toNat_ofNat hvalid, if_pos hlt, UInt16.ofNat_toNat]

/-- The code points of a string spell it. -/
theorem units_codePoints (s : List UInt16) : (codePoints s).flatMap CodePoint.units = s := by
  induction s using codePoints.induct with
  | case1 => rfl
  | case2 u => simp [codePoints, units_unitPoint]
  | case3 u v rest h ih =>
    rw [codePoints, if_pos h, List.flatMap_cons, ih, CodePoint.units, charUnits_pairChar h.1 h.2]
    rfl
  | case4 u v rest h ih =>
    rw [codePoints, if_neg h, List.flatMap_cons, ih, units_unitPoint, List.singleton_append]

/-- A character is read back, whatever follows. -/
theorem codePoints_charUnits (c : Char) (rest : List UInt16) :
    codePoints (charUnits c ++ rest) = .scalar c :: codePoints rest := by
  have hvalid := c.valid
  have hnat : c.val.toNat = c.toNat := rfl
  unfold charUnits
  split
  case isTrue hbasic =>
    -- the unit is no surrogate, so it begins no pair with what follows
    have hunit : (UInt16.ofNat c.toNat).toNat = c.toNat := UInt16.toNat_ofNat_of_lt' hbasic
    have hsurrogate : ¬ IsHigh (UInt16.ofNat c.toNat) ∧ ¬ IsLow (UInt16.ofNat c.toNat) := by
      simp only [UInt32.isValidChar, Nat.isValidChar] at hvalid
      simp only [IsHigh, IsLow, hunit]
      omega
    have hpoint : unitPoint (UInt16.ofNat c.toNat) = .scalar c := by
      rw [unitPoint, if_neg (not_or.mpr hsurrogate), hunit, Char.ofNat_toNat]
    cases rest with
    | nil => simp only [List.append_nil, codePoints, hpoint]
    | cons v rest =>
      rw [List.singleton_append, codePoints, if_neg fun h => hsurrogate.1 h.1, hpoint]
  case isFalse hpair =>
    -- the pair puts the character together again
    have hmax : c.toNat < 0x110000 := by
      simp only [UInt32.isValidChar, Nat.isValidChar] at hvalid
      omega
    have hhigh : (UInt16.ofNat (0xD800 + (c.toNat - 0x10000) / 0x400)).toNat =
        0xD800 + (c.toNat - 0x10000) / 0x400 := UInt16.toNat_ofNat_of_lt' (by show _ < 65536; omega)
    have hlow : (UInt16.ofNat (0xDC00 + (c.toNat - 0x10000) % 0x400)).toNat =
        0xDC00 + (c.toNat - 0x10000) % 0x400 := UInt16.toNat_ofNat_of_lt' (by show _ < 65536; omega)
    have hpoint : ∀ u v : UInt16, u.toNat = 0xD800 + (c.toNat - 0x10000) / 0x400 →
        v.toNat = 0xDC00 + (c.toNat - 0x10000) % 0x400 → IsHigh u ∧ IsLow v ∧ pairChar u v = c := by
      intro u v hu hv
      refine ⟨⟨by omega, by omega⟩, ⟨by omega, by omega⟩, ?_⟩
      have hsum : 0x10000 + (u.toNat - 0xD800) * 0x400 + (v.toNat - 0xDC00) = c.toNat := by omega
      rw [pairChar, hsum, Char.ofNat_toNat]
    obtain ⟨hu, hv, hchar⟩ := hpoint _ _ hhigh hlow
    rw [List.cons_append, List.singleton_append, codePoints, if_pos ⟨hu, hv⟩, hchar]

/-- A text is read back character by character. Induction on the text. -/
theorem codePoints_codeUnits (s : List Char) : codePoints (codeUnits s) = s.map .scalar := by
  induction s with
  | nil => rfl
  | cons c s ih =>
    rw [codeUnits_cons, codePoints_charUnits, ih, List.map_cons]

/-- A text that goes out and comes back is the same. -/
@[simp] theorem toScalars_codeUnits (s : List Char) : toScalars (codeUnits s) = s := by
  rw [toScalars, codePoints_codeUnits, List.map_map]
  exact List.map_id'' (fun _ => rfl) s

theorem codeUnits_injective : Function.Injective codeUnits :=
  Function.LeftInverse.injective toScalars_codeUnits

/-- A string that was well-formed all along is its text. -/
theorem eq_codeUnits_of_toScalars {units : List UInt16} {s : List Char} (h : toScalars units = s)
    (hs : Char.ofNat 0xFFFD ∉ s) : units = codeUnits s := by
  -- a lone surrogate would have left U+FFFD in the text
  have hpoints : ∀ points : List CodePoint, Char.ofNat 0xFFFD ∉ points.map CodePoint.toScalar →
      points.flatMap CodePoint.units = codeUnits (points.map CodePoint.toScalar) := by
    intro points hpoints
    induction points with
    | nil => rfl
    | cons p points ih =>
      rw [List.map_cons, List.mem_cons, not_or] at hpoints
      rw [List.flatMap_cons, ih hpoints.2, List.map_cons, codeUnits_cons]
      cases p with
      | scalar c => rfl
      | lone u => exact absurd rfl hpoints.1
  subst h
  exact (units_codePoints units).symm.trans (hpoints (codePoints units) hs)

/-- An ASCII character occurs in the units as it does in the text. -/
theorem mem_codeUnits {c : Char} (hc : c.toNat < 0x80) (s : List Char) :
    UInt16.ofNat c.toNat ∈ codeUnits s ↔ c ∈ s := by
  have hnat : (UInt16.ofNat c.toNat).toNat = c.toNat :=
    UInt16.toNat_ofNat_of_lt' (show c.toNat < 65536 by omega)
  have hchar : ∀ d : Char, UInt16.ofNat c.toNat ∈ charUnits d ↔ c = d := by
    intro d
    constructor
    · intro hmem
      have hunit : ∃ u ∈ charUnits d, u.toNat = c.toNat := ⟨_, hmem, hnat⟩
      obtain ⟨u, hu, hucd⟩ := hunit
      have hd : d.toNat < 0x110000 := by
        have hvalid : d.toNat < 0xD800 ∨ (0xDFFF < d.toNat ∧ d.toNat < 0x110000) := d.valid
        omega
      unfold charUnits at hu
      split at hu
      case isTrue hbasic =>
        rw [List.mem_singleton.mp hu, UInt16.toNat_ofNat_of_lt' hbasic] at hucd
        exact (Char.toNat_inj.mp hucd).symm
      case isFalse =>
        -- surrogates are not ASCII
        simp only [List.mem_cons, List.not_mem_nil, or_false] at hu
        rcases hu with rfl | rfl
        · rw [UInt16.toNat_ofNat_of_lt' (by show _ < 65536; omega)] at hucd
          omega
        · rw [UInt16.toNat_ofNat_of_lt' (by show _ < 65536; omega)] at hucd
          omega
    · rintro rfl
      rw [charUnits, if_pos (by omega)]
      exact List.mem_singleton_self _
  simp only [codeUnits, List.mem_flatMap, hchar]
  constructor
  · rintro ⟨d, hd, rfl⟩
    exact hd
  · exact fun h => ⟨c, h, rfl⟩

end Text
