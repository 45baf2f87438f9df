import MicrosandboxCloud.Data.Double
import MicrosandboxCloud.Text.Chars

/-!
# Text — paths with a port, and percent-decoding

* **`decodeURIComponent`** — percent-escapes read as UTF-8; anything malformed is refused.
* **`matchPortPath`** — a match of `/^<literal>([^/]+)\/ports\/(\d+)(\/.*)?$/`. Each group is the
  longest run of its characters, so a match is determined by the text: `matchPortPath_eq_some`.
* **`number`** — the port of a path: a double, exact below `2 ^ 53` (`number_toDigits`).
-/

namespace Text

/-! ## `decodeURIComponent`

The text is first cut into units, a plain character or the byte of a percent-escape; then the bytes
are read as UTF-8. A malformed escape and bytes that are not UTF-8 are both refused. -/

/-- The value of a hexadecimal digit in either case. -/
def hexDigit (c : Char) : Option Nat :=
  if 48 ≤ c.toNat ∧ c.toNat ≤ 57 then some (c.toNat - 48)
  else if 65 ≤ c.toNat ∧ c.toNat ≤ 70 then some (c.toNat - 55)
  else if 97 ≤ c.toNat ∧ c.toNat ≤ 102 then some (c.toNat - 87)
  else none

/-- A character that stands for itself, or an escaped byte. -/
inductive UriUnit where
  | plain (c : Char)
  | byte (b : Nat)

/-- Split a text into units. A `%` without two hexadecimal digits is malformed. -/
def uriUnits : List Char → Option (List UriUnit)
  | [] => some []
  | '%' :: a :: b :: rest =>
    match hexDigit a, hexDigit b, uriUnits rest with
    | some hi, some lo, some units => some (.byte (16 * hi + lo) :: units)
    | _, _, _ => none
  | c :: rest => if c = '%' then none else (uriUnits rest).map (.plain c :: ·)

/-- A UTF-8 sequence that is not complete: the continuation bytes to come, the bits read so far,
and the least code point a sequence of this length may stand for. -/
structure Utf8Rest where
  left : Nat
  bits : Nat
  least : Nat

/-- The first byte of a UTF-8 sequence of more than one byte. -/
def utf8Lead (b : Nat) : Option Utf8Rest :=
  if 0xC0 ≤ b ∧ b < 0xE0 then some ⟨1, b - 0xC0, 0x80⟩
  else if 0xE0 ≤ b ∧ b < 0xF0 then some ⟨2, b - 0xE0, 0x800⟩
  else if 0xF0 ≤ b ∧ b < 0xF8 then some ⟨3, b - 0xF0, 0x10000⟩
  else none

/-- Read units as text; escaped bytes are UTF-8. -/
def decodeUnits : Option Utf8Rest → List UriUnit → Option (List Char)
  | none, [] => some []
  | some _, [] => none
  | none, .plain c :: units => (decodeUnits none units).map (c :: ·)
  | some _, .plain _ :: _ => none
  | none, .byte b :: units =>
    if b < 0x80 then (decodeUnits none units).map (Char.ofNat b :: ·)
    else match utf8Lead b with
      | none => none
      | some rest => decodeUnits (some rest) units
  | some rest, .byte b :: units =>
    if 0x80 ≤ b ∧ b < 0xC0 then
      if rest.left = 1 then
        -- overlong forms, surrogates and what lies beyond Unicode are malformed
        if rest.least ≤ 64 * rest.bits + (b - 0x80) ∧ (64 * rest.bits + (b - 0x80)).isValidChar then
          (decodeUnits none units).map (Char.ofNat (64 * rest.bits + (b - 0x80)) :: ·)
        else none
      else decodeUnits (some ⟨rest.left - 1, 64 * rest.bits + (b - 0x80), rest.least⟩) units
    else none

/-- `decodeURIComponent(s)`, which throws on malformed escapes. -/
def decodeURIComponent (s : List Char) : Option String :=
  ((uriUnits s).bind (decodeUnits none)).map String.ofList

/-- A text without a percent sign stands for itself. -/
theorem decodeURIComponent_eq_self {s : List Char} (h : '%' ∉ s) :
    decodeURIComponent s = some (String.ofList s) := by
  have hunits : uriUnits s = some (s.map .plain) := by
    induction s with
    | nil => rfl
    | cons c s ih =>
      rw [List.mem_cons, not_or] at h
      have hc : c ≠ '%' := Ne.symm h.1
      simp [uriUnits, hc, ih h.2]
  have hdecode : ∀ s : List Char, decodeUnits none (s.map .plain) = some s := by
    intro s
    induction s with
    | nil => rfl
    | cons c s ih => simp [decodeUnits, ih]
  rw [decodeURIComponent, hunits, Option.bind_some, hdecode, Option.map_some]

/-! ## Runs of characters

The longest run of a class at the front of a text, and what follows it. -/

/-- Drop a literal text. -/
def dropLiteral : List Char → List Char → Option (List Char)
  | [], s => some s
  | _ :: _, [] => none
  | c :: literal, d :: s => if c = d then dropLiteral literal s else none

/-- A literal is dropped from the texts that begin with it. -/
theorem dropLiteral_eq_some {literal s rest : List Char} :
    dropLiteral literal s = some rest ↔ s = literal ++ rest := by
  induction literal generalizing s with
  | nil => simp [dropLiteral]
  | cons c literal ih =>
    cases s with
    | nil => simp [dropLiteral]
    | cons d s =>
      by_cases hcd : c = d
      · subst hcd
        simp [dropLiteral, ih]
      · have hdc : d ≠ c := fun h => hcd h.symm
        simp [dropLiteral, hcd, hdc]

/-- The longest run of characters satisfying `p` is `run` when what follows does not begin with
one. -/
theorem takeWhile_run {p : Char → Bool} {run rest : List Char} (hrun : ∀ c ∈ run, p c = true)
    (hrest : ∀ c, rest.head? = some c → p c = false) :
    (run ++ rest).takeWhile p = run ∧ (run ++ rest).dropWhile p = rest := by
  rw [List.takeWhile_append_of_pos hrun, List.dropWhile_append_of_pos hrun]
  cases rest with
  | nil => simp
  | cons c rest =>
    have hc : p c = false := hrest c rfl
    simp [hc]

/-- A text has one segment before its first slash. -/
theorem segment_unique {a b x y : List Char} (ha : ∀ c ∈ a, (c != '/') = true)
    (hb : ∀ c ∈ b, (c != '/') = true) (h : a ++ '/' :: x = b ++ '/' :: y) : a = b ∧ x = y := by
  have hstop : ∀ (z : List Char) (c : Char), ('/' :: z).head? = some c → (c != '/') = false := by
    intro z c hc
    rw [← Option.some.inj hc]
    rfl
  have hleft := takeWhile_run ha (hstop x)
  have hright := takeWhile_run hb (hstop y)
  rw [h] at hleft
  refine ⟨hleft.1.symm.trans hright.1, ?_⟩
  have hrest : '/' :: x = '/' :: y := hleft.2.symm.trans hright.2
  exact List.tail_eq_of_cons_eq hrest

/-! ## Paths with a port

The pattern has one way to match a text, since each group is followed by a character it cannot hold.
`Spells` says what the groups are, without saying how they are found. -/

/-- The class `\d`. -/
def isDigit (c : Char) : Bool := 48 ≤ c.toNat && c.toNat ≤ 57

/-- The number that decimal digits spell. -/
def decimal (digits : List Char) : Nat := digits.foldl (fun n c => 10 * n + (c.toNat - 48)) 0

/-- `Number(digits)`, which is a double. -/
def number (digits : List Char) : Int := Data.Double.ofNat (decimal digits)

theorem isDigit_eq (c : Char) : isDigit c = c.isDigit := by
  rw [isDigit, Char.isDigit, Bool.eq_iff_iff]
  simp [UInt32.le_iff_toNat_le]

theorem decimal_toDigits (n : Nat) : decimal (Nat.toDigits 10 n) = n := by
  have hfold : ∀ (digits : List Char) (m : Nat),
      digits.foldl (fun n c => 10 * n + (c.toNat - 48)) m = Nat.ofDigitChars 10 digits m := by
    intro digits
    induction digits with
    | nil => intro m; simp
    | cons c digits ih =>
      intro m
      rw [List.foldl_cons, Nat.ofDigitChars_cons, ← ih]
      rfl
  rw [decimal, hfold, Nat.ofDigitChars_ten_toDigits]

/-- The digits of a number are read back, unless it has too many to be a double. -/
theorem number_toDigits {n : Nat} (h : n < Nat.pow 2 53) : number (Nat.toDigits 10 n) = n := by
  rw [number, decimal_toDigits, Data.Double.ofNat_eq_self h]

/-- What `.` does not match. -/
def isLineTerminator (c : Char) : Bool := c.toNat ∈ [10, 13, 8232, 8233]

/-- A match of `(\/.*)?$`. -/
def isTail : List Char → Bool
  | [] => true
  | c :: s => c == '/' && s.all fun c => !isLineTerminator c

/-- The groups of a match. -/
structure PortPath where
  segment : List Char
  digits : List Char
  rest : List Char
  deriving DecidableEq

/-- `/ports/`. -/
def portsLiteral : List Char := "/ports/".toList

/-- The groups of a match, read from the front of the text. -/
def matchPortPath (literal s : List Char) : Option PortPath :=
  match dropLiteral literal s with
  | none => none
  | some s =>
    match dropLiteral portsLiteral (s.dropWhile fun c => c != '/') with
    | none => none
    | some t =>
      if s.takeWhile (fun c => c != '/') ≠ [] ∧ t.takeWhile isDigit ≠ [] ∧
          isTail (t.dropWhile isDigit) = true then
        some ⟨s.takeWhile fun c => c != '/', t.takeWhile isDigit, t.dropWhile isDigit⟩
      else none

/-- The text is the literal, a segment, `/ports/`, digits, and then nothing or a path. -/
structure PortPath.Spells (p : PortPath) (literal s : List Char) : Prop where
  text : s = literal ++ (p.segment ++ (portsLiteral ++ (p.digits ++ p.rest)))
  segment_ne : p.segment ≠ []
  segment_plain : ∀ c ∈ p.segment, (c != '/') = true
  digits_ne : p.digits ≠ []
  digits_digit : ∀ c ∈ p.digits, isDigit c = true
  rest_tail : isTail p.rest = true

/-- What follows the port does not begin with a digit, so the port is the longest run. -/
theorem isDigit_of_tail {s : List Char} (h : isTail s = true) :
    ∀ c, s.head? = some c → isDigit c = false := by
  intro c hc
  cases s with
  | nil => cases hc
  | cons d s =>
    simp only [List.head?_cons, Option.some.injEq] at hc
    subst hc
    have hslash : d = '/' := by
      simp only [isTail, Bool.and_eq_true, beq_iff_eq] at h
      exact h.1
    rw [hslash]
    decide

/-- The match finds the groups of the texts that the pattern describes, and of no others. -/
theorem matchPortPath_eq_some {literal s : List Char} {p : PortPath} :
    matchPortPath literal s = some p ↔ p.Spells literal s := by
  constructor
  · intro h
    unfold matchPortPath at h
    split at h
    · cases h
    · rename_i t ht
      split at h
      · cases h
      · rename_i u hu
        split_ifs at h with hgroups
        obtain ⟨hsegment, hdigits, hrest⟩ := hgroups
        rw [dropLiteral_eq_some] at ht hu
        cases h
        refine ⟨?_, hsegment, fun c hc => List.mem_takeWhile_imp (p := fun c => c != '/') hc, hdigits,
          fun c hc => List.mem_takeWhile_imp hc, hrest⟩
        show s = literal ++ (_ ++ (portsLiteral ++ (_ ++ _)))
        rw [List.takeWhile_append_dropWhile, ← hu, List.takeWhile_append_dropWhile, ht]
  · intro h
    -- the segment ends at a slash, the digits at a slash or at the end
    have hsegment : (p.segment ++ (portsLiteral ++ (p.digits ++ p.rest))).takeWhile
          (fun c => c != '/') = p.segment ∧
        (p.segment ++ (portsLiteral ++ (p.digits ++ p.rest))).dropWhile
          (fun c => c != '/') = portsLiteral ++ (p.digits ++ p.rest) := by
      refine takeWhile_run h.segment_plain fun c hc => ?_
      have hslash : '/' = c := Option.some.inj hc
      simp [← hslash]
    have hdigits : (p.digits ++ p.rest).takeWhile isDigit = p.digits ∧
        (p.digits ++ p.rest).dropWhile isDigit = p.rest :=
      takeWhile_run h.digits_digit (isDigit_of_tail h.rest_tail)
    unfold matchPortPath
    rw [dropLiteral_eq_some.mpr h.text]
    simp only [hsegment.1, hsegment.2, dropLiteral_eq_some.mpr rfl, hdigits.1, hdigits.2]
    rw [if_pos ⟨h.segment_ne, h.digits_ne, h.rest_tail⟩]

end Text
