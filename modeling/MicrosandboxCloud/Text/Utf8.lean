import Mathlib.Data.List.Basic

/-!
# Text — UTF-8

* **`encodeUtf8`** — the bytes of a text.
* **`decodeFrom`** — the decoder as a state machine over bytes. What is not UTF-8 becomes U+FFFD, once
  for each longest start of a character.
* **`decodeUtf8_encodeUtf8`** — decoding undoes encoding.
-/

namespace Text

/-- The bytes of one character: one below U+0080, two below U+0800, three below U+10000, four from
there on. -/
def utf8Char (c : Char) : List UInt8 :=
  let n := c.toNat
  if n < 0x80 then [UInt8.ofNat n]
  else if n < 0x800 then [UInt8.ofNat (0xC0 + n / 0x40), UInt8.ofNat (0x80 + n % 0x40)]
  else if n < 0x10000 then
    [UInt8.ofNat (0xE0 + n / 0x1000), UInt8.ofNat (0x80 + n / 0x40 % 0x40),
      UInt8.ofNat (0x80 + n % 0x40)]
  else
    [UInt8.ofNat (0xF0 + n / 0x40000), UInt8.ofNat (0x80 + n / 0x1000 % 0x40),
      UInt8.ofNat (0x80 + n / 0x40 % 0x40), UInt8.ofNat (0x80 + n % 0x40)]

/-- The bytes of a text. -/
def encodeUtf8 (s : List Char) : List UInt8 := s.flatMap utf8Char

/-- The replacement character. -/
def replacement : Char := Char.ofNat 0xFFFD

/-- Where the decoder stands: between characters, or before another `needed` bytes of one, the next
of which has to lie between `lower` and `upper`. -/
inductive Utf8State where
  | ready
  | more (needed point lower upper : Nat)

/-- The first byte of a character. -/
def leadByte (b : Nat) : List Char × Utf8State :=
  if b < 0x80 then ([Char.ofNat b], .ready)
  else if 0xC2 ≤ b ∧ b ≤ 0xDF then ([], .more 1 (b % 0x20) 0x80 0xBF)
  else if 0xE0 ≤ b ∧ b ≤ 0xEF then
    ([], .more 2 (b % 0x10) (if b = 0xE0 then 0xA0 else 0x80) (if b = 0xED then 0x9F else 0xBF))
  else if 0xF0 ≤ b ∧ b ≤ 0xF4 then
    ([], .more 3 (b % 0x8) (if b = 0xF0 then 0x90 else 0x80) (if b = 0xF4 then 0x8F else 0xBF))
  else ([replacement], .ready)

/-- A byte: the characters that are complete, and the next state. -/
def nextByte : Utf8State → Nat → List Char × Utf8State
  | .ready, b => leadByte b
  | .more needed point lower upper, b =>
    if lower ≤ b ∧ b ≤ upper then
      if needed = 1 then ([Char.ofNat (point * 0x40 + b % 0x40)], .ready)
      else ([], .more (needed - 1) (point * 0x40 + b % 0x40) 0x80 0xBF)
    else
      -- the byte starts over
      (replacement :: (leadByte b).1, (leadByte b).2)

/-- The text of bytes, from a state of the decoder. A character that the end cuts off becomes one
replacement character. -/
def decodeFrom : Utf8State → List UInt8 → List Char
  | .ready, [] => []
  | .more _ _ _ _, [] => [replacement]
  | state, b :: rest => (nextByte state b.toNat).1 ++ decodeFrom (nextByte state b.toNat).2 rest

/-- The text of bytes, as Node reads them. -/
def decodeUtf8 (bytes : List UInt8) : List Char := decodeFrom .ready bytes

/-! ## Round trip

The bytes of one character bring the decoder back to its first state, having read that character.
The cases are the four lengths. -/

section RoundTrip

variable {rest : List UInt8} {b needed point lower upper : Nat}

theorem decodeFrom_cons (state : Utf8State) (hb : b < 256) :
    decodeFrom state (UInt8.ofNat b :: rest) =
      (nextByte state b).1 ++ decodeFrom (nextByte state b).2 rest := by
  have hnat : (UInt8.ofNat b).toNat = b := UInt8.toNat_ofNat_of_lt' hb
  cases state <;> rw [decodeFrom, hnat]

/-- The last byte of a character. -/
theorem decodeFrom_last (h : lower ≤ b ∧ b ≤ upper) (hb : b < 256) :
    decodeFrom (.more 1 point lower upper) (UInt8.ofNat b :: rest) =
      Char.ofNat (point * 0x40 + b % 0x40) :: decodeFrom .ready rest := by
  rw [decodeFrom_cons _ hb, nextByte, if_pos h, if_pos rfl]
  rfl

/-- A byte within a character. -/
theorem decodeFrom_more (h : lower ≤ b ∧ b ≤ upper) (hb : b < 256) (hneeded : needed ≠ 0) :
    decodeFrom (.more (needed + 1) point lower upper) (UInt8.ofNat b :: rest) =
      decodeFrom (.more needed (point * 0x40 + b % 0x40) 0x80 0xBF) rest := by
  rw [decodeFrom_cons _ hb, nextByte, if_pos h, if_neg (by omega)]
  rfl

/-- The bytes of a character are read as that character. -/
theorem decodeFrom_utf8Char (c : Char) (rest : List UInt8) :
    decodeFrom .ready (utf8Char c ++ rest) = c :: decodeFrom .ready rest := by
  have hvalid : c.toNat < 0xD800 ∨ (0xDFFF < c.toNat ∧ c.toNat < 0x110000) := c.valid
  unfold utf8Char
  dsimp only
  split_ifs with h1 h2 h3
  · -- one byte
    rw [List.singleton_append, decodeFrom_cons _ (by omega), nextByte, leadByte, if_pos h1,
      Char.ofNat_toNat]
    rfl
  · -- two bytes
    have hlead : nextByte .ready (0xC0 + c.toNat / 0x40) =
        ([], .more 1 (c.toNat / 0x40) 0x80 0xBF) := by
      rw [nextByte, leadByte, if_neg (by omega), if_pos (by omega)]
      congr 2
      omega
    rw [List.cons_append, List.singleton_append, decodeFrom_cons _ (by omega), hlead,
      List.nil_append, decodeFrom_last (by omega) (by omega)]
    have hpoint : c.toNat / 0x40 * 0x40 + (0x80 + c.toNat % 0x40) % 0x40 = c.toNat := by omega
    rw [hpoint, Char.ofNat_toNat]
  · -- three bytes
    have hlead : nextByte .ready (0xE0 + c.toNat / 0x1000) =
        ([], .more 2 (c.toNat / 0x1000) (if c.toNat / 0x1000 = 0 then 0xA0 else 0x80)
          (if c.toNat / 0x1000 = 13 then 0x9F else 0xBF)) := by
      rw [nextByte, leadByte, if_neg (by omega), if_neg (by omega), if_pos (by omega)]
      congr 2
      · omega
      · exact if_congr (by omega) rfl rfl
      · exact if_congr (by omega) rfl rfl
    -- the bounds of the second byte keep out what two bytes or a surrogate would spell
    have hsecond : (if c.toNat / 0x1000 = 0 then 0xA0 else 0x80) ≤ 0x80 + c.toNat / 0x40 % 0x40 ∧
        0x80 + c.toNat / 0x40 % 0x40 ≤ if c.toNat / 0x1000 = 13 then 0x9F else 0xBF := by
      constructor <;> split <;> omega
    rw [List.cons_append, List.cons_append, List.singleton_append, decodeFrom_cons _ (by omega),
      hlead, List.nil_append, decodeFrom_more hsecond (by omega) (by decide),
      decodeFrom_last (by omega) (by omega)]
    have hpoint : (c.toNat / 0x1000 * 0x40 + (0x80 + c.toNat / 0x40 % 0x40) % 0x40) * 0x40 +
        (0x80 + c.toNat % 0x40) % 0x40 = c.toNat := by omega
    rw [hpoint, Char.ofNat_toNat]
  · -- four bytes
    have hlead : nextByte .ready (0xF0 + c.toNat / 0x40000) =
        ([], .more 3 (c.toNat / 0x40000) (if c.toNat / 0x40000 = 0 then 0x90 else 0x80)
          (if c.toNat / 0x40000 = 4 then 0x8F else 0xBF)) := by
      rw [nextByte, leadByte, if_neg (by omega), if_neg (by omega), if_neg (by omega),
        if_pos (by omega)]
      congr 2
      · omega
      · exact if_congr (by omega) rfl rfl
      · exact if_congr (by omega) rfl rfl
    -- and here what three bytes would spell, or nothing at all
    have hsecond : (if c.toNat / 0x40000 = 0 then 0x90 else 0x80) ≤
          0x80 + c.toNat / 0x1000 % 0x40 ∧
        0x80 + c.toNat / 0x1000 % 0x40 ≤ if c.toNat / 0x40000 = 4 then 0x8F else 0xBF := by
      constructor <;> split <;> omega
    rw [List.cons_append, List.cons_append, List.cons_append, List.singleton_append,
      decodeFrom_cons _ (by omega), hlead, List.nil_append,
      decodeFrom_more hsecond (by omega) (by decide),
      decodeFrom_more (by omega) (by omega) (by decide), decodeFrom_last (by omega) (by omega)]
    have hpoint : ((c.toNat / 0x40000 * 0x40 + (0x80 + c.toNat / 0x1000 % 0x40) % 0x40) * 0x40 +
        (0x80 + c.toNat / 0x40 % 0x40) % 0x40) * 0x40 + (0x80 + c.toNat % 0x40) % 0x40 =
        c.toNat := by omega
    rw [hpoint, Char.ofNat_toNat]

end RoundTrip

theorem decodeUtf8_encodeUtf8 (s : List Char) : decodeUtf8 (encodeUtf8 s) = s := by
  induction s with
  | nil => rfl
  | cons c s ih =>
    rw [decodeUtf8, encodeUtf8, List.flatMap_cons, decodeFrom_utf8Char]
    exact congrArg (c :: ·) ih

theorem encodeUtf8_injective : Function.Injective encodeUtf8 :=
  Function.LeftInverse.injective decodeUtf8_encodeUtf8

end Text
