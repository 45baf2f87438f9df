import MicrosandboxCloud.Text.Url
import MicrosandboxCloud.Text.Utf8
import MicrosandboxCloud.Text.Utf16

/-!
# Text — query strings between two languages

A parameter as Go's `url.Values.Encode` writes it, and as Node's `querystring.parse` reads it.

* **`queryEscape` / `queryUnescape`** — a space as a plus sign, and a byte that is not kept as a
  percent-escape. What does not read as UTF-8 is read byte by byte.
* **`parameter`** — the first pair of a query with a key.
* **`parameter_encode`** — a text encoded by one side is read back by the other.
-/

namespace Text.Query

open Text.Url

/-- What `url.QueryEscape` keeps: digits, letters, and `-`, `.`, `_`, `~`. -/
def isKept (b : Nat) : Bool :=
  (48 ≤ b && b ≤ 57) || (65 ≤ b && b ≤ 90) || (97 ≤ b && b ≤ 122) || b ∈ [45, 46, 95, 126]

/-- One byte of a query: a space as a plus sign, a byte that is kept as it is, any other as a
percent-escape. -/
def escapeByte (b : UInt8) : List Char :=
  if b.toNat = 32 then ['+']
  else if isKept b.toNat then [Char.ofNat b.toNat]
  else percentByte b

/-- `url.QueryEscape(s)` -/
def queryEscape (s : List UInt8) : List Char := s.flatMap escapeByte

/-- `unescapeBuffer(s)`: an escape that is none stands for itself. -/
def unescapeBuffer : List Char → List UInt8
  | [] => []
  | '%' :: a :: b :: rest =>
    match hexDigit a, hexDigit b with
    | some hi, some lo => UInt8.ofNat (16 * hi + lo) :: unescapeBuffer rest
    | _, _ => UInt8.ofNat 37 :: unescapeBuffer (a :: b :: rest)
  | c :: rest => UInt8.ofNat c.toNat :: unescapeBuffer rest

/-- The plus sign stands for a space in a query. -/
def plusToSpace (c : Char) : Char := if c = '+' then ' ' else c

/-- `querystring.unescape`, after plus signs were read as spaces. -/
def queryUnescape (s : List Char) : String :=
  match decodeURIComponent (s.map plusToSpace) with
  | some text => text
  | none => String.ofList (decodeUtf8 (unescapeBuffer (s.map plusToSpace)))

/-- `url.Values{key: {value}}.Encode()`, for a key that is kept. -/
def encode (key : List Char) (value : List UInt8) : List Char := key ++ '=' :: queryEscape value

/-- The value under a key, of the first pair that has it. -/
def parameter (key query : List Char) : Option String :=
  ((query.splitOn '&').find? fun pair => pair.takeWhile (· != '=') == key).map fun pair =>
    queryUnescape ((pair.dropWhile (· != '=')).drop 1)

/-! ## Percent-escapes are read as what they escape

A percent-escape is read as the byte that was written, whatever follows; so the bytes of a character
come back in their order, and the decoder puts the character together. -/

section Escapes

variable {rest : List Char}

theorem hexDigit_hexUpper : ∀ n < 16, hexDigit (hexUpper n) = some n := by decide

theorem uriUnits_percentByte (b : UInt8) :
    uriUnits (percentByte b ++ rest) = (uriUnits rest).map (.byte b.toNat :: ·) := by
  have hlt : b.toNat < 256 := b.toNat_lt
  have hhigh := hexDigit_hexUpper (b.toNat / 16) (by omega)
  have hlow := hexDigit_hexUpper (b.toNat % 16) (by omega)
  have hbyte : 16 * (b.toNat / 16) + b.toNat % 16 = b.toNat := by omega
  simp only [percentByte, List.cons_append, List.nil_append, uriUnits, hhigh, hlow]
  cases uriUnits rest with
  | none => rfl
  | some units => simp only [hbyte, Option.map_some]

theorem uriUnits_percentBytes (bytes : List UInt8) :
    uriUnits (bytes.flatMap percentByte ++ rest) =
      (uriUnits rest).map (bytes.map (fun b => .byte b.toNat) ++ ·) := by
  induction bytes with
  | nil => simp
  | cons b bytes ih =>
    rw [List.flatMap_cons, List.append_assoc, uriUnits_percentByte, ih, Option.map_map]
    rfl

theorem uriUnits_plain {c : Char} (hc : c ≠ '%') :
    uriUnits (c :: rest) = (uriUnits rest).map (.plain c :: ·) := by
  simp [uriUnits, hc]

end Escapes

section Bytes

variable {units : List UriUnit} {n b : Nat}

/-- The first byte of a character of two bytes. -/
theorem utf8Lead_two (h : n < 0x20) : utf8Lead (0xC0 + n) = some ⟨1, n, 0x80⟩ := by
  rw [utf8Lead, if_pos (by omega), Nat.add_sub_cancel_left]

/-- The first byte of a character of three bytes. -/
theorem utf8Lead_three (h : n < 0x10) : utf8Lead (0xE0 + n) = some ⟨2, n, 0x800⟩ := by
  rw [utf8Lead, if_neg (by omega), if_pos (by omega), Nat.add_sub_cancel_left]

/-- The first byte of a character of four bytes. -/
theorem utf8Lead_four (h : n < 0x8) : utf8Lead (0xF0 + n) = some ⟨3, n, 0x10000⟩ := by
  rw [utf8Lead, if_neg (by omega), if_neg (by omega), if_pos (by omega), Nat.add_sub_cancel_left]

/-- The first byte of a sequence. -/
theorem decodeUnits_lead {start : Utf8Rest} (hb : 0x80 ≤ b) (hlead : utf8Lead b = some start) :
    decodeUnits none (.byte b :: units) = decodeUnits (some start) units := by
  rw [decodeUnits, if_neg (by omega), hlead]

/-- A byte within a sequence. -/
theorem decodeUnits_more {left bits least : Nat} (hleft : left ≠ 0) (hb : b < 0x40) :
    decodeUnits (some ⟨left + 1, bits, least⟩) (.byte (0x80 + b) :: units) =
      decodeUnits (some ⟨left, 64 * bits + b, least⟩) units := by
  rw [decodeUnits, if_pos (by omega), if_neg (by simpa using hleft)]
  simp only [Nat.add_sub_cancel, Nat.add_sub_cancel_left]

/-- The last byte of a sequence. -/
theorem decodeUnits_last {bits least : Nat} {c : Char} (hb : b < 0x40)
    (hpoint : 64 * bits + b = c.toNat) (hleast : least ≤ c.toNat) :
    decodeUnits (some ⟨1, bits, least⟩) (.byte (0x80 + b) :: units) =
      (decodeUnits none units).map (c :: ·) := by
  have hvalid : c.toNat.isValidChar := c.valid
  rw [decodeUnits, if_pos (by omega), if_pos rfl]
  simp only [Nat.add_sub_cancel_left, hpoint, if_pos (And.intro hleast hvalid), Char.ofNat_toNat]

/-- The bytes of a character are read as the character. -/
theorem decodeUnits_utf8Char (c : Char) :
    decodeUnits none ((utf8Char c).map (fun b => .byte b.toNat) ++ units) =
      (decodeUnits none units).map (c :: ·) := by
  have hvalid : c.toNat < 0xD800 ∨ (0xDFFF < c.toNat ∧ c.toNat < 0x110000) := c.valid
  have hbyte : ∀ n < 256, (UInt8.ofNat n).toNat = n := fun n hn => UInt8.toNat_ofNat_of_lt' hn
  unfold utf8Char
  dsimp only
  split_ifs with h1 h2 h3
  · -- one byte
    simp only [List.map_cons, List.map_nil, List.cons_append, List.nil_append]
    rw [hbyte _ (by omega), decodeUnits, if_pos h1, Char.ofNat_toNat]
  · -- two bytes
    simp only [List.map_cons, List.map_nil, List.cons_append, List.nil_append]
    rw [hbyte _ (by omega), hbyte _ (by omega),
      decodeUnits_lead (by omega) (utf8Lead_two (by omega))]
    exact decodeUnits_last (by omega) (by omega) (by omega)
  · -- three bytes
    simp only [List.map_cons, List.map_nil, List.cons_append, List.nil_append]
    rw [hbyte _ (by omega), hbyte _ (by omega), hbyte _ (by omega),
      decodeUnits_lead (by omega) (utf8Lead_three (by omega)),
      decodeUnits_more (by decide) (by omega)]
    exact decodeUnits_last (by omega) (by omega) (by omega)
  · -- four bytes
    simp only [List.map_cons, List.map_nil, List.cons_append, List.nil_append]
    rw [hbyte _ (by omega), hbyte _ (by omega), hbyte _ (by omega), hbyte _ (by omega),
      decodeUnits_lead (by omega) (utf8Lead_four (by omega)),
      decodeUnits_more (by decide) (by omega), decodeUnits_more (by decide) (by omega)]
    exact decodeUnits_last (by omega) (by omega) (by omega)

end Bytes

/-! ## Round trip

One character at a time: the bytes that Go has written for it are read by Node as that character,
and then the text by induction. -/

/-- The bytes that are kept: digits, letters and four marks. -/
theorem isKept_iff {b : Nat} :
    isKept b = true ↔ (48 ≤ b ∧ b ≤ 57) ∨ (65 ≤ b ∧ b ≤ 90) ∨ (97 ≤ b ∧ b ≤ 122) ∨
      b = 45 ∨ b = 46 ∨ b = 95 ∨ b = 126 := by
  simp only [isKept, Bool.or_eq_true, Bool.and_eq_true, decide_eq_true_eq, List.mem_cons,
    List.not_mem_nil, or_false, or_assoc]

theorem utf8Char_ascii {c : Char} (h : c.toNat < 0x80) : utf8Char c = [UInt8.ofNat c.toNat] :=
  if_pos h

/-- Every byte of a character beyond is at least 0x80, so none of them is kept. -/
theorem utf8Char_beyond {c : Char} (h : 0x80 ≤ c.toNat) : ∀ b ∈ utf8Char c, 0x80 ≤ b.toNat := by
  have hvalid : c.toNat < 0xD800 ∨ (0xDFFF < c.toNat ∧ c.toNat < 0x110000) := c.valid
  have hbyte : ∀ n < 256, (UInt8.ofNat n).toNat = n := fun n hn => UInt8.toNat_ofNat_of_lt' hn
  intro b hb
  unfold utf8Char at hb
  dsimp only at hb
  rw [if_neg (by omega)] at hb
  split_ifs at hb <;> simp only [List.mem_cons, List.not_mem_nil, or_false] at hb
  · rcases hb with rfl | rfl <;> rw [hbyte _ (by omega)] <;> omega
  · rcases hb with rfl | rfl | rfl <;> rw [hbyte _ (by omega)] <;> omega
  · rcases hb with rfl | rfl | rfl | rfl <;> rw [hbyte _ (by omega)] <;> omega

/-- The escape of a character: it is kept as a whole, or each of its bytes is escaped. -/
theorem escape_utf8Char (c : Char) :
    (utf8Char c).flatMap escapeByte =
      if c.toNat = 32 then ['+']
      else if isKept c.toNat then [c]
      else (utf8Char c).flatMap percentByte := by
  by_cases hascii : c.toNat < 0x80
  · have hbyte : (UInt8.ofNat c.toNat).toNat = c.toNat := UInt8.toNat_ofNat_of_lt' (show _ < 256 by omega)
    rw [utf8Char_ascii hascii, List.flatMap_singleton, List.flatMap_singleton, escapeByte, hbyte,
      Char.ofNat_toNat]
  · have hkept : ∀ b : Nat, 0x80 ≤ b → isKept b = false := by
      intro b hb
      rw [Bool.eq_false_iff, ne_eq, isKept_iff]
      omega
    rw [if_neg (by omega), if_neg (by rw [hkept _ (by omega)]; simp)]
    refine List.flatMap_congr fun b hb => ?_
    have hbeyond := utf8Char_beyond (by omega) b hb
    rw [escapeByte, if_neg (by omega), if_neg (by rw [hkept _ hbeyond]; simp)]

/-- What a character is read as. -/
def unitsOf (c : Char) : List UriUnit :=
  if c.toNat = 32 ∨ isKept c.toNat = true then [.plain c]
  else (utf8Char c).map fun b => .byte b.toNat

/-- A percent-escape has no plus sign in it. -/
theorem percentBytes_plusToSpace (bytes : List UInt8) :
    (bytes.flatMap percentByte).map plusToSpace = bytes.flatMap percentByte := by
  have hhex : ∀ n < 16, hexUpper n ≠ '+' := by decide
  have hplain : ∀ c ∈ bytes.flatMap percentByte, plusToSpace c = c := by
    intro c hc
    obtain ⟨b, -, hb⟩ := List.mem_flatMap.mp hc
    have hlt : b.toNat < 256 := b.toNat_lt
    refine if_neg ?_
    simp only [percentByte, List.mem_cons, List.not_mem_nil, or_false] at hb
    rcases hb with rfl | rfl | rfl
    · decide
    · exact hhex _ (by omega)
    · exact hhex _ (by omega)
  rw [List.map_congr_left hplain, List.map_id']

/-- The units of a character that was escaped. -/
theorem uriUnits_escape (c : Char) (rest : List Char) :
    uriUnits (((utf8Char c).flatMap escapeByte).map plusToSpace ++ rest) =
      (uriUnits rest).map (unitsOf c ++ ·) := by
  rw [escape_utf8Char, unitsOf]
  -- a space was written as a plus sign, which comes back as a space
  by_cases hspace : c.toNat = 32
  · have hc : c = ' ' := Char.toNat_inj.mp hspace
    subst hc
    exact uriUnits_plain (by decide)
  -- a byte that is kept is neither a plus nor a percent sign
  · by_cases hkept : isKept c.toNat = true
    · have hne : ∀ d : Char, isKept d.toNat = false → c ≠ d := by
        rintro d hd rfl
        rw [hkept] at hd
        cases hd
      have hplus : plusToSpace c = c := if_neg (hne '+' (by decide))
      rw [if_neg hspace, if_pos hkept, if_pos (Or.inr hkept), List.map_singleton, hplus]
      exact uriUnits_plain (hne '%' (by decide))
    · rw [if_neg hspace, if_neg hkept, if_neg (not_or.mpr ⟨hspace, hkept⟩),
        percentBytes_plusToSpace, uriUnits_percentBytes]

theorem decodeUnits_unitsOf (c : Char) (units : List UriUnit) :
    decodeUnits none (unitsOf c ++ units) = (decodeUnits none units).map (c :: ·) := by
  unfold unitsOf
  split_ifs
  · rw [List.singleton_append, decodeUnits]
  · exact decodeUnits_utf8Char c

/-- Unescaping undoes escaping. Induction on the text. -/
theorem queryUnescape_queryEscape (s : List Char) :
    queryUnescape (queryEscape (encodeUtf8 s)) = String.ofList s := by
  have hunits : uriUnits ((queryEscape (encodeUtf8 s)).map plusToSpace) =
      some (s.flatMap unitsOf) := by
    induction s with
    | nil => rfl
    | cons c s ih =>
      have hcons : queryEscape (encodeUtf8 (c :: s)) =
          (utf8Char c).flatMap escapeByte ++ queryEscape (encodeUtf8 s) := by
        rw [queryEscape, encodeUtf8, List.flatMap_cons, List.flatMap_append]
        rfl
      rw [hcons, List.map_append, uriUnits_escape, ih, Option.map_some, List.flatMap_cons]
  -- the units of each character are decoded as that character
  have hdecode : ∀ s : List Char, decodeUnits none (s.flatMap unitsOf) = some s := by
    intro s
    induction s with
    | nil => rfl
    | cons c s ih => rw [List.flatMap_cons, decodeUnits_unitsOf, ih, Option.map_some]
  have hread : decodeURIComponent ((queryEscape (encodeUtf8 s)).map plusToSpace) =
      some (String.ofList s) := by
    rw [decodeURIComponent, hunits, Option.bind_some, hdecode, Option.map_some]
  rw [queryUnescape, hread]

/-- A parameter's value does not end the parameter. -/
theorem queryEscape_no_ampersand (s : List UInt8) : '&' ∉ queryEscape s := by
  have hhex : ∀ n < 16, hexUpper n ≠ '&' := by decide
  intro h
  obtain ⟨b, -, hb⟩ := List.mem_flatMap.mp h
  have hlt : b.toNat < 256 := b.toNat_lt
  unfold escapeByte at hb
  split_ifs at hb with hspace hkept
  -- a plus sign, a byte that is kept, or an escape: none is an ampersand
  · exact absurd (List.mem_singleton.mp hb) (by decide)
  · have hb : '&'.toNat = (Char.ofNat b.toNat).toNat :=
      congrArg Char.toNat (List.mem_singleton.mp hb)
    rw [toNat_ofNat (n := b.toNat) (Or.inl (by omega))] at hb
    rw [← hb] at hkept
    exact absurd hkept (by decide)
  · simp only [percentByte, List.mem_cons, List.not_mem_nil, or_false] at hb
    rcases hb with hb | hb | hb
    · exact absurd hb (by decide)
    · exact hhex _ (by omega) hb.symm
    · exact hhex _ (by omega) hb.symm

/-- **Parameters.** A query of one parameter gives the other side what stands under its key. -/
theorem parameter_encode_bytes {key : List Char} (hkey : ∀ c ∈ key, c ≠ '=' ∧ c ≠ '&')
    (value : List UInt8) :
    parameter key (encode key value) = some (queryUnescape (queryEscape value)) := by
  have hampersand : '&' ∉ encode key value := by
    intro h
    rcases List.mem_append.mp h with h | h
    · exact (hkey _ h).2 rfl
    · rcases List.mem_cons.mp h with h | h
      · exact absurd h (by decide)
      · exact queryEscape_no_ampersand value h
  -- so the query is one pair
  have hsplit : (encode key value).splitOn '&' = [encode key value] := by
    refine List.splitOnP_eq_singleton fun c hc => ?_
    rw [beq_eq_false_iff_ne]
    rintro rfl
    exact hampersand hc
  -- and the pair is cut at its first equals sign
  have hrun : (key ++ '=' :: queryEscape value).takeWhile (· != '=') = key ∧
      (key ++ '=' :: queryEscape value).dropWhile (· != '=') = '=' :: queryEscape value :=
    takeWhile_run (fun c hc => bne_iff_ne.mpr (hkey c hc).1) (fun c hc => by cases hc; rfl)
  rw [parameter, hsplit, encode, List.find?_cons_of_pos (by rw [hrun.1]; exact beq_self_eq_true key),
    Option.map_some, hrun.2]
  rfl

/-- A text that was encoded is read back. -/
theorem parameter_encode {key : List Char} (hkey : ∀ c ∈ key, c ≠ '=' ∧ c ≠ '&')
    (value : List Char) :
    parameter key (encode key (encodeUtf8 value)) = some (String.ofList value) := by
  rw [parameter_encode_bytes hkey, queryUnescape_queryEscape]

end Text.Query
