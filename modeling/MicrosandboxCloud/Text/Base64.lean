import Mathlib.Data.List.TakeWhile

/-!
# Text — base64

* **`sextets` / `bytes`** — three bytes are four sextets; what is left over is padded with zero bits,
  which reading drops.
* **`encodeUrl`** — the URL-safe alphabet, without padding. **`decodeLenient`** reads either alphabet
  up to the first `=` and skips what is in neither.
* **`encodeStd` / `decodeStd`** — the standard alphabet with its padding, which `decodeStd` insists on.

Each reader undoes its writer: `decodeLenient_encodeUrl`, `decodeStd_encodeStd`.
-/

namespace Text.Base64

/-! ## Sextets

Base64 is a change from three bytes to four numbers below 64 and back, with one or two bytes at the
end giving two or three numbers. Both directions are by recursion on groups. -/

/-- The groups of six bits, the last one filled with zeros. -/
def sextets : List UInt8 → List Nat
  | a :: b :: c :: rest =>
    a.toNat / 4 :: (a.toNat % 4 * 16 + b.toNat / 16) :: (b.toNat % 16 * 4 + c.toNat / 64)
      :: c.toNat % 64 :: sextets rest
  | [a, b] => [a.toNat / 4, a.toNat % 4 * 16 + b.toNat / 16, b.toNat % 16 * 4]
  | [a] => [a.toNat / 4, a.toNat % 4 * 16]
  | [] => []

/-- The bytes of such groups; what does not fill a byte is dropped. -/
def bytes : List Nat → List UInt8
  | a :: b :: c :: d :: rest =>
    UInt8.ofNat (a * 4 + b / 16) :: UInt8.ofNat (b % 16 * 16 + c / 4)
      :: UInt8.ofNat (c % 4 * 64 + d) :: bytes rest
  | [a, b, c] => [UInt8.ofNat (a * 4 + b / 16), UInt8.ofNat (b % 16 * 16 + c / 4)]
  | [a, b] => [UInt8.ofNat (a * 4 + b / 16)]
  | _ => []

theorem ofNat_eq {x : UInt8} {n : Nat} (h : n = x.toNat) : UInt8.ofNat n = x := by
  rw [h, UInt8.ofNat_toNat]

/-- Reading back gives the bytes. Induction by groups of three. -/
theorem bytes_sextets (bs : List UInt8) : bytes (sextets bs) = bs := by
  induction bs using sextets.induct with
  | case1 a b c rest ih =>
    have ha := a.toNat_lt
    have hb := b.toNat_lt
    have hc := c.toNat_lt
    rw [sextets, bytes, ih, ofNat_eq (x := a) (by omega), ofNat_eq (x := b) (by omega),
      ofNat_eq (x := c) (by omega)]
  | case2 a b =>
    have ha := a.toNat_lt
    have hb := b.toNat_lt
    rw [sextets, bytes, ofNat_eq (x := a) (by omega), ofNat_eq (x := b) (by omega)]
  | case3 a =>
    have ha := a.toNat_lt
    rw [sextets, bytes, ofNat_eq (x := a) (by omega)]
  | case4 => rfl

/-- A group has six bits, so that there is a letter for it. -/
theorem sextets_lt (bs : List UInt8) : ∀ n ∈ sextets bs, n < 64 := by
  induction bs using sextets.induct with
  -- three bytes are four groups of six bits
  | case1 a b c rest ih =>
    have ha := a.toNat_lt
    have hb := b.toNat_lt
    have hc := c.toNat_lt
    simp only [sextets, List.forall_mem_cons]
    exact ⟨by omega, by omega, by omega, by omega, ih⟩
  | case2 a b =>
    have ha := a.toNat_lt
    have hb := b.toNat_lt
    simp only [sextets, List.forall_mem_cons]
    exact ⟨by omega, by omega, by omega, by simp⟩
  | case3 a =>
    have ha := a.toNat_lt
    simp only [sextets, List.forall_mem_cons]
    exact ⟨by omega, by omega, by simp⟩
  | case4 => simp [sextets]

/-! ## Alphabets

Two alphabets differ in the letters for 62 and 63. A decoder reads those of its own alphabet, or of
both. -/

/-- An alphabet is told by its last two characters. -/
structure Alphabet where
  char62 : Char
  char63 : Char

/-- The alphabet of the padded text. -/
def std : Alphabet := ⟨'+', '/'⟩

/-- The alphabet of the URL-safe text. -/
def url : Alphabet := ⟨'-', '_'⟩

/-- The character of a sextet. -/
def Alphabet.letter (alphabet : Alphabet) (n : Nat) : Char :=
  if n < 26 then Char.ofNat (n + 65)
  else if n < 52 then Char.ofNat (n + 71)
  else if n < 62 then Char.ofNat (n - 4)
  else if n = 62 then alphabet.char62
  else alphabet.char63

/-- The sextet of a character. -/
def Alphabet.value (alphabet : Alphabet) (c : Char) : Option Nat :=
  if 65 ≤ c.toNat ∧ c.toNat ≤ 90 then some (c.toNat - 65)
  else if 97 ≤ c.toNat ∧ c.toNat ≤ 122 then some (c.toNat - 71)
  else if 48 ≤ c.toNat ∧ c.toNat ≤ 57 then some (c.toNat + 4)
  else if c = alphabet.char62 then some 62
  else if c = alphabet.char63 then some 63
  else none

/-- In either alphabet. -/
def value (c : Char) : Option Nat := (std.value c).or (url.value c)

/-- The padded text is read with its own alphabet. -/
theorem value_letter_std {n : Nat} (h : n < 64) : std.value (std.letter n) = some n := by
  have hall : ∀ n < 64, std.value (std.letter n) = some n := by decide
  exact hall n h

/-- The URL-safe letters are read by the lenient decoder, which knows both alphabets. -/
theorem value_letter_url {n : Nat} (h : n < 64) : value (url.letter n) = some n := by
  have hall : ∀ n < 64, value (url.letter n) = some n := by decide
  exact hall n h

/-! ## The URL-safe text

`base64url` without padding, as Node writes it, and the lenient reading of Node, which stops at
padding and skips everything else that is no letter. -/

/-- `toString('base64url')` -/
def encodeUrl (bs : List UInt8) : List Char := (sextets bs).map url.letter

/-- `Buffer.from(s, 'base64url')` -/
def decodeLenient (s : List Char) : List UInt8 :=
  bytes ((s.takeWhile (· != '=')).filterMap value)

/-- A character that `encodeUrl` writes. -/
def IsUrlChar (c : Char) : Prop := ∃ n < 64, url.letter n = c

/-- The characters of encoded bytes are letters of the alphabet. -/
theorem mem_map_letter {alphabet : Alphabet} {bs : List UInt8} {c : Char}
    (h : c ∈ (sextets bs).map alphabet.letter) : ∃ n < 64, alphabet.letter n = c := by
  obtain ⟨n, hn, rfl⟩ := List.mem_map.mp h
  exact ⟨n, sextets_lt bs n hn, rfl⟩

/-- The text has no other characters than the letters of its alphabet. -/
theorem isUrlChar_of_mem {bs : List UInt8} {c : Char} (h : c ∈ encodeUrl bs) : IsUrlChar c :=
  mem_map_letter h

/-- What holds of the letters holds of every such character. -/
theorem IsUrlChar.of_letters {P : Char → Prop} (hall : ∀ n < 64, P (url.letter n)) {c : Char}
    (h : IsUrlChar c) : P c := by
  obtain ⟨n, hn, rfl⟩ := h
  exact hall n hn

/-- In particular the text is not cut short by padding. -/
theorem IsUrlChar.ne_pad {c : Char} (h : IsUrlChar c) : c ≠ '=' :=
  h.of_letters (P := fun c => c ≠ '=') (by decide)

/-- There is no dot in the text, so that a dot can end it. -/
theorem IsUrlChar.ne_dot {c : Char} (h : IsUrlChar c) : c ≠ '.' :=
  h.of_letters (P := fun c => c ≠ '.') (by decide)

theorem IsUrlChar.lt {c : Char} (h : IsUrlChar c) : c.toNat < 128 :=
  h.of_letters (P := fun c => c.toNat < 128) (by decide)

theorem decodeLenient_encodeUrl (bs : List UInt8) : decodeLenient (encodeUrl bs) = bs := by
  have hpad : (encodeUrl bs).takeWhile (· != '=') = encodeUrl bs := by
    rw [List.takeWhile_eq_self_iff]
    intro c hc
    simpa using (isUrlChar_of_mem hc).ne_pad
  have hvalues : ∀ ns : List Nat, (∀ n ∈ ns, n < 64) →
      (ns.map url.letter).filterMap value = ns := by
    intro ns hns
    induction ns with
    | nil => rfl
    | cons n ns ih =>
      obtain ⟨hn, hns⟩ := List.forall_mem_cons.mp hns
      rw [List.map_cons, List.filterMap_cons_some (value_letter_url hn), ih hns]
  rw [decodeLenient, hpad, encodeUrl, hvalues _ (sextets_lt bs), bytes_sextets]

theorem encodeUrl_ne_nil {bs : List UInt8} (h : bs ≠ []) : encodeUrl bs ≠ [] := by
  intro hnil
  have hdecode := decodeLenient_encodeUrl bs
  rw [hnil] at hdecode
  exact h hdecode.symm

theorem encodeUrl_injective : Function.Injective encodeUrl :=
  Function.LeftInverse.injective decodeLenient_encodeUrl

/-! ## The padded text

The text of an SSH key file: groups of four letters, the last one padded. The strict decoder wants
it exactly so. -/

/-- `base64.StdEncoding.EncodeToString` -/
def encodeStd : List UInt8 → List Char
  | a :: b :: c :: rest => (sextets [a, b, c]).map std.letter ++ encodeStd rest
  | [a, b] => (sextets [a, b]).map std.letter ++ ['=']
  | [a] => (sextets [a]).map std.letter ++ ['=', '=']
  | [] => []

/-- Groups of four characters; only the last one may be padded. -/
def decodeQuanta : List Char → Option (List UInt8)
  | [] => some []
  | a :: b :: c :: d :: rest => do
    let a ← std.value a
    let b ← std.value b
    if c = '=' then if d = '=' ∧ rest = [] then return bytes [a, b] else none
    else
      let c ← std.value c
      if d = '=' then if rest = [] then return bytes [a, b, c] else none
      else
        let d ← std.value d
        return bytes [a, b, c, d] ++ (← decodeQuanta rest)
  | _ => none

/-- Line breaks within the text are ignored. -/
def decodeStd (s : List Char) : Option (List UInt8) :=
  decodeQuanta (s.filter fun c => c != '\r' && c != '\n')

theorem letter_ne_pad {n : Nat} (h : n < 64) : std.letter n ≠ '=' := by
  have hall : ∀ n < 64, std.letter n ≠ '=' := by decide
  exact hall n h

/-- Reading group by group. Induction by groups of three bytes. -/
theorem decodeQuanta_encodeStd (bs : List UInt8) : decodeQuanta (encodeStd bs) = some bs := by
  induction bs using encodeStd.induct with
  | case1 a b c rest ih =>
    have hlt := sextets_lt [a, b, c]
    have hbytes := bytes_sextets [a, b, c]
    simp only [sextets, List.forall_mem_cons] at hlt hbytes
    obtain ⟨h₁, h₂, h₃, h₄, -⟩ := hlt
    simp [encodeStd, sextets, decodeQuanta, value_letter_std, letter_ne_pad, h₁, h₂, h₃, h₄, ih,
      hbytes]
  -- two bytes at the end: three letters and one pad
  | case2 a b =>
    have hlt := sextets_lt [a, b]
    have hbytes := bytes_sextets [a, b]
    simp only [sextets, List.forall_mem_cons] at hlt hbytes
    obtain ⟨h₁, h₂, h₃, -⟩ := hlt
    simp [encodeStd, sextets, decodeQuanta, value_letter_std, letter_ne_pad, h₁, h₂, h₃, hbytes]
  -- one byte at the end: two letters and two pads
  | case3 a =>
    have hlt := sextets_lt [a]
    have hbytes := bytes_sextets [a]
    simp only [sextets, List.forall_mem_cons] at hlt hbytes
    obtain ⟨h₁, h₂, -⟩ := hlt
    simp [encodeStd, sextets, decodeQuanta, value_letter_std, h₁, h₂, hbytes]
  | case4 => rfl

/-- A character that `encodeStd` writes. -/
theorem mem_encodeStd {bs : List UInt8} {c : Char} (h : c ∈ encodeStd bs) :
    c = '=' ∨ ∃ n < 64, std.letter n = c := by
  induction bs using encodeStd.induct with
  | case1 a b d rest ih =>
    rcases List.mem_append.mp h with h | h
    · exact Or.inr (mem_map_letter h)
    · exact ih h
  | case2 a b =>
    rcases List.mem_append.mp h with h | h
    · exact Or.inr (mem_map_letter h)
    · exact Or.inl (List.mem_singleton.mp h)
  | case3 a =>
    rcases List.mem_append.mp h with h | h
    · exact Or.inr (mem_map_letter h)
    · simp only [List.mem_cons, List.not_mem_nil, or_false, or_self] at h
      exact Or.inl h
  | case4 => simp [encodeStd] at h

theorem decodeStd_encodeStd (bs : List UInt8) : decodeStd (encodeStd bs) = some bs := by
  have hbreak : ∀ c ∈ encodeStd bs, (c != '\r' && c != '\n') = true := by
    intro c hc
    have hall : ∀ n < 64, std.letter n ≠ '\r' ∧ std.letter n ≠ '\n' := by decide
    rw [Bool.and_eq_true, bne_iff_ne, bne_iff_ne]
    rcases mem_encodeStd hc with rfl | ⟨n, hn, rfl⟩
    · decide
    · exact hall n hn
  rw [decodeStd, List.filter_eq_self.mpr hbreak, decodeQuanta_encodeStd]

end Text.Base64
