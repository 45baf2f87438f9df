import Mathlib.Data.List.Basic

/-!
# Text — JSON values and `JSON.stringify`

Programs compare and store structured values through their JSON text. `Json.stringify` writes
a value without white space, in the order of its object keys, and `Json.stringify_inj` says that
the text determines the value, so equality of texts is equality of values *with* their key
order.

The proof is a unique-decoding argument: after each value the text goes on with something no
digit (`Stops`), and under that side condition the text of one value is never a proper prefix of
the text of another (`Json.text_append_inj`).
-/

namespace Text

/-- A JSON value. An object keeps its keys in enumeration order. Numbers are integers. -/
inductive Json where
  | null
  | bool (b : Bool)
  | num (n : Int)
  | str (s : String)
  | arr (xs : List Json)
  | obj (fields : List (String × Json))

namespace Json

/-! ## Writing

The text of a value, of an array from its second element on, and of an object from its second member
on. Characters that JSON does not allow in a string are written as escapes. -/

/-- Decimal digits of an integer. -/
def intText (n : Int) : List Char :=
  if n < 0 then '-' :: Nat.toDigits 10 n.natAbs else Nat.toDigits 10 n.natAbs

/-- How `JSON.stringify` writes one character of a string. -/
def escapeChar (c : Char) : List Char :=
  if c = '"' then ['\\', '"']
  else if c = '\\' then ['\\', '\\']
  else if c = '\n' then ['\\', 'n']
  else if c = '\r' then ['\\', 'r']
  else if c = '\t' then ['\\', 't']
  else if c.toNat = 8 then ['\\', 'b']
  else if c.toNat = 12 then ['\\', 'f']
  else if c.toNat < 32 then
    ['\\', 'u', '0', '0', Nat.digitChar (c.toNat / 16), Nat.digitChar (c.toNat % 16)]
  else [c]

/-- The characters of a string with the closing quote. -/
def unquoted : List Char → List Char
  | [] => ['"']
  | c :: cs => escapeChar c ++ unquoted cs

/-- A string between quotes. -/
def quote (s : String) : List Char := '"' :: unquoted s.toList

mutual

/-- The characters of the JSON text of a value. -/
def text : Json → List Char
  | .null => ['n', 'u', 'l', 'l']
  | .bool true => ['t', 'r', 'u', 'e']
  | .bool false => ['f', 'a', 'l', 's', 'e']
  | .num n => intText n
  | .str s => quote s
  | .arr [] => ['[', ']']
  | .arr (x :: xs) => '[' :: (x.text ++ elements xs)
  | .obj [] => ['{', '}']
  | .obj ((k, v) :: fs) => '{' :: (quote k ++ ':' :: (v.text ++ members fs))

/-- The elements of an array after the first, with the closing bracket. -/
def elements : List Json → List Char
  | [] => [']']
  | x :: xs => ',' :: (x.text ++ elements xs)

/-- The members of an object after the first, with the closing brace. -/
def members : List (String × Json) → List Char
  | [] => ['}']
  | (k, v) :: fs => ',' :: (quote k ++ ':' :: (v.text ++ members fs))

end

/-- `JSON.stringify`. -/
def stringify (j : Json) : String := String.ofList j.text

/-! ## Strings decode uniquely

`unescape` reads one character back, so no two strings are written alike. -/

/-- The value of a hexadecimal digit. -/
def hexValue (c : Char) : Nat := if c.isDigit then c.toNat - 48 else c.toNat - 87

/-- The value of a hexadecimal digit that was written. -/
theorem hexValue_digitChar {n : Nat} (h : n < 16) : hexValue (Nat.digitChar n) = n := by
  have hall : ∀ n < 16, hexValue (Nat.digitChar n) = n := by decide
  exact hall n h

/-- Read back one character of a string; `none` at the closing quote. -/
def unescape : List Char → Option (Char × List Char)
  | '\\' :: '"' :: rest => some ('"', rest)
  | '\\' :: '\\' :: rest => some ('\\', rest)
  | '\\' :: 'n' :: rest => some ('\n', rest)
  | '\\' :: 'r' :: rest => some ('\r', rest)
  | '\\' :: 't' :: rest => some ('\t', rest)
  | '\\' :: 'b' :: rest => some (Char.ofNat 8, rest)
  | '\\' :: 'f' :: rest => some (Char.ofNat 12, rest)
  | '\\' :: 'u' :: '0' :: '0' :: a :: b :: rest =>
    some (Char.ofNat (16 * hexValue a + hexValue b), rest)
  | c :: rest => if c = '"' ∨ c = '\\' then none else some (c, rest)
  | [] => none

/-- What was written for a character is read back as that character, whatever follows. -/
theorem unescape_escapeChar (c : Char) (rest : List Char) :
    unescape (escapeChar c ++ rest) = some (c, rest) := by
  unfold escapeChar
  split_ifs with h1 h2 h3 h4 h5 h6 h7 h8
  · simp [unescape, h1]
  · simp [unescape, h2]
  · simp [unescape, h3]
  · simp [unescape, h4]
  · simp [unescape, h5]
  · have hc : Char.ofNat 8 = c := by rw [← h6, Char.ofNat_toNat]
    simpa [unescape] using hc
  · have hc : Char.ofNat 12 = c := by rw [← h7, Char.ofNat_toNat]
    simpa [unescape] using hc
  · have hc : 16 * (c.toNat / 16) + c.toNat % 16 = c.toNat := Nat.div_add_mod _ _
    simp [unescape, hexValue_digitChar (show c.toNat / 16 < 16 by omega),
      hexValue_digitChar (show c.toNat % 16 < 16 by omega), hc]
  · simp [unescape, h1, h2]

/-- No character begins with the quote that ends a string. -/
theorem unescape_quote (rest : List Char) : unescape ('"' :: rest) = none := by
  simp [unescape]

/-- Two strings with something after their closing quotes agree only if the strings agree. Induction
on the first, one character at a time. -/
theorem unquoted_append_inj {s t x y : List Char} (h : unquoted s ++ x = unquoted t ++ y) :
    s = t ∧ x = y := by
  induction s generalizing t with
  | nil =>
    cases t with
    | nil => simpa [unquoted] using h
    | cons d t =>
      -- one string has ended and the other has not
      have := congrArg unescape h
      simp [unquoted, unescape_quote, unescape_escapeChar] at this
  | cons c s ih =>
    cases t with
    | nil =>
      have := congrArg unescape h
      simp [unquoted, unescape_quote, unescape_escapeChar] at this
    | cons d t =>
      have hread := congrArg unescape h
      simp only [unquoted, List.append_assoc, unescape_escapeChar, Option.some.injEq,
        Prod.mk.injEq] at hread
      obtain ⟨rfl, hrest⟩ := hread
      obtain ⟨rfl, rfl⟩ := ih hrest
      exact ⟨rfl, rfl⟩

theorem quote_append_inj {s t : String} {x y : List Char} (h : quote s ++ x = quote t ++ y) :
    s = t ∧ x = y := by
  simp only [quote, List.cons_append, List.cons.injEq, true_and] at h
  obtain ⟨hst, hxy⟩ := unquoted_append_inj h
  exact ⟨String.toList_inj.mp hst, hxy⟩

/-! ## Numbers decode uniquely where no digit follows

A number has no end mark. Two numbers with something after them can only be told apart if what
follows does not begin with a digit, which is so for everything that follows a number in a JSON
text. -/

/-- `x` does not go on with a digit. -/
def Stops (x : List Char) : Prop := ∀ c, x.head? = some c → c.isDigit = false

/-- The digits at the front of the text are those of the number. -/
theorem takeWhile_toDigits (n : Nat) {x : List Char} (hx : Stops x) :
    (Nat.toDigits 10 n ++ x).takeWhile Char.isDigit = Nat.toDigits 10 n := by
  have hall : ∀ c ∈ Nat.toDigits 10 n, c.isDigit = true :=
    fun c hc => Nat.isDigit_of_mem_toDigits (by omega) (by omega) hc
  rw [List.takeWhile_append_of_pos hall]
  cases x with
  | nil => simp
  | cons c x => simp [hx c rfl]

theorem toDigits_append_inj {m n : Nat} {x y : List Char} (hx : Stops x) (hy : Stops y)
    (h : Nat.toDigits 10 m ++ x = Nat.toDigits 10 n ++ y) : m = n ∧ x = y := by
  have htake := congrArg (List.takeWhile Char.isDigit) h
  rw [takeWhile_toDigits m hx, takeWhile_toDigits n hy] at htake
  have hmn : m = n := by
    rw [← Nat.ofDigitChars_ten_toDigits (n := m), htake, Nat.ofDigitChars_ten_toDigits]
  subst hmn
  exact ⟨rfl, List.append_cancel_left h⟩

theorem toDigits_head (n : Nat) : ∃ c rest, Nat.toDigits 10 n = c :: rest ∧ c.isDigit = true := by
  cases hd : Nat.toDigits 10 n with
  | nil => exact absurd hd Nat.toDigits_ne_nil
  | cons c rest =>
    have hmem : c ∈ Nat.toDigits 10 n := by rw [hd]; exact List.mem_cons_self
    exact ⟨c, rest, rfl, Nat.isDigit_of_mem_toDigits (by omega) (by omega) hmem⟩

/-- Integers: the sign tells the two kinds apart. -/
theorem intText_append_inj {m n : Int} {x y : List Char} (hx : Stops x) (hy : Stops y)
    (h : intText m ++ x = intText n ++ y) : m = n ∧ x = y := by
  obtain ⟨c, cs, hc, hcd⟩ := toDigits_head m.natAbs
  obtain ⟨d, ds, hd, hdd⟩ := toDigits_head n.natAbs
  unfold intText at h
  split_ifs at h with hm hn hn
  · simp only [List.cons_append, List.cons.injEq, true_and] at h
    obtain ⟨habs, hxy⟩ := toDigits_append_inj hx hy h
    exact ⟨by omega, hxy⟩
  -- one has a sign and the other a digit
  · rw [hd] at h
    simp only [List.cons_append, List.cons.injEq] at h
    rw [← h.1] at hdd
    exact absurd hdd (by decide)
  · rw [hc] at h
    simp only [List.cons_append, List.cons.injEq] at h
    rw [h.1] at hcd
    exact absurd hcd (by decide)
  · obtain ⟨habs, hxy⟩ := toDigits_append_inj hx hy h
    exact ⟨by omega, hxy⟩

/-! ## The first character tells the kind of a value

The texts of two values of different kinds differ in their first character, so the main induction
only compares values of one kind. -/

/-- The six kinds of JSON values. -/
inductive Kind where
  | null
  | bool
  | num
  | str
  | arr
  | obj

/-- The constructor of a value. -/
def kind : Json → Kind
  | .null => .null
  | .bool _ => .bool
  | .num _ => .num
  | .str _ => .str
  | .arr _ => .arr
  | .obj _ => .obj

/-- The kind of the values whose text begins with this character. -/
def Kind.ofChar (c : Char) : Option Kind :=
  if c.isDigit = true ∨ c = '-' then some .num
  else if c = 'n' then some .null
  else if c = 't' ∨ c = 'f' then some .bool
  else if c = '"' then some .str
  else if c = '[' then some .arr
  else if c = '{' then some .obj
  else none

/-- An integer begins with a digit or a minus sign. -/
theorem intText_head (n : Int) : ∃ c rest, intText n = c :: rest ∧ (c.isDigit = true ∨ c = '-') := by
  unfold intText
  split_ifs
  · exact ⟨_, _, rfl, Or.inr rfl⟩
  · obtain ⟨c, rest, hc, hdigit⟩ := toDigits_head n.natAbs
    exact ⟨c, rest, hc, Or.inl hdigit⟩

/-- A value begins with the character of its kind. -/
theorem text_head (j : Json) : ∃ c rest, j.text = c :: rest ∧ Kind.ofChar c = some j.kind := by
  cases j with
  | null => exact ⟨_, _, rfl, rfl⟩
  | bool b => cases b <;> exact ⟨_, _, rfl, rfl⟩
  | num n =>
    obtain ⟨c, rest, hc, hfirst⟩ := intText_head n
    exact ⟨c, rest, hc, if_pos hfirst⟩
  | str s => exact ⟨_, _, rfl, rfl⟩
  | arr xs => cases xs <;> exact ⟨_, _, rfl, rfl⟩
  | obj fs => cases fs <;> exact ⟨_, _, rfl, rfl⟩

/-- Values with equal texts are of one kind. -/
theorem kind_eq {a b : Json} {x y : List Char} (h : a.text ++ x = b.text ++ y) :
    a.kind = b.kind := by
  obtain ⟨c, cs, hc, ha⟩ := text_head a
  obtain ⟨d, ds, hd, hb⟩ := text_head b
  rw [hc, hd, List.cons_append, List.cons_append] at h
  rw [(List.cons.inj h).1] at ha
  exact Option.some.inj (ha.symm.trans hb)

/-! ## Values decode uniquely

The induction runs over the value, its elements and its members together. What follows a value is
never a digit, so numbers cause no trouble. -/

/-- A text that does not begin with a digit. -/
theorem stops_cons {c : Char} (x : List Char) (h : c.isDigit = false) : Stops (c :: x) := by
  intro d hd
  cases hd
  exact h

/-- The rest of an array begins with a comma or a bracket. -/
theorem stops_elements (xs : List Json) (x : List Char) : Stops (elements xs ++ x) := by
  cases xs <;> exact stops_cons _ (by decide)

/-- The rest of an object begins with a comma or a brace. -/
theorem stops_members (fs : List (String × Json)) (x : List Char) : Stops (members fs ++ x) := by
  cases fs <;> exact stops_cons _ (by decide)

/-- No value begins with a closing bracket, so an empty array is not written like a longer one. -/
theorem text_append_ne_bracket (j : Json) (x y : List Char) : j.text ++ x ≠ ']' :: y := by
  intro h
  obtain ⟨c, cs, hc, hkind⟩ := text_head j
  rw [hc, List.cons_append] at h
  rw [(List.cons.inj h).1] at hkind
  cases hkind

mutual

/-- **Unique decoding.** Where no digit follows, the text of a value determines the value and
where it ends. By cases on both values, which are of one kind. -/
theorem text_append_inj : ∀ (a b : Json) {x y : List Char}, Stops x → Stops y →
    a.text ++ x = b.text ++ y → a = b ∧ x = y
  | .num m, b, x, y, hx, hy, h => by
    cases b with
    | num n =>
      obtain ⟨rfl, rfl⟩ := intText_append_inj hx hy h
      exact ⟨rfl, rfl⟩
    | _ => cases kind_eq h
  | .null, b, x, y, _, _, h => by
    cases b with
    | null => simpa [text] using h
    | _ => cases kind_eq h
  | .bool a, b, x, y, _, _, h => by
    cases b with
    | bool b => cases a <;> cases b <;> simp_all [text]
    | _ => cases kind_eq h
  | .str s, b, x, y, _, _, h => by
    cases b with
    | str t =>
      obtain ⟨rfl, rfl⟩ := quote_append_inj h
      exact ⟨rfl, rfl⟩
    | _ => cases kind_eq h
  | .arr [], b, x, y, _, _, h => by
    cases b with
    | arr ys =>
      cases ys with
      | nil => simpa [text] using h
      | cons z zs =>
        simp only [text, List.cons_append, List.append_assoc, List.cons.injEq, true_and] at h
        exact absurd h.symm (text_append_ne_bracket z _ _)
    | _ => cases kind_eq h
  -- the first elements agree with the rest of the arrays after them, and then the rests
  | .arr (a :: as), b, x, y, _, _, h => by
    cases b with
    | arr ys =>
      cases ys with
      | nil =>
        simp only [text, List.cons_append, List.append_assoc, List.cons.injEq, true_and] at h
        exact absurd h (text_append_ne_bracket a _ _)
      | cons z zs =>
        simp only [text, List.cons_append, List.append_assoc, List.cons.injEq, true_and] at h
        obtain ⟨rfl, hrest⟩ := text_append_inj a z (stops_elements as x) (stops_elements zs y) h
        obtain ⟨rfl, rfl⟩ := elements_append_inj as zs hrest
        exact ⟨rfl, rfl⟩
    | _ => cases kind_eq h
  | .obj [], b, x, y, _, _, h => by
    cases b with
    | obj gs =>
      cases gs with
      | nil => simpa [text] using h
      | cons g gs => simp [text, quote] at h
    | _ => cases kind_eq h
  -- the keys, the values, and then the other members
  | .obj ((k, v) :: fs), b, x, y, _, _, h => by
    cases b with
    | obj gs =>
      cases gs with
      | nil => simp [text, quote] at h
      | cons g gs =>
        simp only [text, List.cons_append, List.append_assoc, List.cons.injEq, true_and] at h
        obtain ⟨hk, h⟩ := quote_append_inj h
        simp only [List.cons.injEq, true_and] at h
        obtain ⟨hv, hrest⟩ := text_append_inj v g.2 (stops_members fs x) (stops_members gs y) h
        obtain ⟨rfl, rfl⟩ := members_append_inj fs gs hrest
        exact ⟨by rw [hk, hv], rfl⟩
    | _ => cases kind_eq h

/-- The rest of an array determines its elements. -/
theorem elements_append_inj : ∀ (as bs : List Json) {x y : List Char},
    elements as ++ x = elements bs ++ y → as = bs ∧ x = y
  | [], [], x, y, h => by simpa [elements] using h
  | [], b :: bs, x, y, h => by simp [elements] at h
  | a :: as, [], x, y, h => by simp [elements] at h
  | a :: as, b :: bs, x, y, h => by
    simp only [elements, List.cons_append, List.append_assoc, List.cons.injEq, true_and] at h
    obtain ⟨rfl, hrest⟩ := text_append_inj a b (stops_elements as x) (stops_elements bs y) h
    obtain ⟨rfl, rfl⟩ := elements_append_inj as bs hrest
    exact ⟨rfl, rfl⟩

/-- The rest of an object determines its members, keys included. -/
theorem members_append_inj : ∀ (fs gs : List (String × Json)) {x y : List Char},
    members fs ++ x = members gs ++ y → fs = gs ∧ x = y
  | [], [], x, y, h => by simpa [members] using h
  | [], g :: gs, x, y, h => by simp [members] at h
  | f :: fs, [], x, y, h => by simp [members] at h
  | (k, v) :: fs, g :: gs, x, y, h => by
    simp only [members, List.cons_append, List.append_assoc, List.cons.injEq, true_and] at h
    obtain ⟨hk, h⟩ := quote_append_inj h
    simp only [List.cons.injEq, true_and] at h
    obtain ⟨hv, hrest⟩ := text_append_inj v g.2 (stops_members fs x) (stops_members gs y) h
    obtain ⟨rfl, rfl⟩ := members_append_inj fs gs hrest
    exact ⟨by rw [hk, hv], rfl⟩

end

/-- `JSON.stringify` tells any two values apart. -/
theorem stringify_inj {a b : Json} (h : a.stringify = b.stringify) : a = b := by
  have htext : a.text = b.text := String.ofList_injective h
  have hstops : Stops [] := by intro c hc; cases hc
  exact (text_append_inj a b hstops hstops (by rw [htext])).1

end Json

end Text
