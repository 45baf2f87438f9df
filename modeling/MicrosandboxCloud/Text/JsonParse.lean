import MicrosandboxCloud.Text.Json
import MicrosandboxCloud.Text.Uri
import MicrosandboxCloud.Text.Utf16

/-!
# Text — `JSON.parse`

A parser of JSON texts, and the text of an object whose members are strings and integers. Strings
are code units, so that a lone surrogate is kept: it is written as an escape. Numbers are kept
exactly.

* **`parse`** — by recursive descent. The fuel is the length of the text, of which every call reads
  a character.
* **`objectText`** — `JSON.stringify`.
* **`parse_objectText`** — parsing undoes writing.
-/

namespace Text.JsonParse

/-- What the parser returns. A string is a list of code units and a number is a rational, so nothing
is lost in reading. -/
inductive Value where
  | null
  | bool (b : Bool)
  | number (x : Rat)
  | string (s : List UInt16)
  | array (xs : List Value)
  | object (fields : List (List UInt16 × Value))

/-- A member of an object; of several with one key the last one counts. -/
def Value.get (fields : List (List UInt16 × Value)) (key : List UInt16) : Option Value :=
  (fields.reverse.find? fun field => field.1 == key).map Prod.snd

/-! ## Strings

The body of a string is read up to its closing quote. An escape of four hexadecimal digits is one
code unit, and surrogates need not come in pairs. -/

/-- The escapes of one character. -/
def escapeUnit (c : Char) : Option UInt16 :=
  if c = '"' then some 34
  else if c = '\\' then some 92
  else if c = '/' then some 47
  else if c = 'b' then some 8
  else if c = 'f' then some 12
  else if c = 'n' then some 10
  else if c = 'r' then some 13
  else if c = 't' then some 9
  else none

/-- The code unit of an escape. -/
def hexUnit (a b c d : Char) : Option UInt16 := do
  return UInt16.ofNat
    (4096 * (← hexDigit a) + 256 * (← hexDigit b) + 16 * (← hexDigit c) + (← hexDigit d))

/-- The rest of a string, and what follows its closing quote. -/
def stringBody : List Char → Option (List UInt16 × List Char)
  | [] => none
  | '"' :: rest => some ([], rest)
  | '\\' :: 'u' :: a :: b :: c :: d :: rest =>
    match hexUnit a b c d with
    | none => none
    | some u => (stringBody rest).map fun s => (u :: s.1, s.2)
  | '\\' :: e :: rest =>
    match escapeUnit e with
    | none => none
    | some u => (stringBody rest).map fun s => (u :: s.1, s.2)
  | c :: rest =>
    if c.toNat < 32 ∨ c = '\\' then none
    else (stringBody rest).map fun s => (charUnits c ++ s.1, s.2)

/-! ## Numbers

The grammar of a JSON number: a sign, a whole part without leading zeros, a fraction and an
exponent. Its value is exact here; who needs a double rounds it. -/

/-- The value of decimal digits. -/
def digitsValue (ds : List Char) : Nat := Nat.ofDigitChars 10 ds 0

/-- A digit sequence without a leading zero. -/
def wholePart (s : List Char) : Option (Nat × List Char) :=
  match s with
  | '0' :: rest => some (0, rest)
  | _ =>
    if s.takeWhile Char.isDigit = [] then none
    else some (digitsValue (s.takeWhile Char.isDigit), s.dropWhile Char.isDigit)

/-- The digits after a point, if there is one. There has to be a digit after it. -/
def fraction (whole : Nat) (s : List Char) : Option (Rat × List Char) :=
  match s with
  | '.' :: rest =>
    let ds := rest.takeWhile Char.isDigit
    if ds = [] then none
    else some (whole + digitsValue ds / 10 ^ ds.length, rest.dropWhile Char.isDigit)
  | _ => some (whole, s)

/-- The digits of an exponent and its sign. -/
def exponentDigits (s : List Char) : Option (Int × List Char) :=
  let negative := s.head? == some '-'
  let s := if s.head? = some '-' ∨ s.head? = some '+' then s.tail else s
  let ds := s.takeWhile Char.isDigit
  if ds = [] then none
  else some (if negative then -digitsValue ds else digitsValue ds, s.dropWhile Char.isDigit)

/-- The power of ten, if there is one. -/
def exponent (x : Rat) (s : List Char) : Option (Rat × List Char) :=
  if s.head? = some 'e' ∨ s.head? = some 'E' then
    (exponentDigits s.tail).map fun e => (x * 10 ^ e.1, e.2)
  else some (x, s)

/-- A number without its sign. -/
def unsignedNumber (s : List Char) : Option (Rat × List Char) := do
  let (whole, rest) ← wholePart s
  let (x, rest) ← fraction whole rest
  exponent x rest

/-- A number. -/
def numberToken (s : List Char) : Option (Rat × List Char) :=
  match s with
  | '-' :: rest => (unsignedNumber rest).map fun x => (-x.1, x.2)
  | _ => unsignedNumber s

/-! ## Values

Arrays and objects nest, and the parser descends with a fuel that bounds the depth and the number of
elements. Every call but the first reads a character, so `parse` gives it one more than the text has
characters. -/

/-- White space between tokens. -/
def skipSpace (s : List Char) : List Char := s.dropWhile (· ∈ [' ', '\t', '\n', '\r'])

mutual

/-- A value, and what follows it. -/
def value : (fuel : Nat) → List Char → Option (Value × List Char)
  | 0, _ => none
  | fuel + 1, s =>
    match skipSpace s with
    | 'n' :: 'u' :: 'l' :: 'l' :: rest => some (.null, rest)
    | 't' :: 'r' :: 'u' :: 'e' :: rest => some (.bool true, rest)
    | 'f' :: 'a' :: 'l' :: 's' :: 'e' :: rest => some (.bool false, rest)
    | '"' :: rest => (stringBody rest).map fun s => (.string s.1, s.2)
    | '[' :: rest =>
      match skipSpace rest with
      | ']' :: rest => some (.array [], rest)
      | _ => (elements fuel rest).map fun xs => (.array xs.1, xs.2)
    | '{' :: rest =>
      match skipSpace rest with
      | '}' :: rest => some (.object [], rest)
      | _ => (members fuel rest).map fun fields => (.object fields.1, fields.2)
    | s => (numberToken s).map fun x => (.number x.1, x.2)

/-- The elements of an array up to its closing bracket. -/
def elements : (fuel : Nat) → List Char → Option (List Value × List Char)
  | 0, _ => none
  | fuel + 1, s =>
    match value fuel s with
    | none => none
    | some (x, rest) =>
      match skipSpace rest with
      | ',' :: rest => (elements fuel rest).map fun xs => (x :: xs.1, xs.2)
      | ']' :: rest => some ([x], rest)
      | _ => none

/-- The members of an object up to its closing brace. -/
def members : (fuel : Nat) → List Char → Option (List (List UInt16 × Value) × List Char)
  | 0, _ => none
  | fuel + 1, s =>
    match skipSpace s with
    | '"' :: rest =>
      match stringBody rest with
      | none => none
      | some (key, rest) =>
        match skipSpace rest with
        | ':' :: rest =>
          match value fuel rest with
          | none => none
          | some (x, rest) =>
            match skipSpace rest with
            | ',' :: rest => (members fuel rest).map fun fields => ((key, x) :: fields.1, fields.2)
            | '}' :: rest => some ([(key, x)], rest)
            | _ => none
        | _ => none
    | _ => none

end

/-- `JSON.parse`; `none` where it throws. -/
def parse (s : List Char) : Option Value :=
  match value (s.length + 1) s with
  | none => none
  | some (x, rest) => if skipSpace rest = [] then some x else none

/-! ## The text of an object

The texts that are read back below are those of objects whose members are strings and integers. -/

/-- The hexadecimal digits of an escaped unit. -/
def hexText (u : UInt16) : List Char :=
  [Nat.digitChar (u.toNat / 4096), Nat.digitChar (u.toNat / 256 % 16),
    Nat.digitChar (u.toNat / 16 % 16), Nat.digitChar (u.toNat % 16)]

/-- A lone surrogate is escaped, so that the text is well-formed. -/
def quotePoint : CodePoint → List Char
  | .scalar c => Json.escapeChar c
  | .lone u => '\\' :: 'u' :: hexText u

/-- A string as `JSON.stringify` writes it: a lone surrogate becomes an escape. -/
def quoteString (s : List UInt16) : List Char := '"' :: ((codePoints s).flatMap quotePoint ++ ['"'])

/-- A member's value. -/
inductive Flat where
  | string (s : List UInt16)
  | number (n : Int)

/-- The text of a member's value. -/
def Flat.text : Flat → List Char
  | .string s => quoteString s
  | .number n => Json.intText n

/-- The value a member's text is read as. -/
def Flat.value : Flat → Value
  | .string s => .string s
  | .number n => .number n

/-- A member: its key, a colon and its value. -/
def fieldText (field : List UInt16 × Flat) : List Char :=
  quoteString field.1 ++ ':' :: field.2.text

/-- The members of an object after the first, with the closing brace. -/
def moreFields : List (List UInt16 × Flat) → List Char
  | [] => ['}']
  | field :: fields => ',' :: (fieldText field ++ moreFields fields)

/-- `JSON.stringify` of an object. -/
def objectText : List (List UInt16 × Flat) → List Char
  | [] => ['{', '}']
  | field :: fields => '{' :: (fieldText field ++ moreFields fields)

/-! ## Strings are read back

What was written for a code point is read back as its code units, and so is a whole string. -/

theorem hexDigit_digitChar {n : Nat} (h : n < 16) : hexDigit (Nat.digitChar n) = some n := by
  have hall : ∀ n < 16, hexDigit (Nat.digitChar n) = some n := by decide
  exact hall n h

/-- A code unit that was written in four hexadecimal digits. -/
theorem hexUnit_hexText {u : UInt16} {a b c d : Char} (h : hexText u = [a, b, c, d]) :
    hexUnit a b c d = some u := by
  have hu := u.toNat_lt
  simp only [hexText, List.cons.injEq, and_true] at h
  obtain ⟨rfl, rfl, rfl, rfl⟩ := h
  have hsum : 4096 * (u.toNat / 4096) + 256 * (u.toNat / 256 % 16) + 16 * (u.toNat / 16 % 16) +
      u.toNat % 16 = u.toNat := by omega
  simp only [hexUnit, hexDigit_digitChar (n := u.toNat / 4096) (by omega),
    hexDigit_digitChar (n := u.toNat / 256 % 16) (by omega),
    hexDigit_digitChar (n := u.toNat / 16 % 16) (by omega),
    hexDigit_digitChar (n := u.toNat % 16) (by omega)]
  show some (UInt16.ofNat (4096 * (u.toNat / 4096) + 256 * (u.toNat / 256 % 16) +
    16 * (u.toNat / 16 % 16) + u.toNat % 16)) = some u
  rw [hsum, UInt16.ofNat_toNat]

/-- Control characters are escaped like units. -/
theorem charUnits_control {c : Char} (h : c.toNat < 32) : charUnits c = [UInt16.ofNat c.toNat] :=
  if_pos (by omega)

/-- One code point at the front of a string. The cases are the ways in which it may have been
written. -/
theorem stringBody_quotePoint (p : CodePoint) (rest : List Char) :
    stringBody (quotePoint p ++ rest) =
      (stringBody rest).map fun s => (p.units ++ s.1, s.2) := by
  cases p with
  | lone u =>
    have hread : hexUnit (Nat.digitChar (u.toNat / 4096)) (Nat.digitChar (u.toNat / 256 % 16))
        (Nat.digitChar (u.toNat / 16 % 16)) (Nat.digitChar (u.toNat % 16)) = some u :=
      hexUnit_hexText rfl
    simp [quotePoint, hexText, stringBody, hread, CodePoint.units]
  | scalar c =>
    rw [quotePoint, CodePoint.units]
    unfold Json.escapeChar
    -- the escapes of one letter, the control characters in hex, and what stands for itself
    split_ifs with h1 h2 h3 h4 h5 h6 h7 h8
    · subst h1
      rfl
    · subst h2
      rfl
    · subst h3
      rfl
    · subst h4
      rfl
    · subst h5
      rfl
    · have hc : c = Char.ofNat 8 := by rw [← h6, Char.ofNat_toNat]
      subst hc
      rfl
    · have hc : c = Char.ofNat 12 := by rw [← h7, Char.ofNat_toNat]
      subst hc
      rfl
    · have hread : hexUnit '0' '0' (Nat.digitChar (c.toNat / 16)) (Nat.digitChar (c.toNat % 16)) =
          some (UInt16.ofNat c.toNat) := by
        refine hexUnit_hexText ?_
        rw [hexText, UInt16.toNat_ofNat_of_lt' (show c.toNat < 65536 by omega),
          Nat.div_eq_of_lt (show c.toNat < 4096 by omega),
          Nat.div_eq_of_lt (show c.toNat < 256 by omega),
          Nat.mod_eq_of_lt (show c.toNat / 16 < 16 by omega)]
        rfl
      simp [stringBody, hread, charUnits_control h8]
    · simp [stringBody, h2, h8]

/-- A whole string. Induction on its code points. -/
theorem stringBody_points (points : List CodePoint) (rest : List Char) :
    stringBody (points.flatMap quotePoint ++ '"' :: rest) =
      some (points.flatMap CodePoint.units, rest) := by
  induction points with
  | nil => rfl
  | cons p points ih =>
    rw [List.flatMap_cons, List.append_assoc, stringBody_quotePoint, ih, List.flatMap_cons]
    rfl

/-- What follows the opening quote of a string is read as the string. -/
theorem stringBody_quoteString (s : List UInt16) (rest : List Char) :
    ∃ body, quoteString s ++ rest = '"' :: body ∧ stringBody body = some (s, rest) := by
  refine ⟨(codePoints s).flatMap quotePoint ++ '"' :: rest, by simp [quoteString], ?_⟩
  rw [stringBody_points, units_codePoints]

/-! ## Integers are read back

A number has no end mark: it is read back if a comma or a brace follows. -/

/-- What may stand after a member's value. -/
def AfterMember (x : List Char) : Prop := ∃ c rest, x = c :: rest ∧ (c = ',' ∨ c = '}')

/-- What follows a member does not begin with a digit. -/
theorem AfterMember.stops {x : List Char} (h : AfterMember x) : Json.Stops x := by
  obtain ⟨c, rest, rfl, rfl | rfl⟩ := h
  · exact Json.stops_cons _ (by decide)
  · exact Json.stops_cons _ (by decide)

/-- A positive number is written without a leading zero. -/
theorem toDigits_head_ne_zero (n : Nat) (h : 0 < n) :
    ∃ d ds, Nat.toDigits 10 n = d :: ds ∧ d ≠ '0' := by
  induction n using Nat.strongRecOn with
  | ind n ih =>
    rw [Nat.toDigits_eq_if (by decide)]
    split
    case isTrue hlt =>
      have hall : ∀ n < 10, 0 < n → Nat.digitChar n ≠ '0' := by decide
      exact ⟨_, _, rfl, hall n hlt h⟩
    case isFalse hge =>
      obtain ⟨d, ds, hds, hd⟩ := ih (n / 10) (by omega) (by omega)
      exact ⟨d, ds ++ [Nat.digitChar (n % 10)], by rw [hds, List.cons_append], hd⟩

theorem wholePart_toDigits (n : Nat) {x : List Char} (hx : Json.Stops x) :
    wholePart (Nat.toDigits 10 n ++ x) = some (n, x) := by
  rcases Nat.eq_zero_or_pos n with rfl | hpos
  · rw [Nat.toDigits_zero]
    rfl
  · have htake := Json.takeWhile_toDigits n hx
    have hdrop : (Nat.toDigits 10 n ++ x).dropWhile Char.isDigit = x :=
      List.append_cancel_left ((congrArg (· ++ _) htake.symm).trans List.takeWhile_append_dropWhile)
    obtain ⟨d, ds, hds, hd⟩ := toDigits_head_ne_zero n hpos
    have hvalue : digitsValue (Nat.toDigits 10 n) = n := Nat.ofDigitChars_ten_toDigits
    unfold wholePart
    split
    case h_1 rest heq =>
      -- a leading zero would be the whole number
      rw [hds, List.cons_append, List.cons.injEq] at heq
      exact absurd heq.1 hd
    case h_2 => rw [htake, if_neg Nat.toDigits_ne_nil, hvalue, hdrop]

/-- A natural number has neither a fraction nor an exponent. -/
theorem unsignedNumber_toDigits (n : Nat) {x : List Char} (hx : AfterMember x) :
    unsignedNumber (Nat.toDigits 10 n ++ x) = some ((n : Rat), x) := by
  unfold unsignedNumber
  rw [wholePart_toDigits n hx.stops]
  obtain ⟨c, rest, rfl, rfl | rfl⟩ := hx
  · rfl
  · rfl

theorem numberToken_intText (n : Int) {x : List Char} (hx : AfterMember x) :
    numberToken (Json.intText n ++ x) = some ((n : Rat), x) := by
  unfold Json.intText
  split
  case isTrue hneg =>
    have hn : n = -(n.natAbs : Int) := by omega
    have hread : numberToken ('-' :: Nat.toDigits 10 n.natAbs ++ x) =
        (unsignedNumber (Nat.toDigits 10 n.natAbs ++ x)).map fun x => (-x.1, x.2) := rfl
    rw [hread, unsignedNumber_toDigits _ hx, Option.map_some]
    conv_rhs => rw [hn, Rat.intCast_neg, Rat.intCast_natCast]
  -- without a sign the text begins with a digit
  case isFalse hpos =>
    have hn : n = (n.natAbs : Int) := by omega
    obtain ⟨d, ds, hds, hdigit⟩ := Json.toDigits_head n.natAbs
    unfold numberToken
    split
    case h_1 rest heq =>
      rw [hds, List.cons_append, List.cons.injEq] at heq
      rw [heq.1] at hdigit
      exact absurd hdigit (by decide)
    case h_2 =>
      rw [unsignedNumber_toDigits _ hx]
      conv_rhs => rw [hn, Rat.intCast_natCast]

/-! ## Objects are read back

Members are read one after another. The fuel is bounded by the number of members, since no member
has members of its own. -/

/-- A text that does not begin with white space. -/
theorem skipSpace_cons {c : Char} (rest : List Char) (h : c ∉ [' ', '\t', '\n', '\r']) :
    skipSpace (c :: rest) = c :: rest :=
  List.dropWhile_cons_of_neg (by simpa using h)

/-- A value that begins like a number is one. -/
theorem value_number {c : Char} (rest : List Char) (hc : c.isDigit = true ∨ c = '-') (fuel : Nat) :
    value (fuel + 1) (c :: rest) =
      (numberToken (c :: rest)).map fun x => (.number x.1, x.2) := by
  have hne : ∀ d : Char, d.isDigit = false → d ≠ '-' → c ≠ d := by
    rintro d hdigit hminus rfl
    rcases hc with hc | hc
    · exact Bool.false_ne_true (hdigit.symm.trans hc)
    · exact hminus hc
  have hspace : c ∉ [' ', '\t', '\n', '\r'] := by
    simp only [List.mem_cons, List.not_mem_nil, or_false, not_or]
    exact ⟨hne _ (by decide) (by decide), hne _ (by decide) (by decide),
      hne _ (by decide) (by decide), hne _ (by decide) (by decide)⟩
  rw [value, skipSpace_cons rest hspace]
  -- every other value begins with a character of its own
  split
  case h_7 => rfl
  all_goals
    rename_i heq
    rw [List.cons.injEq] at heq
    exact absurd heq.1 (hne _ (by decide) (by decide))

/-- The value of one member is read back. -/
theorem value_flat (x : Flat) {rest : List Char} (hrest : AfterMember rest) (fuel : Nat) :
    value (fuel + 1) (x.text ++ rest) = some (x.value, rest) := by
  cases x with
  | string s =>
    obtain ⟨body, hquote, hbody⟩ := stringBody_quoteString s rest
    rw [Flat.text, hquote, value, skipSpace_cons _ (by decide)]
    simp only [hbody]
    rfl
  | number n =>
    have hread := numberToken_intText n hrest
    -- so the parser takes the branch of numbers
    have hhead : ∃ c more, Json.intText n ++ rest = c :: more ∧ (c.isDigit = true ∨ c = '-') := by
      obtain ⟨d, ds, hds, hdigit⟩ := Json.toDigits_head n.natAbs
      unfold Json.intText
      split
      · exact ⟨_, _, rfl, Or.inr rfl⟩
      · exact ⟨d, ds ++ rest, by rw [hds, List.cons_append], Or.inl hdigit⟩
    obtain ⟨c, more, htext, hc⟩ := hhead
    rw [htext] at hread
    rw [Flat.text, htext, value_number more hc, hread]
    rfl

/-- A member is read with its key. -/
theorem members_field (field : List UInt16 × Flat) {rest : List Char} (hrest : AfterMember rest)
    (fuel : Nat) : members (fuel + 2) (fieldText field ++ rest) =
      match skipSpace rest with
      | ',' :: rest =>
        (members (fuel + 1) rest).map fun fields =>
          ((field.1, field.2.value) :: fields.1, fields.2)
      | '}' :: rest => some ([(field.1, field.2.value)], rest)
      | _ => none := by
  obtain ⟨body, hquote, hbody⟩ := stringBody_quoteString field.1 (':' :: (field.2.text ++ rest))
  have htext : fieldText field ++ rest = '"' :: body := by
    rw [← hquote, fieldText, List.append_assoc, List.cons_append]
  rw [htext, members, skipSpace_cons _ (by decide)]
  simp only [hbody, skipSpace_cons (c := ':') _ (by decide), value_flat field.2 hrest fuel]

/-- A member is followed by a comma or a brace. -/
theorem afterMember_moreFields (fields : List (List UInt16 × Flat)) (rest : List Char) :
    AfterMember (moreFields fields ++ rest) := by
  cases fields with
  | nil => exact ⟨'}', rest, rfl, Or.inr rfl⟩
  | cons field fields =>
    exact ⟨',', fieldText field ++ moreFields fields ++ rest, rfl, Or.inl rfl⟩

/-- How the members are read back. -/
def readFields (fields : List (List UInt16 × Flat)) : List (List UInt16 × Value) :=
  fields.map fun field => (field.1, field.2.value)

/-- The members of an object are read back. Induction on those after the first. -/
theorem members_fields (field : List UInt16 × Flat) (fields : List (List UInt16 × Flat))
    (rest : List Char) (fuel : Nat) (hfuel : fields.length ≤ fuel) :
    members (fuel + 2) (fieldText field ++ (moreFields fields ++ rest)) =
      some (readFields (field :: fields), rest) := by
  induction fields generalizing field fuel with
  | nil =>
    rw [members_field field (afterMember_moreFields [] rest), moreFields, List.cons_append,
      skipSpace_cons _ (by decide)]
    rfl
  | cons next fields ih =>
    -- each member takes one unit of fuel
    obtain ⟨fuel, rfl⟩ := Nat.exists_eq_succ_of_ne_zero
      (show fuel ≠ 0 by rintro rfl; simp at hfuel)
    rw [members_field field (afterMember_moreFields _ rest), moreFields, List.cons_append,
      skipSpace_cons _ (by decide), List.append_assoc]
    simp only [ih next fuel (by simpa using hfuel)]
    rfl

/-- The text of an object is longer than the number of its members, so its length is fuel enough. -/
theorem length_moreFields (fields : List (List UInt16 × Flat)) :
    fields.length + 1 ≤ (moreFields fields).length := by
  induction fields with
  | nil => exact Nat.le_refl 1
  | cons field fields ih =>
    rw [moreFields, List.length_cons, List.length_cons, List.length_append]
    omega

/-- **Parsing undoes writing.** -/
theorem parse_objectText (fields : List (List UInt16 × Flat)) :
    parse (objectText fields) = some (.object (readFields fields)) := by
  cases fields with
  | nil => rfl
  | cons field fields =>
    have hquote : fieldText field ++ moreFields fields =
        '"' :: (fieldText field ++ moreFields fields).tail := rfl
    -- every member has a character of its own, so that the length of the text is fuel enough
    obtain ⟨fuel, hfuel⟩ : ∃ fuel, (fieldText field ++ moreFields fields).length = fuel + 1 ∧
        fields.length ≤ fuel := by
      have hmore := length_moreFields fields
      exact ⟨(fieldText field ++ moreFields fields).length - 1, by
        rw [List.length_append]
        omega, by
        rw [List.length_append]
        omega⟩
    have hmembers : members (fuel + 2) (fieldText field ++ moreFields fields) =
        some (readFields (field :: fields), []) := by
      have hread := members_fields field fields [] fuel hfuel.2
      rwa [List.append_nil] at hread
    have hvalue : value (fuel + 3) (objectText (field :: fields)) =
        some (.object (readFields (field :: fields)), []) := by
      rw [objectText, value, skipSpace_cons _ (by decide), hquote]
      simp only [skipSpace_cons (c := '"') _ (by decide)]
      rw [← hquote, hmembers]
      rfl
    rw [parse, objectText, List.length_cons, hfuel.1, ← objectText, hvalue]
    rfl

end Text.JsonParse
