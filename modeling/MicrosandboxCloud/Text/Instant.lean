import Mathlib.Algebra.Group.Nat.Defs
import MicrosandboxCloud.Data.Calendar

/-!
# Text — instants

Two languages write and read an instant as a text.

* **`toISOString`** — as JavaScript writes milliseconds since 1970: a year from 0 to 9999 with four
  digits, any other with a sign and six.
* **`parseRFC3339`** — as Go's `time.Parse(time.RFC3339, …)` reads nanoseconds since 1970: a year of
  four digits, fractions of a second although the layout has none, and an offset or `Z`.
* **`parseRFC3339_toISOString`** — the second reads what the first has written exactly for the years
  from 0 to 9999, and reads the instant that was written.
-/

namespace Text.Instant

open Data.Calendar

/-! ## Digits

Numbers are written with a fixed width, so a number that is too large loses its leading digits. -/

/-- The last decimal digit. -/
def digit (n : Nat) : Char := Nat.digitChar (n % 10)

/-- The last `width` decimal digits. -/
def digits : (width n : Nat) → List Char
  | 0, _ => []
  | width + 1, n => digits width (n / 10) ++ [digit n]

/-- The value of a decimal digit. -/
def digitValue (c : Char) : Nat := c.toNat - 48

/-- The value of a list of digits, after digits of the value `acc`. -/
def digitsValue (acc : Nat) (s : List Char) : Nat :=
  s.foldl (fun n c => 10 * n + digitValue c) acc

/-! ## Writing

The text of a day and of a time of day, for any integer number of milliseconds. The day comes from
the calendar by floor division, so an instant before 1970 has a time of day that is not negative. -/

/-- The milliseconds of a day without leap seconds, as both languages count. -/
def msPerDay : Int := 86400000

/-- A year of four digits, or with a sign and six where it needs more. -/
def yearText (year : Int) : List Char :=
  if 0 ≤ year ∧ year ≤ 9999 then digits 4 year.toNat
  else (if year < 0 then '-' else '+') :: digits 6 year.natAbs

/-- `HH:mm:ss.sss` -/
def timeText (ms : Nat) : List Char :=
  digits 2 (ms / 3600000) ++ (':' :: (digits 2 (ms / 60000 % 60) ++
    (':' :: (digits 2 (ms / 1000 % 60) ++ ('.' :: digits 3 (ms % 1000))))))

/-- The year, month and day, with hyphens between them. -/
def dateText (d : Date) : List Char :=
  yearText d.year ++ ('-' :: (digits 2 d.month ++ ('-' :: digits 2 d.day)))

/-- `new Date(ms).toISOString()`, for the `ms` of a valid date. -/
def toISOString (ms : Int) : List Char :=
  dateText (dateOfDay (ms / msPerDay)) ++ ('T' :: (timeText (ms % msPerDay).toNat ++ ['Z']))

/-! ## Reading

The steps of Go's `parse` for the layout RFC 3339, in the order of the layout. Each reads from the
front of the text and returns what is left. -/

/-- `getnum`: two digits, or one where the field is not fixed. -/
def getnum (fixed : Bool) : List Char → Option (Nat × List Char)
  | a :: b :: rest =>
    if !a.isDigit then none
    else if b.isDigit then some (digitsValue 0 [a, b], rest)
    else if fixed then none
    else some (digitValue a, b :: rest)
  | [a] => if a.isDigit && !fixed then some (digitValue a, []) else none
  | [] => none

/-- A literal of the layout. -/
def skip (literal : Char) : List Char → Option (List Char)
  | c :: rest => if c = literal then some rest else none
  | [] => none

/-- The year: four digits. -/
def getYear (s : List Char) : Option (Nat × List Char) :=
  if s.length < 4 ∨ (s.take 4).all Char.isDigit = false then none
  else some (digitsValue 0 (s.take 4), s.drop 4)

/-- A number of two digits up to a bound. -/
def getUpTo (fixed : Bool) (least greatest : Nat) (s : List Char) : Option (Nat × List Char) :=
  (getnum fixed s).filter fun n => least ≤ n.1 ∧ n.1 ≤ greatest

/-- `parseNanoseconds`: the first nine digits after the point. -/
def nanoseconds (ds : List Char) : Nat :=
  digitsValue 0 (ds.take 9) * 10 ^ (9 - (ds.take 9).length)

/-- The fraction of a second, after a point or a comma, if there is one. -/
def getFraction : List Char → Nat × List Char
  | c :: d :: rest =>
    if (c = '.' ∨ c = ',') ∧ d.isDigit then
      (nanoseconds ((d :: rest).takeWhile Char.isDigit), (d :: rest).dropWhile Char.isDigit)
    else (0, c :: d :: rest)
  | s => (0, s)

/-- The offset in seconds at the end of the text. -/
def getZone : List Char → Option Int
  | ['Z'] => some 0
  | [sign, a, b, ':', c, d] => do
    let (hours, _) ← getUpTo true 0 24 [a, b]
    let (minutes, _) ← getUpTo true 0 60 [c, d]
    if sign = '+' then some ((hours * 60 + minutes) * 60)
    else if sign = '-' then some (-((hours * 60 + minutes) * 60))
    else none
  | _ => none

/-- `time.Parse(time.RFC3339, s)` in nanoseconds since 1970. -/
def parseRFC3339 (s : List Char) : Option Int := do
  let (year, s) ← getYear s
  let s ← skip '-' s
  let (month, s) ← getUpTo true 1 12 s
  let s ← skip '-' s
  let (day, s) ← getnum true s
  let s ← skip 'T' s
  let (hour, s) ← getUpTo false 0 23 s
  let s ← skip ':' s
  let (minute, s) ← getUpTo true 0 59 s
  let s ← skip ':' s
  let (second, s) ← getUpTo true 0 59 s
  -- the layout has no fraction, and one is read all the same
  let (nanos, s) := getFraction s
  let offset ← getZone s
  -- the day is checked last, against its month
  if 1 ≤ day ∧ (day : Int) ≤ daysIn month year then
    some ((((Date.toDay ⟨year, month, day⟩ * 24 + hour) * 60 + minute) * 60 + second - offset) *
      1000000000 + nanos)
  else none

/-! ## What is read is what was written

One lemma a field: it reads back what was written with its width, whatever follows. -/

section RoundTrip

variable {rest : List Char}

/-- A digit is a digit of Go's too. -/
theorem digit_isDigit (n : Nat) : (digit n).isDigit = true := by
  have hdigits : ∀ k < 10, (Nat.digitChar k).isDigit = true := by decide
  exact hdigits _ (Nat.mod_lt n (by decide))

/-- The value of a digit that was written. -/
theorem digitValue_digit (n : Nat) : digitValue (digit n) = n % 10 := by
  have hdigits : ∀ k < 10, digitValue (Nat.digitChar k) = k := by decide
  exact hdigits _ (Nat.mod_lt n (by decide))

/-- The width of a field is the one it was written with. -/
theorem length_digits (width n : Nat) : (digits width n).length = width := by
  induction width generalizing n with
  | zero => rfl
  | succ width ih => simp [digits, ih]

theorem digits_isDigit (width n : Nat) : ∀ c ∈ digits width n, c.isDigit = true := by
  induction width generalizing n with
  | zero => exact fun c hc => absurd hc List.not_mem_nil
  | succ width ih =>
    intro c hc
    rcases List.mem_append.mp hc with hc | hc
    · exact ih (n / 10) c hc
    · rw [List.mem_singleton.mp hc]
      exact digit_isDigit n

/-- The digits are read as the number. Induction on their number: the last digit is its remainder by
ten. -/
theorem digitsValue_digits {width n : Nat} (h : n < 10 ^ width) :
    digitsValue 0 (digits width n) = n := by
  induction width generalizing n with
  | zero =>
    rw [Nat.pow_zero] at h
    simp only [digits, digitsValue, List.foldl_nil]
    omega
  | succ width ih =>
    have hhead : n / 10 < 10 ^ width := by
      rw [Nat.pow_succ] at h
      omega
    simp only [digitsValue] at ih ⊢
    rw [digits, List.foldl_append, ih hhead, List.foldl_cons, List.foldl_nil, digitValue_digit]
    omega

/-- A field of two digits is read back. -/
theorem getnum_digits {n : Nat} (fixed : Bool) (h : n < 100) :
    getnum fixed (digits 2 n ++ rest) = some (n, rest) := by
  have hvalue : digitsValue 0 (digits 2 n) = n := digitsValue_digits h
  change digitsValue 0 [digit (n / 10), digit n] = n at hvalue
  change getnum fixed (digit (n / 10) :: digit n :: rest) = _
  simp [getnum, digit_isDigit, hvalue]

/-- So is one with bounds, if its number keeps them. -/
theorem getUpTo_digits {n least greatest : Nat} (fixed : Bool) (h : least ≤ n ∧ n ≤ greatest)
    (hbound : n < 100) : getUpTo fixed least greatest (digits 2 n ++ rest) = some (n, rest) := by
  rw [getUpTo, getnum_digits fixed hbound, Option.filter_some, if_pos (by simpa using h)]

theorem getYear_digits {n : Nat} (h : n < 10000) :
    getYear (digits 4 n ++ rest) = some (n, rest) := by
  have hlength := length_digits 4 n
  have htake : (digits 4 n ++ rest).take 4 = digits 4 n := List.take_left' hlength
  have hdrop : (digits 4 n ++ rest).drop 4 = rest := List.drop_left' hlength
  have hall : (digits 4 n).all Char.isDigit = true := List.all_eq_true.mpr (digits_isDigit 4 n)
  have hlong : ¬ (digits 4 n ++ rest).length < 4 := by
    rw [List.length_append, hlength]
    omega
  have hvalue : digitsValue 0 (digits 4 n) = n := digitsValue_digits h
  unfold getYear
  rw [htake, hdrop, hall, hvalue, if_neg (by simpa using hlong)]

theorem skip_self (c : Char) : skip c (c :: rest) = some rest := if_pos rfl

/-- The milliseconds are read as nanoseconds. -/
theorem getFraction_digits {n : Nat} (h : n < 1000) :
    getFraction ('.' :: (digits 3 n ++ ['Z'])) = (n * 1000000, ['Z']) := by
  have hdigits := digits_isDigit 3 n
  have hvalue : digitsValue 0 (digits 3 n) = n := digitsValue_digits h
  have hcons : digits 3 n = digit (n / 10 / 10) :: [digit (n / 10), digit n] := rfl
  -- the digits end at the `Z`
  have htake : (digits 3 n ++ ['Z']).takeWhile Char.isDigit = digits 3 n := by
    rw [List.takeWhile_append_of_pos hdigits]
    exact List.append_nil _
  have hdrop : (digits 3 n ++ ['Z']).dropWhile Char.isDigit = ['Z'] := by
    rw [List.dropWhile_append_of_pos hdigits]
    rfl
  rw [hcons] at htake hdrop ⊢
  simp only [List.cons_append] at htake hdrop ⊢
  rw [getFraction, if_pos ⟨Or.inl rfl, digit_isDigit _⟩, htake, hdrop, ← hcons]
  -- three digits of nine
  have hscale : 10 ^ (9 - 3) = 1000000 := by decide
  have hnanos : nanoseconds (digits 3 n) = n * 1000000 := by
    rw [nanoseconds, List.take_of_length_le (by rw [length_digits]; decide), hvalue, length_digits,
      hscale]
  rw [hnanos]

/-- The parts of a text that is read. -/
theorem parseRFC3339_of_parts {s s₁ s₂ s₃ s₄ s₅ s₆ s₇ : List Char}
    {year month day hour minute second nanos : Nat} {offset : Int}
    (hyear : getYear s = some (year, '-' :: s₁))
    (hmonth : getUpTo true 1 12 s₁ = some (month, '-' :: s₂))
    (hday : getnum true s₂ = some (day, 'T' :: s₃))
    (hhour : getUpTo false 0 23 s₃ = some (hour, ':' :: s₄))
    (hminute : getUpTo true 0 59 s₄ = some (minute, ':' :: s₅))
    (hsecond : getUpTo true 0 59 s₅ = some (second, s₆))
    (hfraction : getFraction s₆ = (nanos, s₇)) (hzone : getZone s₇ = some offset)
    (hvalid : 1 ≤ day ∧ (day : Int) ≤ daysIn month year) :
    parseRFC3339 s = some ((((Date.toDay ⟨year, month, day⟩ * 24 + hour) * 60 + minute) * 60 +
      second - offset) * 1000000000 + nanos) := by
  unfold parseRFC3339
  simp only [hyear, hmonth, hday, hhour, hminute, hsecond, hfraction, hzone, skip_self,
    Option.bind_eq_bind, Option.bind_some, if_pos hvalid]

/-- A year beyond four digits is written with a sign, which is no digit. -/
theorem parseRFC3339_signed {c : Char} (hc : c.isDigit = false) :
    parseRFC3339 (c :: rest) = none := by
  have hyear : getYear (c :: rest) = none := by
    refine if_pos (Or.inr ?_)
    rw [List.take_succ_cons, List.all_cons, hc, Bool.false_and]
  unfold parseRFC3339
  rw [hyear]
  rfl

/-- An instant is a day and the milliseconds since it began. -/
theorem exists_time (ms : Int) :
    ∃ t : Nat, t < 86400000 ∧ ms % msPerDay = t ∧ ms = ms / msPerDay * 86400000 + t := by
  have hpos : 0 ≤ ms % msPerDay := Int.emod_nonneg _ (by decide)
  have hlt := Int.emod_lt_of_pos ms (show (0 : Int) < msPerDay by decide)
  have hsplit := Int.emod_add_mul_ediv ms msPerDay
  obtain ⟨t, ht⟩ : ∃ t : Nat, ms % msPerDay = t := ⟨_, (Int.toNat_of_nonneg hpos).symm⟩
  rw [ht] at hlt hsplit
  simp only [msPerDay] at hlt hsplit ht ⊢
  exact ⟨t, by omega, ht, by omega⟩

/-- A date with a year of four digits and a time are read field by field. -/
theorem parseRFC3339_dateText {year month day t : Nat} (hyear : year ≤ 9999)
    (hvalid : Date.Valid ⟨year, month, day⟩) (hday31 : day ≤ 31) (ht : t < 86400000) :
    parseRFC3339 (dateText ⟨year, month, day⟩ ++ ('T' :: (timeText t ++ ['Z']))) =
      some ((Date.toDay ⟨year, month, day⟩ * 86400000 + t) * 1000000) := by
  obtain ⟨hmonth, hday⟩ := hvalid
  simp only at hmonth hday
  -- every field is within the bounds that its reader checks
  have hrange : 0 ≤ (year : Int) ∧ (year : Int) ≤ 9999 := by omega
  have hhour : 0 ≤ t / 3600000 ∧ t / 3600000 ≤ 23 := by omega
  have hminute : 0 ≤ t / 60000 % 60 ∧ t / 60000 % 60 ≤ 59 := by omega
  have hsecond : 0 ≤ t / 1000 % 60 ∧ t / 1000 % 60 ≤ 59 := by omega
  have hmillis : t % 1000 < 1000 := by omega
  simp only [dateText, yearText, if_pos hrange, timeText, Int.toNat_natCast, List.append_assoc,
    List.cons_append]
  rw [parseRFC3339_of_parts (getYear_digits (by omega)) (getUpTo_digits true hmonth (by omega))
    (getnum_digits true (by omega)) (getUpTo_digits false hhour (by omega))
    (getUpTo_digits true hminute (by omega)) (getUpTo_digits true hsecond (by omega))
    (getFraction_digits hmillis) rfl hday]
  congr 1
  omega

/-- **Instants.** What `toISOString` writes is read back as the same instant when its year is one
from 0 to 9999, and is not read at all otherwise. -/
theorem parseRFC3339_toISOString (ms : Int) :
    parseRFC3339 (toISOString ms) =
      if 0 ≤ yearFromDay (ms / msPerDay) ∧ yearFromDay (ms / msPerDay) ≤ 9999 then
        some (ms * 1000000)
      else none := by
  obtain ⟨t, hlt, ht, hms⟩ := exists_time ms
  have htext : toISOString ms =
      dateText (dateOfDay (ms / msPerDay)) ++ ('T' :: (timeText t ++ ['Z'])) := by
    rw [toISOString, ht, Int.toNat_natCast]
  have hvalid := dateOfDay_valid (ms / msPerDay)
  have hday31 := dateOfDay_day_le (ms / msPerDay)
  have htoDay := toDay_dateOfDay (ms / msPerDay)
  have hyear : (dateOfDay (ms / msPerDay)).year = yearFromDay (ms / msPerDay) := rfl
  rw [htext, ← hyear]
  -- from here on the date is any valid one of that day
  generalize dateOfDay (ms / msPerDay) = d at hvalid hday31 htoDay
  obtain ⟨year, month, day⟩ := d
  split_ifs with hrange
  · obtain ⟨y, rfl⟩ : ∃ y : Nat, year = y := ⟨_, (Int.toNat_of_nonneg hrange.1).symm⟩
    have hfour : y ≤ 9999 := Int.ofNat_le.mp hrange.2
    rw [parseRFC3339_dateText hfour hvalid hday31 hlt, htoDay, ← hms]
  -- the text begins with a sign, where four digits are expected
  · rw [dateText, yearText, if_neg hrange]
    exact parseRFC3339_signed (by split_ifs <;> rfl)

end RoundTrip

end Text.Instant
