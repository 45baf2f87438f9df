import Mathlib.Data.Int.Order.Basic
import Mathlib.Tactic.SplitIfs

/-!
# Data — the proleptic Gregorian calendar

Days are counted from 1970-01-01, years are astronomical.

* **`dayFromYear`** — the first day of a year. `yearFromDay` is the year of a day: the only one
  that begins on it or before, and does not end before it.
* **`Date`** — year, month and day of the month; `Date.Valid` when there is such a day.
* **`toDay_dateOfDay`** — the date of a day is valid, and stands for that day.
-/

namespace Data.Calendar

/-! ## Years

The first day of a year is counted with the leap years before it. Its inverse is an estimate that is
put right by one step. -/

/-- Every fourth year, but of the centuries only every fourth. -/
def IsLeap (y : Int) : Prop := y % 4 = 0 ∧ (y % 100 ≠ 0 ∨ y % 400 = 0)

instance (y : Int) : Decidable (IsLeap y) := inferInstanceAs (Decidable (_ ∧ _))

/-- The first day of a year. -/
def dayFromYear (y : Int) : Int :=
  365 * (y - 1970) + (y - 1969) / 4 - (y - 1901) / 100 + (y - 1601) / 400

/-- The days by which a year is longer than 365. -/
def leapDays (y : Int) : Int := if IsLeap y then 1 else 0

/-- A year is 365 days and its leap day. -/
theorem dayFromYear_succ (y : Int) :
    dayFromYear (y + 1) = dayFromYear y + 365 + leapDays y := by
  unfold dayFromYear leapDays IsLeap
  split_ifs <;> omega

theorem leapDays_bounds (y : Int) : 0 ≤ leapDays y ∧ leapDays y ≤ 1 := by
  unfold leapDays
  split_ifs <;> omega

/-- The year of a day: an estimate by the mean length of a year, which is off by one at most. -/
def yearFromDay (n : Int) : Int :=
  let y := 1970 + 400 * n / 146097
  if n < dayFromYear y then y - 1
  else if dayFromYear (y + 1) ≤ n then y + 1
  else y

theorem yearFromDay_spec (n : Int) :
    dayFromYear (yearFromDay n) ≤ n ∧ n < dayFromYear (yearFromDay n + 1) := by
  have hestimate : dayFromYear (1970 + 400 * n / 146097 - 1) ≤ n ∧
      n < dayFromYear (1970 + 400 * n / 146097 + 1 + 1) := by
    unfold dayFromYear
    omega
  unfold yearFromDay
  dsimp only
  split_ifs with hbefore hafter
  · exact ⟨hestimate.1, by rw [Int.sub_add_cancel]; exact hbefore⟩
  · exact ⟨hafter, hestimate.2⟩
  · omega

theorem dayFromYear_mono {y y' : Int} (h : y ≤ y') : dayFromYear y ≤ dayFromYear y' := by
  unfold dayFromYear
  omega

/-- A day is in a year up to `y` when the year after `y` begins later. -/
theorem yearFromDay_le {n y : Int} : yearFromDay n ≤ y ↔ n < dayFromYear (y + 1) := by
  obtain ⟨hfrom, hto⟩ := yearFromDay_spec n
  constructor
  · intro h
    exact lt_of_lt_of_le hto (dayFromYear_mono (by omega))
  · intro h
    by_contra hlate
    have hmono : dayFromYear (y + 1) ≤ dayFromYear (yearFromDay n) := dayFromYear_mono (by omega)
    omega

/-- A day is in the year `y` or later when `y` has begun. -/
theorem le_yearFromDay {n y : Int} : y ≤ yearFromDay n ↔ dayFromYear y ≤ n := by
  have h := yearFromDay_le (n := n) (y := y - 1)
  rw [Int.sub_add_cancel] at h
  omega

/-! ## Months

The days of a year before each month are a table, and the month of a day is searched in it. A month
ends where the next one begins, so that the search is right as soon as it stops at the first month
that does not end before the day. -/

/-- The days of a year before a month. -/
def daysBefore (leap : Int) : Nat → Int
  | 1 => 0
  | 2 => 31
  | 3 => 59 + leap
  | 4 => 90 + leap
  | 5 => 120 + leap
  | 6 => 151 + leap
  | 7 => 181 + leap
  | 8 => 212 + leap
  | 9 => 243 + leap
  | 10 => 273 + leap
  | 11 => 304 + leap
  | 12 => 334 + leap
  | _ => 365 + leap

/-- The first month from `month` on that does not end before a day of the year, the first of which
is 0. `more` counts the months still to look at. -/
def monthSearch (leap day : Int) : (more month : Nat) → Nat
  | 0, month => month
  | more + 1, month =>
    if day < daysBefore leap (month + 1) then month else monthSearch leap day more (month + 1)

/-- The month of a day of the year. -/
def monthFromDay (leap day : Int) : Nat := monthSearch leap day 11 1

/-- The days of a month of a year. -/
def daysIn (month : Nat) (year : Int) : Int :=
  daysBefore (leapDays year) (month + 1) - daysBefore (leapDays year) month

/-- The search ends at the month of a day that is in one of the months looked at. -/
theorem monthSearch_spec {leap day : Int} (more month : Nat)
    (hfrom : daysBefore leap month ≤ day) (hto : day < daysBefore leap (month + more + 1)) :
    (month ≤ monthSearch leap day more month ∧ monthSearch leap day more month ≤ month + more) ∧
      daysBefore leap (monthSearch leap day more month) ≤ day ∧
      day < daysBefore leap (monthSearch leap day more month + 1) := by
  induction more generalizing month with
  | zero => exact ⟨⟨Nat.le_refl _, Nat.le_refl _⟩, hfrom, hto⟩
  | succ more ih =>
    unfold monthSearch
    split_ifs with hhere
    · exact ⟨⟨Nat.le_refl _, by omega⟩, hfrom, hhere⟩
    · rw [show month + (more + 1) + 1 = month + 1 + more + 1 by omega] at hto
      obtain ⟨⟨hle, hmore⟩, hspec⟩ := ih (month + 1) (by omega) hto
      exact ⟨⟨by omega, by omega⟩, hspec⟩

/-- The month is one of the twelve, and the day lies in it. -/
theorem monthFromDay_spec {leap day : Int} (hday : 0 ≤ day) (hend : day < 365 + leap) :
    (1 ≤ monthFromDay leap day ∧ monthFromDay leap day ≤ 12) ∧
      daysBefore leap (monthFromDay leap day) ≤ day ∧
      day < daysBefore leap (monthFromDay leap day + 1) :=
  monthSearch_spec 11 1 hday hend

/-- A month has at least 28 days and at most 31. -/
theorem daysBefore_succ_le (leap : Int) (month : Nat) (hleap : 0 ≤ leap ∧ leap ≤ 1) :
    daysBefore leap (month + 1) ≤ daysBefore leap month + 31 ∨ month = 0 := by
  rcases month with _ | _ | _ | _ | _ | _ | _ | _ | _ | _ | _ | _ | _ | month
  all_goals first
    | exact Or.inr rfl
    | (refine Or.inl ?_; simp only [daysBefore]; omega)

/-! ## Dates

Days and dates are two ways to write the same thing: the date of a day is a valid date, and it is
the day's. -/

/-- Year, month and day of the month, the latter two from 1. -/
structure Date where
  year : Int
  month : Nat
  day : Nat
  deriving DecidableEq

/-- There is such a day. -/
structure Date.Valid (d : Date) : Prop where
  month : 1 ≤ d.month ∧ d.month ≤ 12
  day : 1 ≤ d.day ∧ (d.day : Int) ≤ daysIn d.month d.year

/-- The day that a date stands for. -/
def Date.toDay (d : Date) : Int :=
  dayFromYear d.year + daysBefore (leapDays d.year) d.month + d.day - 1

/-- The date of a day. -/
def dateOfDay (n : Int) : Date :=
  let year := yearFromDay n
  let day := n - dayFromYear year
  let month := monthFromDay (leapDays year) day
  { year := year, month := month, day := (day - daysBefore (leapDays year) month + 1).toNat }

section Dates

variable (n : Int)

/-- The day lies in the month of its date. -/
theorem dateOfDay_month_spec :
    (1 ≤ (dateOfDay n).month ∧ (dateOfDay n).month ≤ 12) ∧
      daysBefore (leapDays (dateOfDay n).year) (dateOfDay n).month ≤
        n - dayFromYear (dateOfDay n).year ∧
      n - dayFromYear (dateOfDay n).year <
        daysBefore (leapDays (dateOfDay n).year) ((dateOfDay n).month + 1) := by
  obtain ⟨hfrom, hto⟩ := yearFromDay_spec n
  rw [dayFromYear_succ] at hto
  exact monthFromDay_spec (by omega) (by omega)

/-- The day of the month counts from the first of the month. -/
theorem dateOfDay_day : ((dateOfDay n).day : Int) =
    n - dayFromYear (dateOfDay n).year -
      daysBefore (leapDays (dateOfDay n).year) (dateOfDay n).month + 1 := by
  have h := (dateOfDay_month_spec n).2.1
  simp only [dateOfDay] at h ⊢
  exact Int.toNat_of_nonneg (by omega)

/-- There is such a day in the month. -/
theorem dateOfDay_valid : (dateOfDay n).Valid := by
  obtain ⟨hmonth, hfrom, hto⟩ := dateOfDay_month_spec n
  have hday := dateOfDay_day n
  refine ⟨hmonth, ?_, ?_⟩
  · omega
  · unfold daysIn
    omega

/-- The date of a day stands for the day. -/
theorem toDay_dateOfDay : (dateOfDay n).toDay = n := by
  have hday := dateOfDay_day n
  unfold Date.toDay
  omega

/-- A day of a month is written with two digits. -/
theorem dateOfDay_day_le : (dateOfDay n).day ≤ 31 := by
  obtain ⟨hmonth, -, hto⟩ := dateOfDay_month_spec n
  have hday := dateOfDay_day n
  have hlength := daysBefore_succ_le (leapDays (dateOfDay n).year) (dateOfDay n).month
    (leapDays_bounds _)
  omega

end Dates

end Data.Calendar
