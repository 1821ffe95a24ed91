import Mathlib.Order.Monotone.Basic
import Mathlib.Tactic.IntervalCases
import RealmAuth.Clock.Calendar

namespace RealmAuth

/-!
The Gregorian calendar by its own rules, carried back before its introduction and on
behind the year 9999.  The rules say which years have a leap day and how long the months
are; a date is numbered by the years, months and days that went before it.  The dates of
`Calendar.date` are found by division instead.  Each of them is a date by the rules and
has the number of its day, and the order of the numbers is that of the years, months and
days.
-/

/-! ## Orders by numbers -/

section Numbered

variable {α : Type} {before : α → α → Prop} {first second : α} (number : α → Int)

/-- An order in which all things compare is that of numbers which increase along it. -/
theorem before_iff_of_numbered
    (compared : before first second ∨ first = second ∨ before second first)
    (increase : before first second → number first < number second)
    (increase' : before second first → number second < number first) :
    before first second ↔ number first < number second := by
  constructor
  · exact increase
  · intro fewer
    rcases compared with earlier | rfl | later
    · exact earlier
    · exact absurd fewer (Int.lt_irrefl _)
    · exact absurd fewer (Int.lt_asymm (increase' later))

/-- No two things have one number then. -/
theorem eq_of_numbered (compared : before first second ∨ first = second ∨ before second first)
    (increase : before first second → number first < number second)
    (increase' : before second first → number second < number first)
    (same : number first = number second) : first = second := by
  rcases compared with earlier | equal | later
  · exact absurd same (Int.ne_of_lt (increase earlier))
  · exact equal
  · exact absurd same.symm (Int.ne_of_lt (increase' later))

end Numbered

namespace Calendar

def IsLeapYear (year : Int) : Prop :=
  year % 4 = 0 ∧ (year % 100 ≠ 0 ∨ year % 400 = 0)

instance (year : Int) : Decidable (IsLeapYear year) :=
  inferInstanceAs (Decidable (_ ∧ _))

/-- The days of a month; the months of a year are counted from one. -/
def monthLength (year : Int) : Nat → Nat
  | 2 => if IsLeapYear year then 29 else 28
  | 4 | 6 | 9 | 11 => 30
  | _ => 31

/-- The days of a year before one of its months, or before its end for month thirteen. -/
def daysBeforeMonth (year : Int) : Nat → Nat
  | 0 | 1 => 0
  | month + 2 => daysBeforeMonth year (month + 1) + monthLength year (month + 1)

/-- The days before a year, counted from the start of the year 1. -/
def daysBeforeYear (year : Int) : Int :=
  (year - 1) * 365 + (year - 1) / 4 - (year - 1) / 100 + (year - 1) / 400

/-! ## Years and months -/

theorem daysBeforeMonth_succ (year : Int) {month : Nat} (positive : 1 ≤ month) :
    daysBeforeMonth year (month + 1) = daysBeforeMonth year month + monthLength year month := by
  cases month with
  | zero => omega
  | succ month => rfl

theorem daysBeforeMonth_mono (year : Int) {first second : Nat} (ordered : first ≤ second) :
    daysBeforeMonth year first ≤ daysBeforeMonth year second := by
  have step : ∀ month, daysBeforeMonth year month ≤ daysBeforeMonth year (month + 1) := by
    intro month
    cases month with
    | zero => exact Nat.le_refl 0
    | succ month => exact Nat.le_add_right ..
  exact monotone_nat_of_le_succ step ordered

/-- From March on the months have 153 days in every five, up to the end of the year. -/
theorem daysBeforeMonth_march (year : Int) {month : Nat} (within : month ≤ 10) :
    daysBeforeMonth year (month + 3) = 31 + monthLength year 2 + (153 * month + 2) / 5 := by
  interval_cases month <;> simp [daysBeforeMonth, monthLength]

/-- The years one after the other have the days of their months. -/
theorem daysBeforeYear_succ (year : Int) :
    daysBeforeYear (year + 1) = daysBeforeYear year + daysBeforeMonth year 13 := by
  have fours : (year + 1 - 1) / 4 = (year - 1) / 4 + if year % 4 = 0 then 1 else 0 := by
    split <;> omega
  have hundreds : (year + 1 - 1) / 100 = (year - 1) / 100 + if year % 100 = 0 then 1 else 0 := by
    split <;> omega
  have cycles : (year + 1 - 1) / 400 = (year - 1) / 400 + if year % 400 = 0 then 1 else 0 := by
    split <;> omega
  have february : (monthLength year 2 : Int) = 28 + (if year % 4 = 0 then 1 else 0) -
      (if year % 100 = 0 then 1 else 0) + if year % 400 = 0 then 1 else 0 := by
    by_cases leap : IsLeapYear year
    · have length : monthLength year 2 = 29 := if_pos leap
      unfold IsLeapYear at leap
      split_ifs <;> omega
    · have length : monthLength year 2 = 28 := if_neg leap
      unfold IsLeapYear at leap
      split_ifs <;> omega
  rw [daysBeforeMonth_march year (Nat.le_refl 10), daysBeforeYear, daysBeforeYear, fours,
    hundreds, cycles]
  push_cast
  rw [february]
  omega

theorem daysBeforeYear_mono {first second : Int} (ordered : first ≤ second) :
    daysBeforeYear first ≤ daysBeforeYear second := by
  have step : ∀ year, daysBeforeYear year ≤ daysBeforeYear (year + 1) := by
    intro year
    rw [daysBeforeYear_succ]
    omega
  exact monotone_int_of_le_succ step ordered

end Calendar

/-! ## Dates -/

namespace Date

open Calendar

/-- A month of the year and a day of that month. -/
structure Valid (date : Date) : Prop where
  month : 1 ≤ date.month ∧ date.month ≤ 12
  day : 1 ≤ date.day ∧ date.day ≤ monthLength date.year date.month

/-- The days from the start of 1970 to a date. -/
def days (date : Date) : Int :=
  daysBeforeYear date.year + daysBeforeMonth date.year date.month + date.day -
    (daysBeforeYear 1970 + 1)

def Before (first second : Date) : Prop :=
  first.year < second.year ∨ first.year = second.year ∧
    (first.month < second.month ∨ first.month = second.month ∧ first.day < second.day)

/-! ## The order of dates -/

/-- A date lies in its month, and with it in its year. -/
theorem Valid.within_month {date : Date} (valid : date.Valid) :
    daysBeforeMonth date.year date.month + date.day ≤
      daysBeforeMonth date.year (date.month + 1) := by
  rw [daysBeforeMonth_succ date.year valid.month.1]
  exact Nat.add_le_add_left valid.day.2 _

/-- Which years a date lies before is told by its number. -/
theorem Valid.year_lt_iff {date : Date} (valid : date.Valid) (year : Int) :
    date.year < year ↔ date.days < daysBeforeYear year - daysBeforeYear 1970 := by
  have first := valid.day.1
  constructor
  · intro earlier
    have later : daysBeforeYear (date.year + 1) ≤ daysBeforeYear year := daysBeforeYear_mono earlier
    have inMonth := valid.within_month
    have inYear : daysBeforeMonth date.year (date.month + 1) ≤ daysBeforeMonth date.year 13 :=
      daysBeforeMonth_mono date.year (by have := valid.month.2; omega)
    rw [daysBeforeYear_succ] at later
    unfold days
    omega
  · intro fewer
    by_contra notEarlier
    have later : daysBeforeYear year ≤ daysBeforeYear date.year :=
      daysBeforeYear_mono (Int.not_lt.1 notEarlier)
    unfold days at fewer
    omega

theorem Valid.days_lt {first second : Date} (valid : first.Valid) (valid' : second.Valid)
    (before : first.Before second) : first.days < second.days := by
  rcases before with year | ⟨year, month | ⟨month, day⟩⟩
  · have early := (valid.year_lt_iff second.year).1 year
    have late : ¬ second.days < daysBeforeYear second.year - daysBeforeYear 1970 := fun few =>
      Int.lt_irrefl _ ((valid'.year_lt_iff second.year).2 few)
    omega
  · have inMonth := valid.within_month
    have later : daysBeforeMonth first.year (first.month + 1) ≤
        daysBeforeMonth first.year second.month := daysBeforeMonth_mono first.year month
    have some := valid'.day.1
    unfold days
    rw [← year]
    omega
  · unfold days
    rw [← year, ← month]
    omega

theorem before_or_eq_or_before (first second : Date) :
    first.Before second ∨ first = second ∨ second.Before first := by
  rcases first with ⟨year, month, day⟩
  rcases second with ⟨year', month', day'⟩
  unfold Before
  simp only [Date.mk.injEq]
  omega

end Date

/-! ## The date of a day -/

namespace Calendar

/--
The years that begin in March have the days of the years of the calendar, and such a
year has a last day of February the twenty-ninth only if the year then begun has one.
-/
theorem marchYear_counts (days : Int) :
    days = daysBeforeYear ((marchYear days).1 + 1) + (marchYear days).2 ∧
      (marchYear days).2 ≤ 365 ∧
      ((marchYear days).2 = 365 → IsLeapYear ((marchYear days).1 + 1)) := by
  unfold marchYear
  simp only []
  -- Cycles, centuries, groups and years are split off one by one; only the last part of
  -- each may be one day longer than the others.
  generalize cycle : days / 146097 = q
  generalize inCycle : (days % 146097).toNat = r
  have whole : days = q * 146097 + r ∧ r < 146097 := by omega
  clear cycle inCycle
  generalize century : min 3 (r / 36524) = c
  generalize inCentury : r - c * 36524 = s
  have ofCycle : r = c * 36524 + s ∧ c ≤ 3 ∧ (s < 36524 ∨ c = 3 ∧ s = 36524) := by omega
  clear century inCentury
  generalize group : min 24 (s / 1461) = g
  generalize inGroup : s - g * 1461 = t
  have ofCentury : s = g * 1461 + t ∧ g ≤ 24 ∧ t < 1461 ∧
      (g = 24 → t < 1460 ∨ c = 3 ∧ t = 1460) := by omega
  clear group inGroup
  generalize year : min 3 (t / 365) = y
  generalize inYear : t - y * 365 = d
  have ofGroup : t = y * 365 + d ∧ y ≤ 3 ∧ (d < 365 ∨ y = 3 ∧ d = 365) := by omega
  clear year inYear
  refine ⟨?_, by omega, ?_⟩
  · have fours : (q * 400 + c * 100 + g * 4 + y + 1 - 1) / 4 = q * 100 + c * 25 + g := by omega
    have hundreds : (q * 400 + c * 100 + g * 4 + y + 1 - 1) / 100 = q * 4 + c := by omega
    have cycles : (q * 400 + c * 100 + g * 4 + y + 1 - 1) / 400 = q := by omega
    rw [daysBeforeYear, fours, hundreds, cycles]
    omega
  · intro last
    unfold IsLeapYear
    omega

/-- The day of a year that begins in March, as a day of the month that is found for it. -/
theorem march_day {dayOfYear : Nat} (within : dayOfYear ≤ 365) :
    (5 * dayOfYear + 2) / 153 ≤ 11 ∧
      (153 * ((5 * dayOfYear + 2) / 153) + 2) / 5 ≤ dayOfYear ∧
      dayOfYear < (153 * ((5 * dayOfYear + 2) / 153 + 1) + 2) / 5 := by
  omega

theorem monthLength_march (year : Int) {month : Nat} (within : month < 10) :
    (153 * (month + 1) + 2) / 5 = (153 * month + 2) / 5 + monthLength year (month + 3) := by
  have next : daysBeforeMonth year (month + 1 + 3) =
      daysBeforeMonth year (month + 3) + monthLength year (month + 3) := rfl
  rw [daysBeforeMonth_march year within, daysBeforeMonth_march year (Nat.le_of_lt within)] at next
  omega

/-- The last month of a year that begins in March is a February, leap day included. -/
theorem february_day {year : Int} {dayOfYear : Nat} (within : dayOfYear ≤ 365)
    (leap : dayOfYear = 365 → IsLeapYear year) : dayOfYear - 337 + 1 ≤ monthLength year 2 := by
  by_cases leapYear : IsLeapYear year
  · have length : monthLength year 2 = 29 := if_pos leapYear
    omega
  · have length : monthLength year 2 = 28 := if_neg leapYear
    have shorter : dayOfYear ≠ 365 := fun last => leapYear (leap last)
    omega

/-- Every day has a date of the calendar, and the date has the number of the day. -/
theorem date_counts (days : Int) : (date days).Valid ∧ (date days).days = days := by
  rcases marchYear_counts (days + epochShift) with ⟨counted, within, leap⟩
  unfold date
  generalize marchYear (days + epochShift) = found at *
  rcases found with ⟨year, dayOfYear⟩
  dsimp only at counted within leap ⊢
  rcases march_day within with ⟨bound, start, stop⟩
  generalize (5 * dayOfYear + 2) / 153 = month at *
  have base : daysBeforeYear 1970 = 719162 := rfl
  have shift : epochShift = 719468 := rfl
  by_cases early : month < 10
  · have length := monthLength_march year early
    have ahead := daysBeforeMonth_march year (Nat.le_of_lt early)
    have years := daysBeforeYear_succ year
    rw [daysBeforeMonth_march year (Nat.le_refl 10)] at years
    rw [if_pos early]
    refine ⟨⟨⟨?_, ?_⟩, ?_, ?_⟩, ?_⟩ <;> dsimp only [Date.days] <;> omega
  · rw [if_neg early]
    rcases (by omega : month = 10 ∨ month = 11) with rfl | rfl
    · have length : monthLength (year + 1) (10 - 9) = 31 := rfl
      have ahead : daysBeforeMonth (year + 1) (10 - 9) = 0 := rfl
      refine ⟨⟨⟨?_, ?_⟩, ?_, ?_⟩, ?_⟩ <;> dsimp only [Date.days] <;> omega
    · have length : dayOfYear - 337 + 1 ≤ monthLength (year + 1) (11 - 9) :=
        february_day within leap
      have ahead : daysBeforeMonth (year + 1) (11 - 9) = 31 := rfl
      refine ⟨⟨⟨?_, ?_⟩, ?_, ?_⟩, ?_⟩ <;> dsimp only [Date.days] <;> omega

/-- The day that the others are counted from. -/
example : date 0 = ⟨1970, 1, 1⟩ := by decide

end Calendar
end RealmAuth
