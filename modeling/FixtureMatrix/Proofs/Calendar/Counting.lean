import FixtureMatrix.Proofs.Calendar.Days
import Mathlib.Tactic.IntervalCases
import Mathlib.Tactic.SplitIfs

/-!
# Counting the days of the calendar

The days of the proleptic Gregorian calendar by its rules alone: which years are leap
years, how long a month is, and the number of a day as the sum of the years and months
before it. The arithmetic of eras agrees with this count.

* `valid_ofDays`: the date of a day is one of the calendar.
* `toDays_eq_dayNumber`: the number of a date is the count of the days before it.
* `dayNumber_ofDays`: so the date of a day is the one that many days from 1970-01-01.
-/

namespace FixtureMatrix.Date

/-! ## The rules of the calendar -/

/-- Every fourth year is a leap year, but of the centuries only every fourth. -/
def isLeap (year : Int) : Bool :=
  year % 4 = 0 && (year % 100 ≠ 0 || year % 400 = 0)

/-- The days of a month, in a leap year or not. -/
def daysOfMonth (leap : Bool) (month : Nat) : Nat :=
  if month = 2 then (if leap then 29 else 28)
  else if month ∈ [4, 6, 9, 11] then 30 else 31

/-- The days of a year: those of its twelve months. -/
def daysOfYear (year : Int) : Nat :=
  ((List.range' 1 12).map (daysOfMonth (isLeap year))).sum

/-- The days of several years, from one on. -/
def daysOfYears (first : Int) (count : Nat) : Int :=
  ((List.range count).map fun k : Nat => (daysOfYear (first + k) : Int)).sum

/-- A date of the calendar. -/
structure Valid (d : Date) : Prop where
  month_pos : 1 ≤ d.month
  month_le : d.month ≤ 12
  day_pos : 1 ≤ d.day
  day_le : d.day ≤ daysOfMonth (isLeap d.year) d.month

namespace Valid

variable {d : Date}

theorem month_lt (hd : d.Valid) : d.month < 100 := by
  have hle := hd.month_le
  omega

theorem day_lt (hd : d.Valid) : d.day < 100 := by
  have hle := hd.day_le
  unfold daysOfMonth at hle
  split_ifs at hle <;> omega

end Valid

theorem valid_newYear (year : Int) : (⟨year, 1, 1⟩ : Date).Valid :=
  ⟨Nat.le_refl 1, (by decide : 1 ≤ 12), Nat.le_refl 1, (by decide : 1 ≤ 31)⟩

/-- The days from the start of 1970 to the start of a year, negative for an earlier one. -/
def daysToYear (year : Int) : Int :=
  daysOfYears 1970 (year - 1970).toNat - daysOfYears year (1970 - year).toNat

/-- The days from 1970-01-01 to a date: those of whole years, of the months before its
month, and of its month. -/
def dayNumber (d : Date) : Int :=
  daysToYear d.year + (((List.range' 1 (d.month - 1)).map (daysOfMonth (isLeap d.year))).sum : Nat) +
    (d.day - 1 : Int)

/-! ## Years -/

/-- The days before a year, from the leap years before it. -/
def daysBeforeJanuary (year : Int) : Int :=
  365 * year + (year - 1) / 4 - (year - 1) / 100 + (year - 1) / 400

theorem daysOfYear_eq (year : Int) : daysOfYear year = if isLeap year then 366 else 365 := by
  unfold daysOfYear
  cases isLeap year <;> rfl

theorem daysBeforeJanuary_add_one (year : Int) :
    daysBeforeJanuary (year + 1) = daysBeforeJanuary year + daysOfYear year := by
  rw [daysOfYear_eq]
  unfold daysBeforeJanuary isLeap
  simp only [Bool.and_eq_true, Bool.or_eq_true, decide_eq_true_eq]
  split_ifs <;> omega

/-- Years that follow each other add up to what the first and the last stand apart. -/
theorem daysOfYears_eq (first : Int) (count : Nat) :
    daysOfYears first count = daysBeforeJanuary (first + count) - daysBeforeJanuary first := by
  unfold daysOfYears
  induction count with
  | zero => simp
  | succ count ih =>
    have hnext := daysBeforeJanuary_add_one (first + count)
    rw [List.range_succ, List.map_append, List.sum_append, ih, List.map_singleton,
      List.sum_singleton, Nat.cast_succ, ← Int.add_assoc]
    omega

theorem daysToYear_eq (year : Int) : daysToYear year = daysBeforeJanuary year - 719527 := by
  have hepoch : daysBeforeJanuary 1970 = 719527 := rfl
  unfold daysToYear
  -- Forwards or backwards, the years end at the later of the two.
  have hforward : (1970 : Int) + (year - 1970).toNat = max year 1970 := by omega
  have hback : year + (1970 - year).toNat = max year 1970 := by omega
  rw [daysOfYears_eq, daysOfYears_eq, hforward, hback]
  omega

/-! ## Months -/

/-- The months before one of a year, counted from March as far as there are any. -/
theorem sum_daysOfMonth (leap : Bool) {month : Nat} (hpos : 1 ≤ month) (hle : month ≤ 12) :
    ((List.range' 1 (month - 1)).map (daysOfMonth leap)).sum =
      if month ≤ 2 then 31 * (month - 1)
      else (if leap then 60 else 59) + daysBeforeMonth (month - 3) := by
  interval_cases month <;> cases leap <;> rfl

/-- Counting from March or from January, the days before a date are the same. -/
theorem toDays_eq_dayNumber {d : Date} (hd : d.Valid) : d.toDays = d.dayNumber := by
  obtain ⟨year, month, day⟩ := d
  have hpos : 1 ≤ month := hd.month_pos
  have hle : month ≤ 12 := hd.month_le
  unfold dayNumber
  rw [daysToYear_eq, sum_daysOfMonth _ hpos hle]
  have hback : (month + 9) % 12 = if month ≤ 2 then month + 9 else month - 3 := by
    split_ifs <;> omega
  unfold toDays daysPerEra epochOffset daysBeforeJanuary daysBeforeMonth isLeap
  simp only [hback, Bool.and_eq_true, Bool.or_eq_true, decide_eq_true_eq, Int.ofNat_eq_natCast]
  split_ifs <;> push_cast <;> omega

/-! ## The date of a day -/

variable {day : Nat}

/-- The days of a year from March on, with the leap day at its end. -/
def daysOfMarchYear (year : Nat) : Nat :=
  if isLeap (year + 1 : Nat) then 366 else 365

theorem lt_daysOfMarchYear (hday : day < 146097) :
    day - daysBeforeYear (yearOfEra day) < daysOfMarchYear (yearOfEra day) := by
  have hend := lt_daysBeforeYear_add_one hday
  have hlast : day = 146096 → yearOfEra day = 399 := by rintro rfl; rfl
  generalize yearOfEra day = year at hend hlast ⊢
  unfold daysBeforeYear at hend ⊢
  generalize hnext : year + 1 = next at hend
  have hcentury : next % 4 ≠ 0 → next / 100 = year / 100 := by omega
  unfold daysOfMarchYear isLeap
  rw [hnext]
  simp only [Bool.and_eq_true, Bool.or_eq_true, decide_eq_true_eq]
  split_ifs with hleap
  · omega
  · have hplain : next % 4 ≠ 0 ∨ next % 100 = 0 ∧ next % 400 ≠ 0 := by omega
    rcases hplain with hplain | ⟨hcent, hera⟩
    · omega
    · omega

/-- Only the second month has not the same days in every year. -/
theorem daysOfMonth_congr (leap leap' : Bool) {month : Nat} (hmonth : month ≠ 2) :
    daysOfMonth leap month = daysOfMonth leap' month := by
  unfold daysOfMonth
  rw [if_neg hmonth, if_neg hmonth]

/-- The number that a month has in the calendar, if March is 0. -/
def monthFromMarch (month : Nat) : Nat :=
  if month < 10 then month + 3 else month - 9

theorem daysBeforeMonth_add_one : ∀ leap, ∀ month < 11,
    daysBeforeMonth (month + 1) =
      daysBeforeMonth month + daysOfMonth leap (monthFromMarch month) := by
  decide

/-- The month found does not end before the day. -/
theorem lt_daysOfMonth {leap : Bool} (hday : day < if leap then 366 else 365) :
    day - daysBeforeMonth (monthOfYear day) <
      daysOfMonth leap (monthFromMarch (monthOfYear day)) := by
  have hend : day < daysBeforeMonth (monthOfYear day + 1) := by
    unfold daysBeforeMonth monthOfYear
    omega
  have hle : day ≤ 365 := by split_ifs at hday <;> omega
  obtain ⟨hmonth, hstart, -⟩ := monthOfYear_bounds hle
  by_cases hlast : monthOfYear day = 11
  · rw [hlast]
    have hbefore : daysBeforeMonth 11 = 337 := rfl
    cases leap
    · change day - _ < 28
      simp only [Bool.false_eq_true, if_false] at hday
      omega
    · change day - _ < 29
      simp only [if_true] at hday
      omega
  · have hnext := daysBeforeMonth_add_one leap (monthOfYear day) (by omega)
    omega

/-- The calendar repeats itself after every era. -/
theorem isLeap_add_era (era year : Int) : isLeap (era * 400 + year) = isLeap year := by
  have hquad : (era * 400 + year) % 4 = year % 4 := by omega
  have hcentury : (era * 400 + year) % 100 = year % 100 := by omega
  have hera : (era * 400 + year) % 400 = year % 400 := by omega
  unfold isLeap
  rw [hquad, hcentury, hera]

theorem valid_ofMarchYear {era : Int} {year : Nat} (hday : day < daysOfMarchYear year) :
    (ofMarchYear era year (monthOfYear day)
      (day - daysBeforeMonth (monthOfYear day) + 1)).Valid := by
  have hend := lt_daysOfMonth hday
  have hmonth : monthOfYear day < 12 := by
    unfold daysOfMarchYear at hday
    exact (monthOfYear_bounds (by split_ifs at hday <;> omega)).1
  generalize monthOfYear day = month at hend hmonth ⊢
  unfold monthFromMarch at hend
  unfold ofMarchYear
  split_ifs at hend ⊢ with hearly
  · refine ⟨?_, ?_, ?_, ?_⟩ <;> dsimp only
    · omega
    · omega
    · omega
    · rw [daysOfMonth_congr _ (isLeap (year + 1 : Nat)) (by omega)]
      omega
  · refine ⟨?_, ?_, ?_, ?_⟩ <;> dsimp only
    · omega
    · omega
    · omega
    · rw [add_assoc, isLeap_add_era]
      exact hend

/-- The date of a day is one of the calendar. -/
theorem valid_ofDays (days : Int) : (ofDays days).Valid := by
  have hday : ((days + epochOffset) % daysPerEra).toNat < 146097 := by
    unfold daysPerEra
    omega
  rw [ofDays_eq]
  exact valid_ofMarchYear (lt_daysOfMarchYear hday)

/-- The date of a day is the one that many days from 1970-01-01. -/
theorem dayNumber_ofDays (days : Int) : (ofDays days).dayNumber = days := by
  rw [← toDays_eq_dayNumber (valid_ofDays days), toDays_ofDays]

end FixtureMatrix.Date
