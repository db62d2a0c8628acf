import FixtureMatrix.Calendar.Date

/-!
# Days and their dates

The date of a day tells the day.  In an era of 400 years the year is a quotient of the
day, corrected for the leap days before it; `daysBeforeYear_le` says that the year
found begins neither after the day nor more than a year before it, and
`lt_daysBeforeYear_add_one` that the year ends behind the day.

* `toDays_ofDays`: from a day to its date and back.
* `ofDays_injective`: different days have different dates.
-/

namespace FixtureMatrix.Date

theorem eq_of_parts {d e : Date} (hyear : d.year = e.year) (hmonth : d.month = e.month)
    (hday : d.day = e.day) : d = e := by
  obtain ⟨year, month, day⟩ := d
  cases hyear
  cases hmonth
  cases hday
  rfl

/-! ## Years of an era -/

section Era

/-- The year of the era on a day of the era. -/
def yearOfEra (day : Nat) : Nat :=
  (day - day / 1460 + day / 36524 - day / 146096) / 365

/-- The days of the era before one of its years. -/
def daysBeforeYear (year : Nat) : Nat :=
  365 * year + year / 4 - year / 100

variable {day : Nat}

theorem century_cases (hday : day < 146097) :
    day / 36524 = 0 ∨ day / 36524 = 1 ∨ day / 36524 = 2 ∨ day / 36524 = 3 ∨
      day / 36524 = 4 := by
  omega

theorem yearOfEra_lt (hday : day < 146097) : yearOfEra day < 400 := by
  unfold yearOfEra
  omega

/-- Years and days fall into the same century, but for the last day of an era. -/
theorem century_yearOfEra (hday : day < 146097) :
    yearOfEra day / 100 + day / 146096 = day / 36524 := by
  generalize hyear : yearOfEra day = year
  unfold yearOfEra at hyear
  rcases century_cases hday with hc | hc | hc | hc | hc <;> rw [hc] at hyear <;> omega

theorem daysBeforeYear_le (hday : day < 146097) :
    daysBeforeYear (yearOfEra day) ≤ day ∧ day - daysBeforeYear (yearOfEra day) ≤ 365 := by
  have hcentury := century_yearOfEra hday
  generalize hyear : yearOfEra day = year at hcentury ⊢
  unfold yearOfEra at hyear
  unfold daysBeforeYear
  rcases century_cases hday with hc | hc | hc | hc | hc <;> rw [hc] at hyear hcentury <;>
    constructor <;> omega

/-- So many years of the era have passed on its day `day` that each four of them account
for four plain years and a day. -/
theorem quadrennia_le (hday : day < 146097) : day / 1460 ≤ (yearOfEra day + 1) / 4 := by
  have hlt := yearOfEra_lt hday
  generalize hyear : yearOfEra day = year at hlt ⊢
  unfold yearOfEra at hyear
  have hend : day + day / 36524 < 365 * (year + 1) + day / 1460 + day / 146096 := by omega
  omega

/-- The year found ends behind the day. -/
theorem lt_daysBeforeYear_add_one (hday : day < 146097) :
    day < daysBeforeYear (yearOfEra day + 1) + day / 146096 := by
  have hcentury := century_yearOfEra hday
  have hquad := quadrennia_le hday
  generalize hyear : yearOfEra day = year at hcentury hquad ⊢
  unfold yearOfEra at hyear
  unfold daysBeforeYear
  have hend : day + day / 36524 < 365 * (year + 1) + day / 1460 + day / 146096 := by omega
  -- Only at the end of a century is there a year without its leap day.
  by_cases hlast : (year + 1) % 100 = 0
  · omega
  · omega

end Era

/-! ## Days of a year -/

/-- The month, counted from March, on a day of the year. -/
def monthOfYear (day : Nat) : Nat :=
  (5 * day + 2) / 153

theorem monthOfYear_bounds {day : Nat} (hday : day ≤ 365) :
    monthOfYear day < 12 ∧ daysBeforeMonth (monthOfYear day) ≤ day ∧
      day - daysBeforeMonth (monthOfYear day) < 31 := by
  unfold daysBeforeMonth monthOfYear
  omega

/-- The date of a day of a month of a year, with years from March. -/
def ofMarchYear (era : Int) (year month day : Nat) : Date :=
  if month < 10 then ⟨era * 400 + year, month + 3, day⟩
  else ⟨era * 400 + year + 1, month - 9, day⟩

/-- The number of a day is the days before its era, its year and its month, and those
of the month up to it. -/
theorem toDays_ofMarchYear {era : Int} {year month day : Nat} (hyear : year < 400)
    (hmonth : month < 12) :
    (ofMarchYear era year month day).toDays =
      era * daysPerEra + (daysBeforeYear year + (daysBeforeMonth month + day - 1 : Int)) -
        epochOffset := by
  have hera : (era * 400 + year) / 400 = era := by omega
  have hrest : (era * 400 + year) % 400 = year := by omega
  unfold ofMarchYear
  split
  · have hback : (month + 3 + 9) % 12 = month := by omega
    have hlate : ¬ month + 3 ≤ 2 := by omega
    simp only [toDays, if_neg hlate, hback, hera, hrest, daysBeforeYear, Int.ofNat_eq_natCast]
    omega
  · have hback : (month - 9 + 9) % 12 = month := by omega
    have hearly : month - 9 ≤ 2 := by omega
    simp only [toDays, if_pos hearly, hback, Int.add_sub_cancel, hera, hrest, daysBeforeYear,
      Int.ofNat_eq_natCast]
    omega

theorem ofDays_eq (days : Int) :
    ofDays days =
      let dayOfEra := ((days + epochOffset) % daysPerEra).toNat
      let year := yearOfEra dayOfEra
      let dayOfYear := dayOfEra - daysBeforeYear year
      let month := monthOfYear dayOfYear
      ofMarchYear ((days + epochOffset) / daysPerEra) year month
        (dayOfYear - daysBeforeMonth month + 1) :=
  rfl

/-- What the date of a day is made of lies within an era, a year and a month. -/
theorem exists_ofMarchYear (days : Int) :
    ∃ (era : Int) (year month day : Nat), ofDays days = ofMarchYear era year month (day + 1) ∧
      year < 400 ∧ month < 12 ∧ day < 31 ∧
      days = era * daysPerEra + (daysBeforeYear year + (daysBeforeMonth month + day)) -
        epochOffset := by
  refine ⟨_, _, _, _, ofDays_eq days, ?_⟩
  have hdayOfEra : ((days + epochOffset) % daysPerEra).toNat < 146097 := by
    unfold daysPerEra
    omega
  have hsplit : days = (days + epochOffset) / daysPerEra * daysPerEra +
      ((days + epochOffset) % daysPerEra).toNat - epochOffset := by
    unfold daysPerEra
    omega
  generalize ((days + epochOffset) % daysPerEra).toNat = dayOfEra at hdayOfEra hsplit ⊢
  generalize (days + epochOffset) / daysPerEra = era at hsplit ⊢
  have hyear := yearOfEra_lt hdayOfEra
  obtain ⟨hfirst, hday⟩ := daysBeforeYear_le hdayOfEra
  obtain ⟨hmonth, hstart, hlast⟩ := monthOfYear_bounds hday
  refine ⟨hyear, hmonth, hlast, ?_⟩
  omega

theorem toDays_ofDays (days : Int) : (ofDays days).toDays = days := by
  obtain ⟨era, year, month, day, hdate, hyear, hmonth, -, hdays⟩ := exists_ofMarchYear days
  rw [hdate, toDays_ofMarchYear hyear hmonth, hdays]
  omega

/-- Different days have different dates. -/
theorem ofDays_injective {m n : Int} (h : ofDays m = ofDays n) : m = n := by
  rw [← toDays_ofDays m, h, toDays_ofDays]

end FixtureMatrix.Date
