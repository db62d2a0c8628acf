/-!
# Dates of the proleptic Gregorian calendar

A day is counted from 1970-01-01.  Years are taken to start in March, so that
the leap day is the last one of its year and every 400 years have the same
146097 days.
-/

namespace FixtureMatrix

/-- A date of the proleptic Gregorian calendar, with months and days from 1. -/
structure Date where
  year : Int
  month : Nat
  day : Nat
deriving DecidableEq

namespace Date

/-- Days in 400 years. -/
def daysPerEra : Int := 146097

/-- Days from 0000-03-01 to 1970-01-01. -/
def epochOffset : Int := 719468

/-- Days before a month of the year that starts in March (March is 0). -/
def daysBeforeMonth (month : Nat) : Nat :=
  (153 * month + 2) / 5

/-- The day's number, counted from 1970-01-01. -/
def toDays (d : Date) : Int :=
  let y : Int := if d.month ≤ 2 then d.year - 1 else d.year
  let era := y / 400
  let yearOfEra := y % 400
  let month := (d.month + 9) % 12
  let dayOfYear : Int := Int.ofNat (daysBeforeMonth month) + Int.ofNat d.day - 1
  era * daysPerEra + (yearOfEra * 365 + yearOfEra / 4 - yearOfEra / 100 + dayOfYear) - epochOffset

/-- The date of a day counted from 1970-01-01. -/
def ofDays (days : Int) : Date :=
  let z := days + epochOffset
  let era := z / daysPerEra
  let dayOfEra := (z % daysPerEra).toNat
  let yearOfEra := (dayOfEra - dayOfEra / 1460 + dayOfEra / 36524 - dayOfEra / 146096) / 365
  let dayOfYear := dayOfEra - (365 * yearOfEra + yearOfEra / 4 - yearOfEra / 100)
  let month := (5 * dayOfYear + 2) / 153
  let day := dayOfYear - daysBeforeMonth month + 1
  let year : Int := era * 400 + Int.ofNat yearOfEra
  if month < 10 then ⟨year, month + 3, day⟩ else ⟨year + 1, month - 9, day⟩

end Date

end FixtureMatrix
