import FixtureMatrix.Calendar.Date
import FixtureMatrix.Text.Digits

/-!
# Instants and their text

A time stamp counts units from 1970-01-01T00:00:00 UTC.  Its text is the date
and the time of day, with as many groups of three fraction digits as the
instant needs.  Counts beyond the supported years keep their number.
-/

namespace FixtureMatrix

/-- The resolution of a time stamp. -/
inductive TimeUnit where
  | second
  | millisecond
  | microsecond
  | nanosecond
deriving DecidableEq

namespace TimeUnit

/-- Units in one second. -/
def perSecond : TimeUnit → Nat
  | second => 1
  | millisecond => 1000
  | microsecond => 1000000
  | nanosecond => 1000000000

/-- The unit's abbreviation. -/
def suffix : TimeUnit → String
  | second => "s"
  | millisecond => "ms"
  | microsecond => "us"
  | nanosecond => "ns"

/-- The unit's name. -/
def name : TimeUnit → String
  | second => "second"
  | millisecond => "millisecond"
  | microsecond => "microsecond"
  | nanosecond => "nanosecond"

end TimeUnit

/-- A point in time: whole seconds from 1970-01-01T00:00:00 UTC, rounded
down, and the nanoseconds after them. -/
structure Instant where
  seconds : Int
  nanos : Nat
deriving DecidableEq

namespace Instant

/-- The instant `n` units after 1970-01-01T00:00:00 UTC. -/
def ofUnits (unit : TimeUnit) (n : Int) : Instant :=
  let per := Int.ofNat unit.perSecond
  ⟨n / per, (n % per).toNat * (1000000000 / unit.perSecond)⟩

/-- The seconds of -262143-01-01T00:00:00. -/
def firstSecond : Int := -8334601228800

/-- The seconds of +262142-12-31T23:59:59. -/
def lastSecond : Int := 8210266876799

/-- Whether the instant lies in the supported years. -/
def inRange (t : Instant) : Bool :=
  firstSecond ≤ t.seconds && t.seconds ≤ lastSecond

/-- The date on which the instant falls. -/
def date (t : Instant) : Date :=
  Date.ofDays (t.seconds / 86400)

/-- The seconds since midnight. -/
def secondOfDay (t : Instant) : Nat :=
  (t.seconds % 86400).toNat

/-- Four digits for the years 0 to 9999; a sign and at least four digits for
all others. -/
def yearText (year : Int) : List Char :=
  if 9999 < year then '+' :: Digits.ofInt year else Digits.ofIntPadded 4 year

def twoDigits (n : Nat) : List Char :=
  Digits.zeroPad 2 (Digits.ofNat n)

/-- The fraction of a second in no, three, six or nine digits. -/
def fractionText (nanos : Nat) : List Char :=
  if nanos = 0 then []
  else if nanos % 1000000 = 0 then '.' :: Digits.zeroPad 3 (Digits.ofNat (nanos / 1000000))
  else if nanos % 1000 = 0 then '.' :: Digits.zeroPad 6 (Digits.ofNat (nanos / 1000))
  else '.' :: Digits.zeroPad 9 (Digits.ofNat nanos)

/-- Date, `T`, time of day and fraction. -/
def text (t : Instant) : List Char :=
  let d := t.date
  let s := t.secondOfDay
  yearText d.year ++ '-' :: twoDigits d.month ++ '-' :: twoDigits d.day ++
    'T' :: twoDigits (s / 3600) ++ ':' :: twoDigits (s / 60 % 60) ++ ':' :: twoDigits (s % 60) ++
    fractionText t.nanos

end Instant

/-- The text of `n` units after 1970-01-01T00:00:00 UTC. -/
def timestampText (unit : TimeUnit) (n : Int) : List Char :=
  let t := Instant.ofUnits unit n
  if t.inRange then t.text
  else Digits.ofInt n ++ unit.suffix.toList ++ " (out of range)".toList

end FixtureMatrix
