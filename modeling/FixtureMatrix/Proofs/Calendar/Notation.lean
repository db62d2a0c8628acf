import FixtureMatrix.Proofs.Calendar.Stamps
import FixtureMatrix.Proofs.Value.Decimals

/-!
# Instants in date and time notation

A date and a time of day in digits denote an instant: the days that the calendar counts
up to the date, the seconds of the day, and the fraction of a second.

* `InstantNotation.text_injective`: a text is the notation of one instant at most.
* `exists_instantNotation`: the text of an instant is in this notation, and the instant
  denoted is exact.
* `timestampText_exact`: so a number of units is shown as the instant that many units
  after 1970-01-01T00:00:00.
-/

namespace FixtureMatrix

open Digits

variable {r s : List Char}

/-! ## Digits -/

namespace Digits

variable {width : Nat} {a b : List Char}

/-- A run of `width` digits. -/
structure Group (width : Nat) (ds : List Char) : Prop where
  length : ds.length = width
  digits : ∀ c ∈ ds, c.isDigit = true

theorem Group.append_inj (ha : Group width a) (hb : Group width b) (h : a ++ r = b ++ s) :
    a = b ∧ r = s :=
  List.append_inj h (ha.length.trans hb.length.symm)

/-- The integer that digits denote behind their sign. -/
def signed (sign ds : List Char) : Int :=
  if '-' ∈ sign then -(value ds : Int) else value ds

end Digits

/-! ## Dates -/

/-- A date of the calendar in digits, four or more of them for the year. -/
@[ext]
structure DateNotation where
  sign : List Char
  year : List Char
  month : List Char
  day : List Char
  sign_mem : sign ∈ [[], ['+'], ['-']]
  year_length : 4 ≤ year.length
  year_digits : ∀ c ∈ year, c.isDigit = true
  month_group : Group 2 month
  day_group : Group 2 day
  valid : Date.Valid ⟨signed sign year, value month, value day⟩

namespace DateNotation

variable {d e : DateNotation}

/-- The date denoted. -/
def date (d : DateNotation) : Date :=
  ⟨signed d.sign d.year, value d.month, value d.day⟩

def text (d : DateNotation) : List Char :=
  d.sign ++ (d.year ++ '-' :: (d.month ++ '-' :: d.day))

theorem sign_subset (d : DateNotation) : d.sign ⊆ ['+', '-'] := by
  have hsign := d.sign_mem
  simp only [List.mem_cons, List.not_mem_nil, or_false] at hsign
  rcases hsign with h | h | h <;> rw [h] <;> decide

theorem year_ne_nil (d : DateNotation) : d.year ≠ [] := by
  have hlength := d.year_length
  intro h
  rw [h] at hlength
  exact absurd hlength (by decide)

/-- A date can be read off the front of a text. -/
theorem text_append_inj (h : d.text ++ r = e.text ++ s) : d = e ∧ r = s := by
  simp only [text, List.append_assoc, List.cons_append] at h
  obtain ⟨hsign, hyear, h⟩ := sign_append_inj d.sign_subset e.sign_subset d.year_ne_nil
    e.year_ne_nil d.year_digits e.year_digits (ends_cons.2 rfl) (ends_cons.2 rfl) h
  obtain ⟨hmonth, h⟩ := d.month_group.append_inj e.month_group (List.cons.inj h).2
  obtain ⟨hday, hrest⟩ := d.day_group.append_inj e.day_group (List.cons.inj h).2
  exact ⟨DateNotation.ext hsign hyear hmonth hday, hrest⟩

end DateNotation

/-! ## Times of day -/

/-- A time of day in digits, with or without a fraction of a second. -/
@[ext]
structure ClockNotation where
  hour : List Char
  minute : List Char
  second : List Char
  fraction : List Char
  hour_group : Group 2 hour
  minute_group : Group 2 minute
  second_group : Group 2 second
  fraction_digits : ∀ c ∈ fraction, c.isDigit = true
  hour_lt : value hour < 24
  minute_lt : value minute < 60
  second_lt : value second < 60

namespace ClockNotation

variable {c e : ClockNotation}

/-- A point and the fraction, if there is one. -/
def tail (c : ClockNotation) : List Char :=
  if c.fraction = [] then [] else '.' :: c.fraction

def text (c : ClockNotation) : List Char :=
  c.hour ++ ':' :: (c.minute ++ ':' :: (c.second ++ c.tail))

/-- The seconds denoted since midnight. -/
def seconds (c : ClockNotation) : ℚ :=
  3600 * value c.hour + 60 * value c.minute + value c.second +
    value c.fraction / 10 ^ c.fraction.length

theorem text_injective (h : c.text = e.text) : c = e := by
  obtain ⟨hhour, h⟩ := c.hour_group.append_inj e.hour_group h
  obtain ⟨hminute, h⟩ := c.minute_group.append_inj e.minute_group (List.cons.inj h).2
  obtain ⟨hsecond, h⟩ := c.second_group.append_inj e.second_group (List.cons.inj h).2
  exact ClockNotation.ext hhour hminute hsecond (eq_of_pointed_eq h)

end ClockNotation

/-! ## Instants -/

/-- A date, a `T` and a time of day. -/
structure InstantNotation where
  day : DateNotation
  clock : ClockNotation

namespace InstantNotation

variable {t u : InstantNotation}

def text (t : InstantNotation) : List Char :=
  t.day.text ++ 'T' :: t.clock.text

/-- The seconds denoted since 1970-01-01T00:00:00, in days of 86400 seconds. -/
def seconds (t : InstantNotation) : ℚ :=
  86400 * t.day.date.dayNumber + t.clock.seconds

/-- A text is the notation of one instant at most. -/
theorem text_injective (h : t.text = u.text) : t = u := by
  obtain ⟨day, clock⟩ := t
  obtain ⟨day', clock'⟩ := u
  obtain ⟨rfl, hrest⟩ := DateNotation.text_append_inj h
  obtain rfl := ClockNotation.text_injective (List.cons.inj hrest).2
  rfl

end InstantNotation

/-! ## The notation of an instant -/

theorem value_twoDigits (n : Nat) : value (Instant.twoDigits n) = n := by
  unfold Instant.twoDigits
  rw [value_zeroPad, value_ofNat]

theorem group_twoDigits {n : Nat} (hn : n < 100) : Group 2 (Instant.twoDigits n) :=
  ⟨length_zeroPad_of_lt (by decide) hn, fun _ hc => isDigit_of_mem_zeroPad hc⟩

/-- The sign of a year: a plus where it has more than four digits. -/
def yearSign (year : Int) : List Char :=
  if 9999 < year then ['+'] else if year < 0 then ['-'] else []

def yearDigits (year : Int) : List Char :=
  zeroPad 4 (ofNat year.natAbs)

theorem yearText_eq (year : Int) : Instant.yearText year = yearSign year ++ yearDigits year := by
  unfold Instant.yearText yearSign yearDigits ofInt ofIntPadded
  split_ifs with hlong hneg hneg
  · omega
  · have hfour : 4 ≤ (ofNat year.natAbs).length := by
      by_contra hshort
      have hsmall : year.natAbs < 10 ^ 4 :=
        (Nat.length_toDigits_le_iff (by decide) (by decide)).1 (by unfold ofNat at hshort; omega)
      omega
    rw [zeroPad_of_le hfour]
    rfl
  · rfl
  · rfl

theorem signed_yearSign (year : Int) : signed (yearSign year) (yearDigits year) = year := by
  have hdigits : value (yearDigits year) = year.natAbs := by
    unfold yearDigits
    rw [value_zeroPad, value_ofNat]
  unfold signed
  rw [hdigits]
  unfold yearSign
  by_cases hlong : 9999 < year
  · rw [if_pos hlong, if_neg (by decide)]
    omega
  · rw [if_neg hlong]
    by_cases hneg : year < 0
    · rw [if_pos hneg, if_pos (by decide)]
      omega
    · rw [if_neg hneg, if_neg (by decide)]
      omega

/-- The text of a date of the calendar. -/
theorem exists_dateNotation {d : Date} (hd : d.Valid) :
    ∃ n : DateNotation, n.date = d ∧
      n.text = Instant.yearText d.year ++
        '-' :: (Instant.twoDigits d.month ++ '-' :: Instant.twoDigits d.day) := by
  have hdate : (⟨signed (yearSign d.year) (yearDigits d.year), value (Instant.twoDigits d.month),
      value (Instant.twoDigits d.day)⟩ : Date) = d := by
    rw [signed_yearSign, value_twoDigits, value_twoDigits]
  refine ⟨{
    sign := yearSign d.year
    year := yearDigits d.year
    month := Instant.twoDigits d.month
    day := Instant.twoDigits d.day
    sign_mem := ?_
    year_length := ?_
    year_digits := ?_
    month_group := group_twoDigits hd.month_lt
    day_group := group_twoDigits hd.day_lt
    valid := ?_ }, hdate, ?_⟩
  · unfold yearSign
    split_ifs <;> simp
  · unfold yearDigits
    rw [length_zeroPad]
    exact Nat.le_max_left _ _
  · intro c hc
    exact isDigit_of_mem_zeroPad hc
  · rw [hdate]
    exact hd
  · rw [yearText_eq, List.append_assoc]
    rfl

/-- The fraction of a second in digits. -/
theorem exists_fraction {nanos : Nat} (hnanos : nanos < 1000000000) :
    ∃ ds, Instant.fractionText nanos = (if ds = [] then [] else '.' :: ds) ∧
      ds.length ∈ [0, 3, 6, 9] ∧ (∀ c ∈ ds, c.isDigit = true) ∧
      (value ds : ℚ) / 10 ^ ds.length = nanos / 10 ^ 9 := by
  rcases Instant.fractionText_forms hnanos with ⟨rfl, htext⟩ | ⟨ds, htext, hlength, hds, hvalue⟩
  · refine ⟨[], htext, by simp, by simp, ?_⟩
    simp [value]
  · have hne : ds ≠ [] := by
      rintro rfl
      exact absurd hlength (by decide)
    refine ⟨ds, by rw [htext, if_neg hne], List.mem_cons_of_mem _ hlength, hds, ?_⟩
    have hle : ds.length ≤ 9 := by
      simp only [List.mem_cons, List.not_mem_nil, or_false] at hlength
      omega
    have hpower : (10 : ℚ) ^ (9 - ds.length) * 10 ^ ds.length = 10 ^ 9 := by
      rw [← pow_add, Nat.sub_add_cancel hle]
    have hten : (10 : ℚ) ^ ds.length ≠ 0 := pow_ne_zero _ (by norm_num)
    rw [hvalue, Nat.pow_eq, Nat.cast_mul, Nat.cast_pow, ← hpower]
    push_cast
    field_simp

/-- The text of a time of day. -/
theorem exists_clockNotation {second nanos : Nat} (hsecond : second < 86400)
    (hnanos : nanos < 1000000000) :
    ∃ c : ClockNotation, c.seconds = second + nanos / 10 ^ 9 ∧
      c.fraction.length ∈ [0, 3, 6, 9] ∧
      c.text = Instant.twoDigits (second / 3600) ++ ':' :: (Instant.twoDigits (second / 60 % 60) ++
        ':' :: (Instant.twoDigits (second % 60) ++ Instant.fractionText nanos)) := by
  obtain ⟨ds, htext, hlength, hds, hvalue⟩ := exists_fraction hnanos
  refine ⟨{
    hour := Instant.twoDigits (second / 3600)
    minute := Instant.twoDigits (second / 60 % 60)
    second := Instant.twoDigits (second % 60)
    fraction := ds
    hour_group := group_twoDigits (by omega)
    minute_group := group_twoDigits (by omega)
    second_group := group_twoDigits (by omega)
    fraction_digits := hds
    hour_lt := by rw [value_twoDigits]; omega
    minute_lt := by rw [value_twoDigits]; omega
    second_lt := by rw [value_twoDigits]; omega }, ?_, hlength, ?_⟩
  · have hparts : 3600 * (second / 3600) + 60 * (second / 60 % 60) + second % 60 = second := by
      omega
    have hcast : (3600 * (second / 3600 : Nat) + 60 * (second / 60 % 60 : Nat) +
        (second % 60 : Nat) : ℚ) = second := by
      exact_mod_cast hparts
    unfold ClockNotation.seconds
    simp only [value_twoDigits]
    rw [hvalue, hcast]
  · rw [htext]
    rfl

/-- The text of an instant denotes it. -/
theorem exists_instantNotation (t : Instant) (hnanos : t.nanos < 1000000000) :
    ∃ n : InstantNotation, n.text = t.text ∧ n.seconds = t.seconds + t.nanos / 10 ^ 9 ∧
      n.clock.fraction.length ∈ [0, 3, 6, 9] := by
  obtain ⟨day, hdate, hday⟩ := exists_dateNotation (Date.valid_ofDays (t.seconds / 86400))
  obtain ⟨clock, hseconds, hlength, hclock⟩ := exists_clockNotation t.secondOfDay_lt hnanos
  refine ⟨⟨day, clock⟩, ?_, ?_, hlength⟩
  · unfold InstantNotation.text Instant.text Instant.date
    rw [hday, hclock]
    simp only [List.append_assoc, List.cons_append]
  · have hsplit : 86400 * (t.seconds / 86400) + (t.secondOfDay : Int) = t.seconds := by
      unfold Instant.secondOfDay
      omega
    have hcast : (86400 * (t.seconds / 86400 : Int) + t.secondOfDay : ℚ) = t.seconds := by
      exact_mod_cast hsplit
    unfold InstantNotation.seconds
    rw [hdate, hseconds, Date.dayNumber_ofDays, ← add_assoc, hcast]

/-! ## Time stamps -/

/-- No part of a second is lost: rounding goes down, and the rest is in nanoseconds. -/
theorem seconds_ofUnits (unit : TimeUnit) (n : Int) :
    ((Instant.ofUnits unit n).seconds + (Instant.ofUnits unit n).nanos / 10 ^ 9 : ℚ) *
      unit.perSecond = n := by
  have hper : unit.perSecond * (1000000000 / unit.perSecond) = 1000000000 := by
    cases unit <;> rfl
  have hpos : 0 < unit.perSecond := by cases unit <;> decide
  have hsplit : (n / unit.perSecond) * unit.perSecond + (n % unit.perSecond).toNat = n := by
    have hrest := Int.emod_nonneg n (Int.natCast_ne_zero.2 hpos.ne')
    rw [Int.toNat_of_nonneg hrest]
    exact Int.ediv_mul_add_emod n unit.perSecond
  unfold Instant.ofUnits
  generalize unit.perSecond = per at hper hpos hsplit ⊢
  dsimp only [Int.ofNat_eq_natCast]
  have hscale : ((1000000000 / per : Nat) : ℚ) * per = 10 ^ 9 := by
    rw [mul_comm]
    exact_mod_cast hper
  have hcast : ((n / per : Int) * per + (n % per).toNat : ℚ) = n := by
    exact_mod_cast hsplit
  rw [add_mul, div_mul_eq_mul_div, Nat.cast_mul, mul_assoc, hscale, mul_div_assoc,
    div_self (by norm_num), mul_one, hcast]

/-- The instant `n` units after 1970-01-01T00:00:00 lies in the years from -262143 to
262142. -/
def TimeUnit.Covers (unit : TimeUnit) (n : Int) : Prop :=
  (⟨-262143, 1, 1⟩ : Date).dayNumber * 86400 * unit.perSecond ≤ n ∧
    n < (⟨262143, 1, 1⟩ : Date).dayNumber * 86400 * unit.perSecond

theorem TimeUnit.covers_iff {unit : TimeUnit} {n : Int} :
    unit.Covers n ↔ (Instant.ofUnits unit n).inRange = true := by
  have hfirst : (⟨-262143, 1, 1⟩ : Date).dayNumber * 86400 = Instant.firstSecond := by
    rw [← Date.toDays_eq_dayNumber (Date.valid_newYear _)]
    rfl
  have hlast : (⟨262143, 1, 1⟩ : Date).dayNumber * 86400 = Instant.lastSecond + 1 := by
    rw [← Date.toDays_eq_dayNumber (Date.valid_newYear _)]
    rfl
  have hpos : (0 : Int) < unit.perSecond := by cases unit <;> decide
  unfold Covers Instant.inRange Instant.ofUnits
  rw [hfirst, hlast, Bool.and_eq_true, decide_eq_true_eq, decide_eq_true_eq,
    Int.ofNat_eq_natCast, Int.le_ediv_iff_mul_le hpos, ← Int.ediv_lt_iff_lt_mul hpos,
    Int.lt_add_one_iff]

theorem TimeUnit.covers_nanoseconds (n : Int64) : nanosecond.Covers n.toInt := by
  have hlow := n.le_toInt
  have hhigh := n.toInt_lt
  rw [covers_iff]
  unfold Instant.inRange Instant.ofUnits perSecond Instant.firstSecond Instant.lastSecond
  simp only [Int.ofNat_eq_natCast, Bool.and_eq_true, decide_eq_true_eq]
  omega

/-- A time stamp within the supported years is shown in date and time notation, as the
exact instant that many units after 1970-01-01T00:00:00 and as nothing else, with three,
six or nine digits of a fraction or none. Beyond them its number is shown with the
unit. A count of nanoseconds never gets there. -/
theorem timestampText_exact (unit : TimeUnit) (n : Int64) :
    (unit.Covers n.toInt → ∃ t : InstantNotation, timestampText unit n.toInt = t.text ∧
      t.seconds * unit.perSecond = n.toInt ∧ t.clock.fraction.length ∈ [0, 3, 6, 9] ∧
      ∀ u : InstantNotation, u.text = t.text → u = t) ∧
    (¬ unit.Covers n.toInt → timestampText unit n.toInt =
      ofInt n.toInt ++ unit.suffix.toList ++ " (out of range)".toList) ∧
    (unit = .nanosecond → unit.Covers n.toInt) ∧
    (Value.int n).render (.timestamp unit none) = timestampText unit n.toInt ∧
    ∀ timezone, (Value.int n).render (.timestamp unit (some timezone)) =
      timestampText unit n.toInt ++ ' ' :: timezone.toList := by
  refine ⟨?_, ?_, ?_, ?_, ?_⟩
  · intro hcovers
    have hrange := TimeUnit.covers_iff.1 hcovers
    obtain ⟨t, htext, hseconds, hlength⟩ :=
      exists_instantNotation _ (Instant.nanos_ofUnits_lt unit n.toInt)
    refine ⟨t, ?_, ?_, hlength, fun u hu => InstantNotation.text_injective hu⟩
    · unfold timestampText
      rw [if_pos hrange, htext]
    · rw [hseconds, seconds_ofUnits]
  · intro hbeyond
    unfold timestampText
    rw [if_neg (mt TimeUnit.covers_iff.2 hbeyond)]
  · rintro rfl
    exact TimeUnit.covers_nanoseconds n
  · rfl
  · intro timezone
    rfl

/-- The last second of the year 262142 is shown, and the next one is not. -/
theorem timestampText_exact_lastSecond :
    (TimeUnit.second.Covers 8210266876799 ∧ ∃ t : InstantNotation,
      "+262142-12-31T23:59:59".toList = t.text ∧ t.seconds * 1 = 8210266876799 ∧
      ∀ u : InstantNotation, u.text = t.text → u = t) ∧
    ¬ TimeUnit.second.Covers 8210266876800 ∧
      timestampText .second 8210266876800 = "8210266876800s (out of range)".toList := by
  have hlast : TimeUnit.second.Covers (8210266876799 : Int64).toInt :=
    TimeUnit.covers_iff.2 (by decide)
  have hbeyond : ¬ TimeUnit.second.Covers (8210266876800 : Int64).toInt :=
    mt TimeUnit.covers_iff.1 (by decide)
  obtain ⟨t, htext, hseconds, -, hunique⟩ := (timestampText_exact .second 8210266876799).1 hlast
  have hshown := (timestampText_exact .second 8210266876800).2.1 hbeyond
  refine ⟨⟨hlast, t, ?_, ?_, hunique⟩, hbeyond, ?_⟩
  · rw [← htext]
    decide
  · exact_mod_cast hseconds
  · refine Eq.trans hshown ?_
    decide

/-- Before 1970 seconds are counted down and fractions up. -/
example : timestampText .nanosecond (-9223372036854775808) =
    "1677-09-21T00:12:43.145224192".toList := by
  decide

end FixtureMatrix
