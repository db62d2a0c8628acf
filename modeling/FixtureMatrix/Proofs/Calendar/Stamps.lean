import FixtureMatrix.Calendar.Instant
import FixtureMatrix.Proofs.Calendar.Counting
import FixtureMatrix.Proofs.Text.Delimited

/-!
# Texts of time stamps

A time stamp can be read off the front of a text, whatever is behind it that does not
go on with its fraction.

* `Instant.text_append_inj`: date, time of day and fraction tell the instant.
* `timestampText_append_inj`: the text of a time stamp tells its number, also beyond
  the supported years.
-/

namespace FixtureMatrix

open Digits

namespace Instant

variable {r s : List Char}

/-! ## Parts of an instant -/

theorem numeral_yearText (year : Int) : Numeral year (yearText year) := by
  rw [yearText]
  split
  · have h := Numeral.mk ['+'] (ofNat year.natAbs) (by simp) (ofNat_ne_nil _)
      (fun d hd => isDigit_of_mem_ofNat hd)
    rw [if_neg (by decide), value_ofNat, show (year.natAbs : Int) = year by omega] at h
    rwa [ofInt, if_neg (by omega)]
  · exact numeral_ofIntPadded 4 year

theorem twoDigits_append_inj {m n : Nat} (hm : m < 100) (hn : n < 100)
    (h : twoDigits m ++ r = twoDigits n ++ s) : m = n ∧ r = s :=
  zeroPad_append_inj (by decide : 0 < 2) hm hn h

/-- The fraction is missing, or its digits, three, six or nine, tell the nanoseconds by
their number and their value. -/
theorem fractionText_forms {nanos : Nat} (hnanos : nanos < 1000000000) :
    (nanos = 0 ∧ fractionText nanos = []) ∨
      ∃ ds, fractionText nanos = '.' :: ds ∧ ds.length ∈ [3, 6, 9] ∧
        (∀ d ∈ ds, d.isDigit = true) ∧ nanos = value ds * Nat.pow 10 (9 - ds.length) := by
  have hgroup : ∀ width k, width ∈ [3, 6, 9] → k < Nat.pow 10 width →
      nanos = k * Nat.pow 10 (9 - width) → (zeroPad width (ofNat k)).length ∈ [3, 6, 9] ∧
        (∀ d ∈ zeroPad width (ofNat k), d.isDigit = true) ∧
        nanos = value (zeroPad width (ofNat k)) *
          Nat.pow 10 (9 - (zeroPad width (ofNat k)).length) := by
    intro width k hwidth hk hvalue
    have hpos : ∀ w ∈ [3, 6, 9], 0 < w := by decide
    rw [length_zeroPad_of_lt (hpos width hwidth) hk, value_zeroPad, value_ofNat]
    exact ⟨hwidth, fun d hd => isDigit_of_mem_zeroPad hd, hvalue⟩
  simp only [Nat.pow_eq] at hgroup ⊢
  unfold fractionText
  split_ifs with hzero hmillis hmicros
  · exact Or.inl ⟨hzero, rfl⟩
  · exact Or.inr ⟨_, rfl, hgroup 3 (nanos / 1000000) (by decide) (by omega) (by omega)⟩
  · exact Or.inr ⟨_, rfl, hgroup 6 (nanos / 1000) (by decide) (by omega) (by omega)⟩
  · exact Or.inr ⟨_, rfl, hgroup 9 nanos (by decide) (by omega) (by omega)⟩

/-- A text that does not go on with a fraction. -/
def Ends (r : List Char) : Prop :=
  ∀ c ∈ r.head?, c.isDigit = false ∧ c ≠ '.'

theorem fractionText_append_inj {m n : Nat} (hm : m < 1000000000) (hn : n < 1000000000)
    (hr : Ends r) (hs : Ends s) (h : fractionText m ++ r = fractionText n ++ s) :
    m = n ∧ r = s := by
  rcases fractionText_forms hm with ⟨hm0, hmt⟩ | ⟨ds, hmt, -, hds, hmv⟩ <;>
    rcases fractionText_forms hn with ⟨hn0, hnt⟩ | ⟨ds', hnt, -, hds', hnv⟩ <;>
    rw [hmt, hnt] at h
  · exact ⟨hm0.trans hn0.symm, h⟩
  · rw [List.nil_append] at h
    exact absurd rfl (hr '.' (by rw [h]; rfl)).2
  · rw [List.nil_append] at h
    exact absurd rfl (hs '.' (by rw [← h]; rfl)).2
  · obtain ⟨rfl, hrest⟩ := append_inj_of_takeWhile hds hds' (fun c hc => (hr c hc).1)
      (fun c hc => (hs c hc).1) (List.cons.inj h).2
    exact ⟨hmv.trans hnv.symm, hrest⟩

/-! ## The instant -/

theorem secondOfDay_lt (t : Instant) : t.secondOfDay < 86400 := by
  unfold secondOfDay
  omega

theorem eq_of_parts {t u : Instant} (hdate : t.date = u.date)
    (hsecond : t.secondOfDay = u.secondOfDay) (hnanos : t.nanos = u.nanos) : t = u := by
  have hdays := Date.ofDays_injective hdate
  unfold secondOfDay at hsecond
  have hseconds : t.seconds = u.seconds := by omega
  obtain ⟨seconds, nanos⟩ := t
  cases hseconds
  cases hnanos
  rfl

/-- The text of an instant tells the instant. -/
theorem text_append_inj {t u : Instant} (ht : t.nanos < 1000000000) (hu : u.nanos < 1000000000)
    (hr : Ends r) (hs : Ends s) (h : t.text ++ r = u.text ++ s) : t = u ∧ r = s := by
  have htday := t.secondOfDay_lt
  have huday := u.secondOfDay_lt
  have htdate : t.date.Valid := Date.valid_ofDays _
  have hudate : u.date.Valid := Date.valid_ofDays _
  simp only [text, List.append_assoc, List.cons_append] at h
  obtain ⟨hyear, h⟩ := (numeral_yearText _).append_inj (numeral_yearText _)
    (ends_cons.2 rfl) (ends_cons.2 rfl) h
  obtain ⟨hmonth, h⟩ := twoDigits_append_inj htdate.month_lt hudate.month_lt (List.cons.inj h).2
  obtain ⟨hday, h⟩ := twoDigits_append_inj htdate.day_lt hudate.day_lt (List.cons.inj h).2
  obtain ⟨hhour, h⟩ := twoDigits_append_inj (by omega) (by omega) (List.cons.inj h).2
  obtain ⟨hminute, h⟩ := twoDigits_append_inj (by omega) (by omega) (List.cons.inj h).2
  obtain ⟨hsecond, h⟩ := twoDigits_append_inj (by omega) (by omega) (List.cons.inj h).2
  obtain ⟨hnanos, hrest⟩ := fractionText_append_inj ht hu hr hs h
  have hdate : t.date = u.date := Date.eq_of_parts hyear hmonth hday
  exact ⟨eq_of_parts hdate (by omega) hnanos, hrest⟩

/-! ## Units -/

theorem nanos_ofUnits_lt (unit : TimeUnit) (n : Int) : (ofUnits unit n).nanos < 1000000000 := by
  cases unit <;> simp only [ofUnits, TimeUnit.perSecond, Int.ofNat_eq_natCast] <;> omega

theorem ofUnits_injective {unit : TimeUnit} {m n : Int} (h : ofUnits unit m = ofUnits unit n) :
    m = n := by
  have hseconds := congrArg seconds h
  have hnanos := congrArg nanos h
  cases unit <;>
    simp only [ofUnits, TimeUnit.perSecond, Int.ofNat_eq_natCast] at hseconds hnanos <;> omega

end Instant

variable {unit : TimeUnit} {m n : Int} {r s : List Char}

theorem TimeUnit.ends_suffix (unit : TimeUnit) (r : List Char) :
    Digits.Ends (unit.suffix.toList ++ r) := by
  cases unit <;> exact ends_cons.2 rfl

/-- In the supported years a dash is behind the first number, and beyond them a unit. -/
theorem Instant.text_append_ne {t : Instant} :
    t.text ++ r ≠ ofInt n ++ (unit.suffix.toList ++ s) := by
  intro h
  simp only [Instant.text, List.append_assoc, List.cons_append] at h
  obtain ⟨-, hrest⟩ := (numeral_yearText _).append_inj (numeral_ofInt n) (ends_cons.2 rfl)
    (unit.ends_suffix s) h
  cases unit <;> exact absurd (List.cons.inj hrest).1 (by decide)

/-- A time stamp starts with a number, its year or itself. -/
theorem timestampText_eq_numeral_append (unit : TimeUnit) (n : Int) :
    ∃ k a b, Numeral k a ∧ timestampText unit n = a ++ b := by
  simp only [timestampText, Instant.text, List.append_assoc]
  split_ifs
  · exact ⟨_, _, _, Instant.numeral_yearText _, rfl⟩
  · exact ⟨_, _, _, numeral_ofInt n, rfl⟩

/-- The text of a time stamp tells the number of units. -/
theorem timestampText_append_inj (hr : Instant.Ends r) (hs : Instant.Ends s)
    (h : timestampText unit m ++ r = timestampText unit n ++ s) : m = n ∧ r = s := by
  simp only [timestampText] at h
  split_ifs at h with hm hn hn
  · obtain ⟨hsame, hrest⟩ := Instant.text_append_inj (Instant.nanos_ofUnits_lt unit m)
      (Instant.nanos_ofUnits_lt unit n) hr hs h
    exact ⟨Instant.ofUnits_injective hsame, hrest⟩
  · simp only [List.append_assoc] at h
    exact absurd h Instant.text_append_ne
  · simp only [List.append_assoc] at h
    exact absurd h.symm Instant.text_append_ne
  · simp only [List.append_assoc] at h
    obtain ⟨hnumber, hrest⟩ := (numeral_ofInt m).append_inj (numeral_ofInt n)
      (unit.ends_suffix _) (unit.ends_suffix _) h
    exact ⟨hnumber, List.append_cancel_left (List.append_cancel_left hrest)⟩

end FixtureMatrix
