import FixtureMatrix.Proofs.Text.Delimited
import FixtureMatrix.Proofs.Text.Digits
import FixtureMatrix.Value.Render
import Mathlib.Algebra.Order.Field.Rat
import Mathlib.Tactic.FieldSimp
import Mathlib.Tactic.Ring

/-!
# Unscaled decimals in decimal notation

A number in decimal notation is told by its text, and the text of an unscaled decimal is
the notation of the exact quotient.

* `DecimalNotation.text_injective`: a text is the notation of one number at most.
* `DecimalNotation.text_ofScaled`, `DecimalNotation.value_ofScaled`: an unscaled decimal
  is shown in decimal notation, and the number shown is exact.
* `Value.render_decimal_exact`: so is a value of a decimal type.
* `decimalText_append_inj`: an unscaled decimal can be read off the front of a text.
-/

namespace FixtureMatrix

open Digits

variable {r s : List Char}

/-! ## Digits and places -/

namespace Digits

/-- A point and the digits behind it tell the digits, also when there are none. -/
theorem eq_of_pointed_eq {a b : List Char}
    (h : (if a = [] then [] else '.' :: a) = if b = [] then [] else '.' :: b) : a = b := by
  split_ifs at h with ha hb hb
  · rw [ha, hb]
  · exact (List.cons.inj h).2

theorem zeroPad_of_le {width : Nat} {cs : List Char} (h : width ≤ cs.length) :
    zeroPad width cs = cs := by
  rw [zeroPad, Nat.sub_eq_zero_of_le h, List.replicate_zero, List.nil_append]

/-- Padding adds no zero in front of the last `scale` digits but a single one. -/
theorem leading_take_zeroPad {scale k : Nat}
    (h : ((zeroPad (scale + 1) (ofNat k)).take
      ((zeroPad (scale + 1) (ofNat k)).length - scale)).head? = some '0') :
    (zeroPad (scale + 1) (ofNat k)).take ((zeroPad (scale + 1) (ofNat k)).length - scale) =
      ['0'] := by
  have hlength := length_zeroPad (scale + 1) (ofNat k)
  by_cases hshort : (ofNat k).length ≤ scale + 1
  · have hone : (zeroPad (scale + 1) (ofNat k)).length - scale = 1 := by omega
    rw [hone] at h ⊢
    obtain ⟨c, hc⟩ : ∃ c, (zeroPad (scale + 1) (ofNat k)).take 1 = [c] := by
      rw [← List.length_eq_one_iff, List.length_take]
      omega
    rw [hc] at h ⊢
    rw [Option.some.inj h]
  · rw [zeroPad_of_le (by omega), List.head?_take, if_neg (by omega)] at h
    rw [eq_zero_of_head?_ofNat h] at hshort
    exact absurd (Nat.le_add_left 1 scale) hshort

end Digits

/-! ## Decimal notation -/

/-- A number in decimal notation: digits without superfluous zeros in front, and where
there is a fraction, a point and its digits. -/
structure DecimalNotation where
  negative : Bool
  whole : List Char
  fraction : List Char
  whole_ne_nil : whole ≠ []
  whole_digits : ∀ c ∈ whole, c.isDigit = true
  fraction_digits : ∀ c ∈ fraction, c.isDigit = true
  leading : whole.head? = some '0' → whole = ['0']

namespace DecimalNotation

variable {d e : DecimalNotation}

/-- A minus sign, if the number has one. -/
def sign (d : DecimalNotation) : List Char :=
  if d.negative then ['-'] else []

/-- What stands behind the whole part. -/
def tail (d : DecimalNotation) : List Char :=
  if d.fraction = [] then [] else '.' :: d.fraction

def text (d : DecimalNotation) : List Char :=
  d.sign ++ (d.whole ++ d.tail)

/-- The number denoted: the digits of the fraction count tenths, hundredths and so on. -/
def value (d : DecimalNotation) : ℚ :=
  (if d.negative then -1 else 1) *
    (Digits.value d.whole + Digits.value d.fraction / 10 ^ d.fraction.length)

theorem eq_of_parts (hnegative : d.negative = e.negative) (hwhole : d.whole = e.whole)
    (hfraction : d.fraction = e.fraction) : d = e := by
  cases d
  cases e
  cases hnegative
  cases hwhole
  cases hfraction
  rfl

theorem sign_subset (d : DecimalNotation) : d.sign ⊆ ['+', '-'] := by
  unfold sign
  split_ifs <;> simp

theorem negative_eq_of_sign_eq (h : d.sign = e.sign) : d.negative = e.negative := by
  unfold sign at h
  cases hd : d.negative <;> cases he : e.negative <;> simp_all

theorem ends_tail (hr : Ends r) : Ends (d.tail ++ r) := by
  unfold tail
  split_ifs
  · exact hr
  · exact ends_cons.2 rfl

/-- Sign and whole part can be read off the front. -/
theorem parts_append_inj (hr : Ends r) (hs : Ends s) (h : d.text ++ r = e.text ++ s) :
    d.negative = e.negative ∧ d.whole = e.whole ∧ d.tail ++ r = e.tail ++ s := by
  simp only [text, List.append_assoc] at h
  obtain ⟨hsign, hwhole, hrest⟩ := sign_append_inj d.sign_subset e.sign_subset d.whole_ne_nil
    e.whole_ne_nil d.whole_digits e.whole_digits (ends_tail hr) (ends_tail hs) h
  exact ⟨negative_eq_of_sign_eq hsign, hwhole, hrest⟩

/-- A text is the notation of one number at most. -/
theorem text_injective (h : d.text = e.text) : d = e := by
  have hends : Ends [] := by simp [Ends]
  obtain ⟨hnegative, hwhole, htail⟩ := parts_append_inj hends hends (congrArg (· ++ []) h)
  rw [List.append_nil, List.append_nil] at htail
  exact eq_of_parts hnegative hwhole (eq_of_pointed_eq htail)

/-- With fractions of one length the whole notation can be read off the front. -/
theorem text_append_inj (hlength : d.fraction.length = e.fraction.length) (hr : Ends r)
    (hs : Ends s) (h : d.text ++ r = e.text ++ s) : d = e ∧ r = s := by
  obtain ⟨hnegative, hwhole, hrest⟩ := parts_append_inj hr hs h
  have htails : d.tail.length = e.tail.length := by
    unfold tail
    simp only [← List.length_eq_zero_iff, hlength]
    split_ifs
    · rfl
    · simp [hlength]
  obtain ⟨htail, hend⟩ := List.append_inj hrest htails
  exact ⟨eq_of_parts hnegative hwhole (eq_of_pointed_eq htail), hend⟩

/-! ## Unscaled decimals -/

/-- The notation of an unscaled decimal: its last `scale` digits are the fraction. -/
def ofScaled (n : Int) (scale : Nat) : DecimalNotation :=
  let digits := zeroPad (scale + 1) (ofNat n.natAbs)
  { negative := n < 0
    whole := digits.take (digits.length - scale)
    fraction := digits.drop (digits.length - scale)
    whole_ne_nil := by
      have hlength : digits.length = max (scale + 1) _ := length_zeroPad _ _
      exact List.ne_nil_of_length_pos (by rw [List.length_take]; omega)
    whole_digits := fun c hc => isDigit_of_mem_zeroPad (List.mem_of_mem_take hc)
    fraction_digits := fun c hc => isDigit_of_mem_zeroPad (List.mem_of_mem_drop hc)
    leading := leading_take_zeroPad }

theorem length_fraction_ofScaled (n : Int) (scale : Nat) :
    (ofScaled n scale).fraction.length = scale := by
  have hlength := length_zeroPad (scale + 1) (ofNat n.natAbs)
  simp only [ofScaled, List.length_drop]
  omega

/-- An unscaled decimal is shown in decimal notation. -/
theorem text_ofScaled (n : Int) (scale : Nat) : (ofScaled n scale).text = decimalText n scale := by
  by_cases hscale : scale = 0
  · subst hscale
    have hdigits : zeroPad 1 (ofNat n.natAbs) = ofNat n.natAbs :=
      zeroPad_of_le (List.length_pos_iff.2 (ofNat_ne_nil _))
    simp only [text, sign, tail, ofScaled, Nat.zero_add, hdigits, Nat.sub_zero, List.take_length,
      List.drop_length, if_true, List.append_nil, decide_eq_true_eq, decimalText, ofInt]
    split_ifs <;> rfl
  · have hfraction : (ofScaled n scale).fraction ≠ [] := by
      rw [← List.length_pos_iff, length_fraction_ofScaled]
      omega
    rw [text, tail, if_neg hfraction, decimalText, if_neg hscale, ← List.append_assoc]
    simp only [sign, ofScaled, decide_eq_true_eq]

/-- The number shown is exact. -/
theorem value_ofScaled (n : Int) (scale : Nat) : (ofScaled n scale).value = n / 10 ^ scale := by
  have hdigits := value_append (ofScaled n scale).whole (ofScaled n scale).fraction
  have hpadded : (ofScaled n scale).whole ++ (ofScaled n scale).fraction =
      zeroPad (scale + 1) (ofNat n.natAbs) := List.take_append_drop _ _
  rw [length_fraction_ofScaled, hpadded, value_zeroPad, value_ofNat] at hdigits
  have hpower : (10 : ℚ) ^ scale ≠ 0 := pow_ne_zero scale (by norm_num)
  have hmagnitude : (Digits.value (ofScaled n scale).whole : ℚ) +
      Digits.value (ofScaled n scale).fraction / 10 ^ scale = n.natAbs / 10 ^ scale := by
    rw [hdigits]
    push_cast
    field_simp
  rw [value, length_fraction_ofScaled, hmagnitude, Nat.cast_natAbs]
  simp only [ofScaled, decide_eq_true_eq]
  split_ifs with hneg
  · rw [abs_of_neg hneg, Int.cast_neg]
    ring
  · rw [abs_of_nonneg (not_lt.1 hneg), one_mul]

end DecimalNotation

theorem decimalText_append_inj {m n : Int} {scale : Nat} (hr : Digits.Ends r)
    (hs : Digits.Ends s) (h : decimalText m scale ++ r = decimalText n scale ++ s) :
    m = n ∧ r = s := by
  rw [← DecimalNotation.text_ofScaled, ← DecimalNotation.text_ofScaled] at h
  obtain ⟨hsame, hrest⟩ := DecimalNotation.text_append_inj
    (by simp only [DecimalNotation.length_fraction_ofScaled]) hr hs h
  have hvalue := congrArg DecimalNotation.value hsame
  have hpower : (10 : ℚ) ^ scale ≠ 0 := pow_ne_zero scale (by norm_num)
  rw [DecimalNotation.value_ofScaled, DecimalNotation.value_ofScaled, div_left_inj' hpower]
    at hvalue
  exact ⟨Int.cast_injective hvalue, hrest⟩

theorem decimalText_eq_numeral_append (n : Int) (scale : Nat) :
    ∃ k a b, Numeral k a ∧ decimalText n scale = a ++ b := by
  let d := DecimalNotation.ofScaled n scale
  refine ⟨_, d.sign ++ d.whole, d.tail, .mk d.sign d.whole d.sign_subset d.whole_ne_nil
    d.whole_digits, ?_⟩
  rw [List.append_assoc]
  exact (DecimalNotation.text_ofScaled n scale).symm

namespace Value

/-- A value of a decimal type is shown in decimal notation, with as many digits behind the
point as its scale has, and the text denotes the exact quotient and nothing else. -/
theorem render_decimal_exact (n : Int64) (precision scale : Nat) :
    ∃ d : DecimalNotation, decimalText n.toInt scale = d.text ∧
      (int n).render (.decimal precision scale) = d.text ∧ (d.negative = true ↔ n.toInt < 0) ∧
      d.fraction.length = scale ∧ d.value = n.toInt / 10 ^ scale ∧
      ∀ e : DecimalNotation, e.text = d.text → e = d := by
  have htext := DecimalNotation.text_ofScaled n.toInt scale
  refine ⟨.ofScaled n.toInt scale, htext.symm, htext.symm, decide_eq_true_iff,
    DecimalNotation.length_fraction_ofScaled _ _, DecimalNotation.value_ofScaled _ _,
    fun e he => DecimalNotation.text_injective he⟩

example : decimalText (-9223372036854775808) 20 = "-0.09223372036854775808".toList := by decide

end Value

end FixtureMatrix
