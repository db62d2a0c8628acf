import FixtureMatrix.Text.Digits
import Mathlib.Algebra.Group.Nat.Defs
import Mathlib.Data.List.Basic
import Mathlib.Data.List.Induction
import Mathlib.Tactic.SplitIfs

/-!
# Digits and the numbers they denote

* `value_append`: digits in front of others count as many places more.
* `eq_zero_of_head?_ofNat`: no number but zero is written with a zero in front.
* `exists_zeros`: a run of digits is the number it denotes behind zeros.
-/

namespace FixtureMatrix.Digits

variable {ds : List Char} {d : Char} {n : Nat}

theorem toNat?_eq_some_iff :
    toNat? ds = some n ↔ ds ≠ [] ∧ (∀ d ∈ ds, d.isDigit = true) ∧ value ds = n := by
  simp only [toNat?, List.all_eq_true, Option.ite_none_right_eq_some, Option.some.injEq, and_assoc]

theorem ofNat_eq (n : Nat) : ofNat n =
    if n < 10 then [n.digitChar] else ofNat (n / 10) ++ [(n % 10).digitChar] :=
  Nat.toDigits_eq_if (by decide)

/-- Only the digits of zero start with a zero. -/
theorem eq_zero_of_head?_ofNat (h : (ofNat n).head? = some '0') : n = 0 := by
  induction n using Nat.strongRecOn with
  | ind n ih =>
    rw [ofNat_eq] at h
    split_ifs at h with hn
    · have hdigit : ∀ j < 10, j.digitChar = '0' → j = 0 := by decide
      exact hdigit n hn (Option.some.inj h)
    · rw [List.head?_append_of_ne_nil _ (ofNat_ne_nil _)] at h
      have hzero := ih (n / 10) (by omega) h
      omega

/-- Digits in front of others count as many places more. -/
theorem value_append (a b : List Char) : value (a ++ b) = 10 ^ b.length * value a + value b := by
  rw [value, Nat.ofDigitChars_append, Nat.ofDigitChars_eq_ofDigitChars_zero]
  rfl

theorem exists_digitChar (h : d.isDigit = true) : ∃ k < 10, d = k.digitChar := by
  have hchars : ∀ k < 10, Char.ofNat (48 + k) = k.digitChar := by decide
  obtain ⟨hlow, hhigh⟩ := Char.isDigit_iff_toNat.1 h
  have hlow : 48 ≤ d.toNat := hlow
  have hhigh : d.toNat ≤ 57 := hhigh
  refine ⟨d.toNat - 48, by omega, ?_⟩
  rw [← hchars _ (by omega), Nat.add_sub_cancel' hlow, Char.ofNat_toNat]

/-- A run of digits is the number it denotes, with zeros in front. -/
theorem exists_zeros (hne : ds ≠ []) (hds : ∀ d ∈ ds, d.isDigit = true) :
    ∃ k, ds = List.replicate k '0' ++ ofNat (value ds) := by
  induction ds using List.reverseRecOn with
  | nil => exact absurd rfl hne
  | append_singleton init d ih =>
    obtain ⟨k, hk, rfl⟩ := exists_digitChar (hds d (by simp))
    have hlast : ofNat k = [k.digitChar] := by rw [ofNat_eq, if_pos hk]
    have hvalue : value (init ++ [k.digitChar]) = 10 * value init + k := by
      rw [value_append, ← hlast, value_ofNat, hlast]
      rfl
    rw [hvalue]
    by_cases hinit : init = []
    · subst hinit
      rw [show 10 * value [] + k = k from Nat.zero_add k, hlast]
      exact ⟨0, rfl⟩
    · obtain ⟨zeros, hzeros⟩ := ih hinit fun c hc => hds c (by simp [hc])
      by_cases hzero : value init = 0
      · -- so far there are only zeros, and the last one is superfluous too
        rw [hzero] at hzeros ⊢
        refine ⟨zeros + 1, ?_⟩
        rw [hzeros, Nat.mul_zero, Nat.zero_add, hlast, List.replicate_succ']
        rfl
      · refine ⟨zeros, ?_⟩
        rw [ofNat_eq, if_neg (by omega), show (10 * value init + k) / 10 = value init by omega,
          show (10 * value init + k) % 10 = k by omega, ← List.append_assoc, ← hzeros]

end FixtureMatrix.Digits
