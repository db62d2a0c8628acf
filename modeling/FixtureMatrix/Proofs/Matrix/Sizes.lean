import FixtureMatrix.Proofs.Matrix.Plan
import FixtureMatrix.Proofs.Matrix.Settings

/-!
# Row counts of accepted settings

The exponents of a range are stepped through in words of 32 bits, and the row counts are
words of 64 bits with one bit set.

* `toNat_exponentsFrom`: a walk in words gives the exponents counted up in steps.
* `IsRange.toNat_wordSizes`: words are wide enough for the row counts of an accepted range.
* `IsRange.expands`: what such a range comes to.
* `sizes_of_validate`: accepted settings give row counts, each of them positive and once, and a
  plan that is not empty.
-/

namespace FixtureMatrix

namespace BenchConfig

variable {b : BenchConfig}

/-! ## Exponents in words -/

/-- The exponents from `e` up to the last one in steps.  They end where the next sum passes
the last exponent or is no word. -/
def exponentsFrom (last step e : UInt32) : List UInt32 :=
  if h : 0 < step ∧ e ≤ last then
    if e.toNat + step.toNat < 2 ^ 32 then e :: exponentsFrom last step (e + step) else [e]
  else []
termination_by last.toNat + 1 - e.toNat
decreasing_by
  rename_i hsum
  have hstep : 0 < step.toNat := UInt32.lt_iff_toNat_lt.1 h.1
  have he : e.toNat ≤ last.toNat := UInt32.le_iff_toNat_le.1 h.2
  rw [UInt32.toNat_add, Nat.mod_eq_of_lt hsum]
  omega

theorem toNat_exponentsFrom {last step e : UInt32} (hstep : 0 < step) :
    (exponentsFrom last step e).map UInt32.toNat =
      List.range' e.toNat ((last.toNat + step.toNat - e.toNat) / step.toNat) step.toNat := by
  have hpos : 0 < step.toNat := UInt32.lt_iff_toNat_lt.1 hstep
  fun_induction exponentsFrom last step e with
  | case1 e h hsum ih =>
    have he : e.toNat ≤ last.toNat := UInt32.le_iff_toNat_le.1 h.2
    rw [List.map_cons, ih, UInt32.toNat_add, Nat.mod_eq_of_lt hsum, count_succ hpos he,
      List.range'_succ]
  | case2 e h hsum =>
    have he : e.toNat ≤ last.toNat := UInt32.le_iff_toNat_le.1 h.2
    have hlast := last.toNat_lt
    -- the sum is no word, so it passes the last exponent too
    have hzero : (last.toNat + step.toNat - (e.toNat + step.toNat)) / step.toNat = 0 :=
      Nat.div_eq_of_lt (by omega)
    rw [count_succ hpos he, hzero]
    rfl
  | case3 e h =>
    have he : last.toNat < e.toNat := by
      rw [← UInt32.lt_iff_toNat_lt, ← UInt32.not_le]
      exact fun hle => h ⟨hstep, hle⟩
    rw [Nat.div_eq_of_lt (by omega)]
    rfl

/-! ## Row counts in words -/

def wordExponents (b : BenchConfig) : List UInt32 :=
  exponentsFrom (.ofNat b.maxExponent) (.ofNat b.step) (.ofNat b.minExponent)

/-- The row counts of a range of exponents: words of 64 bits with one bit set. -/
def wordSizes (b : BenchConfig) : List UInt64 :=
  b.wordExponents.map fun e => (1 : UInt64) <<< e.toUInt64

theorem IsRange.toNat_wordExponents (h : b.IsRange) (hstep : b.step < 2 ^ 32) :
    b.wordExponents.map UInt32.toNat =
      (List.range (b.steps + 1)).map fun i => b.minExponent + i * b.step := by
  have hmax := h.max_le
  have hmin := h.min_le_max
  have hlast : (UInt32.ofNat b.maxExponent).toNat = b.maxExponent :=
    UInt32.toNat_ofNat_of_lt' (by show _ < 2 ^ 32; omega)
  have hfirst : (UInt32.ofNat b.minExponent).toNat = b.minExponent :=
    UInt32.toNat_ofNat_of_lt' (by show _ < 2 ^ 32; omega)
  have hword : (UInt32.ofNat b.step).toNat = b.step := UInt32.toNat_ofNat_of_lt' hstep
  have hpos : 0 < UInt32.ofNat b.step := by
    rw [UInt32.lt_iff_toNat_lt, hword]
    exact h.step_pos
  rw [wordExponents, toNat_exponentsFrom hpos, hlast, hfirst, hword, h.count_eq, range'_eq_map]

theorem toNat_one_shiftLeft {e : UInt32} (he : e.toNat < 64) :
    ((1 : UInt64) <<< e.toUInt64).toNat = 2 ^ e.toNat := by
  have hpow : 2 ^ e.toNat < 2 ^ 64 := Nat.pow_lt_pow_right (by decide) he
  rw [UInt64.toNat_shiftLeft, UInt32.toNat_toUInt64, Nat.mod_eq_of_lt he, UInt64.toNat_one,
    Nat.shiftLeft_eq, Nat.one_mul, Nat.mod_eq_of_lt hpow]

/-- Words are wide enough for the row counts of an accepted range. -/
theorem IsRange.toNat_wordSizes (h : b.IsRange) (hstep : b.step < 2 ^ 32) :
    b.wordSizes.map UInt64.toNat = b.sizes := by
  have hexponents := h.toNat_wordExponents hstep
  have hshift : ∀ e ∈ b.wordExponents, ((1 : UInt64) <<< e.toUInt64).toNat = 2 ^ e.toNat := by
    intro e he
    have hmem : e.toNat ∈ b.wordExponents.map UInt32.toNat := List.mem_map_of_mem he
    rw [hexponents] at hmem
    obtain ⟨i, hi, hie⟩ := List.mem_map.1 hmem
    have hle := h.le_max (List.mem_range.1 hi)
    have hmax := h.max_le
    exact toNat_one_shiftLeft (by omega)
  calc b.wordSizes.map UInt64.toNat
      = (b.wordExponents.map UInt32.toNat).map (2 ^ ·) := by
        rw [wordSizes, List.map_map, List.map_map]
        exact List.map_congr_left hshift
    _ = b.sizes := by
        rw [hexponents, List.map_map, h.sizes_eq]
        rfl

/-! ## Accepted ranges -/

/-- What a range of exponents comes to: the powers of two in steps, from the least to the
greatest, where every sum of an exponent and the step up to the last one is a word of 32 bits,
every exponent a shift within a word of 64 bits, and the row counts are those in words. -/
structure Expands (b : BenchConfig) : Prop where
  sizes_eq : b.sizes =
    (List.range (b.steps + 1)).map fun i => 2 ^ (b.minExponent + i * b.step)
  increasing : b.sizes.Pairwise (· < ·)
  bounded : ∀ rows ∈ b.sizes, rows ≤ 2 ^ 30
  sum_lt : ∀ i < b.steps, b.minExponent + i * b.step + b.step < 2 ^ 32
  shift_lt : ∀ i ≤ b.steps, b.minExponent + i * b.step < 64
  words : b.step < 2 ^ 32 → b.wordSizes.map UInt64.toNat = b.sizes

theorem IsRange.le_of_mem (h : b.IsRange) {rows : Nat} (hrows : rows ∈ b.sizes) :
    rows ≤ 2 ^ 30 := by
  rw [h.sizes_eq] at hrows
  obtain ⟨i, hi, rfl⟩ := List.mem_map.1 hrows
  have hle := h.le_max (List.mem_range.1 hi)
  exact Nat.pow_le_pow_right (by decide) (hle.trans h.max_le)

theorem IsRange.expands (h : b.IsRange) : b.Expands := by
  have hmax := h.max_le
  refine ⟨h.sizes_eq, h.pairwise_lt, fun _ => h.le_of_mem, fun i hi => ?_, fun i hi => ?_,
    h.toNat_wordSizes⟩
  · have hle := h.le_max (Nat.succ_lt_succ hi)
    rw [Nat.succ_mul] at hle
    omega
  · have hle := h.le_max (Nat.lt_succ_of_le hi)
    omega

end BenchConfig

/-! ## Plans -/

theorem Job.benches_ne_nil {sizes : List Nat} (h : sizes ≠ []) : Job.benches sizes ≠ [] := by
  obtain ⟨rows, rest, rfl⟩ := List.exists_cons_of_ne_nil h
  exact List.cons_ne_nil _ _

namespace MatrixConfig

variable {c : MatrixConfig}

theorem planFull_ne_nil (h : c.checkMatrix = .ok ()) : c.planFull ≠ [] := by
  obtain ⟨⟨hversions, hdictionary, hcodecs⟩, -⟩ := checkMatrix_eq_ok_iff.1 h
  obtain ⟨version, hversion⟩ := List.exists_mem_of_ne_nil _ hversions
  obtain ⟨dictionary, hdict⟩ := List.exists_mem_of_ne_nil _ hdictionary
  obtain ⟨codec, hcodec⟩ := List.exists_mem_of_ne_nil _ hcodecs
  have hd : CaseDescriptor.basicNullable ∈ CaseDescriptor.canonical := List.mem_cons_self
  exact List.ne_nil_of_mem
    (mem_planFull_iff.2 ⟨_, hd, version, hversion, dictionary, hdict, codec, hcodec, rfl⟩)

/-- Accepted settings of an enabled benchmark pass give row counts, each of them positive and
listed once, and with at least one pass enabled a plan is not empty. -/
theorem sizes_of_validate (h : c.validate = .ok ()) :
    (c.benchmarks.enabled = true →
      c.benchmarks.sizes ≠ [] ∧ (∀ rows ∈ c.benchmarks.sizes, 0 < rows) ∧
        c.benchmarks.sizes.Nodup ∧ (c.benchmarks.explicitSizes = [] → c.benchmarks.Expands)) ∧
    (c.matrix = true ∨ c.benchmarks.enabled = true → ∀ jobs, c.plan = .ok jobs → jobs ≠ []) := by
  obtain ⟨hmatrix, hbench⟩ := validate_eq_ok_iff.1 h
  refine ⟨fun hon => ?_, fun hpass jobs hplan => ?_⟩
  · have hcheck := hbench hon
    exact ⟨BenchConfig.sizes_ne_nil hcheck, fun _ => BenchConfig.pos_of_mem_sizes hcheck,
      BenchConfig.sizes_nodup hcheck,
      fun hexplicit => (BenchConfig.isRange_of_check hcheck hexplicit).expands⟩
  · obtain ⟨-, rfl⟩ := plan_eq_ok_iff.1 hplan
    rcases hpass with hon | hon
    · rw [if_pos hon]
      exact List.append_ne_nil_of_left_ne_nil (planFull_ne_nil (hmatrix hon)) _
    · rw [if_pos hon]
      exact List.append_ne_nil_of_right_ne_nil _
        (Job.benches_ne_nil (BenchConfig.sizes_ne_nil (hbench hon)))

/-- The step passes over the greatest exponent. -/
def passingOver : MatrixConfig :=
  { matrix := false, benchmarks := { minExponent := 5, maxExponent := 30, step := 8 } }

theorem sizes_of_validate_passingOver :
    (passingOver.validate = .ok () ∧ passingOver.benchmarks.enabled = true ∧
      passingOver.benchmarks.explicitSizes = [] ∧ passingOver.benchmarks.step < 2 ^ 32) ∧
    passingOver.benchmarks.sizes = [32, 8192, 2097152, 536870912] ∧
    passingOver.benchmarks.Expands ∧
    passingOver.benchmarks.wordSizes.map UInt64.toNat = passingOver.benchmarks.sizes ∧
    ∃ jobs, passingOver.plan = .ok jobs ∧ jobs ≠ [] := by
  have hvalid : passingOver.validate = .ok () := rfl
  obtain ⟨hsizes, hplan⟩ := sizes_of_validate hvalid
  obtain ⟨-, -, -, hexpands⟩ := hsizes rfl
  obtain ⟨jobs, hjobs⟩ : ∃ jobs, passingOver.plan = .ok jobs :=
    ⟨_, plan_eq_ok_iff.2 ⟨fun _ => by decide, rfl⟩⟩
  exact ⟨⟨hvalid, rfl, rfl, by decide⟩, by decide, hexpands rfl, (hexpands rfl).words (by decide),
    jobs, hjobs, hplan (Or.inr rfl) jobs hjobs⟩

example : BenchConfig.sizes { step := 4294967295 } = [1024] := by decide

end MatrixConfig

end FixtureMatrix
