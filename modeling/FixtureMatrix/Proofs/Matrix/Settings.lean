import FixtureMatrix.Matrix.Config
import FixtureMatrix.Proofs.Outcome
import Mathlib.Data.List.Nodup
import Mathlib.Tactic.Ring

/-!
# Accepted settings

* `rejectRepeated_eq_ok_iff`: a list passes exactly when no value stands in it
  twice.
* `checkMatrix_eq_ok_iff`, `checkBenchmarks_eq_ok_iff`: what the settings of a
  pass have to be.
* `IsRange.sizes_eq`: the row counts of an accepted range of exponents.
* `sizes_ne_nil`, `pos_of_mem_sizes`, `sizes_nodup`: accepted settings give row counts, all of
  them positive and none twice.
-/

namespace FixtureMatrix

/-! ## Repeated values -/

section Repeated

variable {α : Type} [BEq α] [LawfulBEq α]

theorem firstRepeated?_eq_none_iff {seen as : List α} :
    firstRepeated? seen as = none ↔ as.Nodup ∧ ∀ a ∈ as, a ∉ seen := by
  induction as generalizing seen with
  | nil => simp [firstRepeated?]
  | cons a as ih =>
    rw [firstRepeated?]
    by_cases ha : a ∈ seen
    · simp [ha]
    · rw [if_neg (by simpa using ha), ih]
      simp only [List.nodup_cons, List.mem_cons, not_or, forall_eq_or_imp, forall_and]
      constructor
      · rintro ⟨hnodup, hne, hseen⟩
        exact ⟨⟨fun hmem => hne a hmem rfl, hnodup⟩, ha, hseen⟩
      · rintro ⟨⟨hmem, hnodup⟩, -, hseen⟩
        exact ⟨hnodup, fun b hb heq => hmem (heq ▸ hb), hseen⟩

theorem rejectRepeated_eq_ok_iff {list : String} {text : α → String} {as : List α} :
    rejectRepeated list text as = .ok () ↔ as.Nodup := by
  have hnone : firstRepeated? [] as = none ↔ as.Nodup := by
    simp [firstRepeated?_eq_none_iff]
  rw [rejectRepeated, ← hnone]
  split
  · rename_i a ha
    simp [ha]
  · rename_i ha
    simp [ha]

end Repeated

/-! ## The settings of each pass -/

namespace MatrixConfig

theorem checkMatrix_eq_ok_iff {c : MatrixConfig} :
    c.checkMatrix = .ok () ↔
      (c.pageVersions ≠ [] ∧ c.dictionary ≠ [] ∧ c.codecs ≠ []) ∧
      c.pageVersions.Nodup ∧ c.dictionary.Nodup ∧ c.codecs.Nodup := by
  rw [checkMatrix]
  simp only [guard_bind_eq_ok_iff, then_eq_ok_iff, rejectRepeated_eq_ok_iff, List.isEmpty_iff,
    ne_eq, and_assoc]

theorem checkBenchmarks_eq_ok_iff {b : BenchConfig} :
    checkBenchmarks b = .ok () ↔
      (b.explicitSizes = [] →
        b.step ≠ 0 ∧ b.minExponent ≤ b.maxExponent ∧ b.maxExponent ≤ maxBenchExponent) ∧
      0 ∉ b.explicitSizes ∧ b.explicitSizes.Nodup := by
  rw [checkBenchmarks]
  by_cases hexplicit : b.explicitSizes = []
  · simp only [hexplicit, List.isEmpty_nil, if_true, guard_bind_eq_ok_iff,
      rejectRepeated_eq_ok_iff, not_lt, List.contains_nil, Bool.false_eq_true, true_implies]
    tauto
  · simp only [hexplicit, List.isEmpty_iff, if_false, guard_bind_eq_ok_iff,
      rejectRepeated_eq_ok_iff, List.contains_iff_mem, false_implies, true_and]

theorem validate_eq_ok_iff {c : MatrixConfig} :
    c.validate = .ok () ↔
      (c.matrix = true → c.checkMatrix = .ok ()) ∧
      (c.benchmarks.enabled = true → checkBenchmarks c.benchmarks = .ok ()) := by
  have hcheck : c.validate = .ok () ↔ c.check = .ok () := by
    rw [validate]
    cases c.check <;> simp
  rw [hcheck, check]
  cases c.matrix <;> cases c.benchmarks.enabled <;> simp [then_eq_ok_iff, -bind_eq_ok_iff]

end MatrixConfig

/-! ## Row counts -/

namespace BenchConfig

variable {b : BenchConfig}

/-- A range of exponents that is accepted. -/
structure IsRange (b : BenchConfig) : Prop where
  explicitSizes : b.explicitSizes = []
  step_pos : 0 < b.step
  min_le_max : b.minExponent ≤ b.maxExponent
  max_le : b.maxExponent ≤ 30

theorem isRange_of_check (h : MatrixConfig.checkBenchmarks b = .ok ())
    (hexplicit : b.explicitSizes = []) : b.IsRange := by
  obtain ⟨hexponents, -, -⟩ := MatrixConfig.checkBenchmarks_eq_ok_iff.1 h
  obtain ⟨hstep, hmin, hmax⟩ := hexponents hexplicit
  exact ⟨hexplicit, Nat.pos_of_ne_zero hstep, hmin, hmax⟩

/-- How often the step fits between the least exponent and the greatest. -/
def steps (b : BenchConfig) : Nat :=
  (b.maxExponent - b.minExponent) / b.step

/-- An exponent that does not pass the last one is one more than those behind it. -/
theorem count_succ {last step e : Nat} (hstep : 0 < step) (he : e ≤ last) :
    (last + step - e) / step = (last + step - (e + step)) / step + 1 := by
  rw [← Nat.add_div_right _ hstep]
  congr 1
  omega

theorem IsRange.count_eq (h : b.IsRange) :
    (b.maxExponent + b.step - b.minExponent) / b.step = b.steps + 1 := by
  rw [count_succ h.step_pos h.min_le_max, Nat.add_sub_add_right, steps]

/-- The exponents that are stepped through do not pass the greatest one. -/
theorem IsRange.le_max (h : b.IsRange) {i : Nat} (hi : i < b.steps + 1) :
    b.minExponent + i * b.step ≤ b.maxExponent := by
  have hfit : i * b.step ≤ b.maxExponent - b.minExponent :=
    (Nat.le_div_iff_mul_le h.step_pos).1 (Nat.lt_succ_iff.1 hi)
  have hle := h.min_le_max
  omega

theorem range'_eq_map (start count step : Nat) :
    List.range' start count step = (List.range count).map fun i => start + i * step := by
  refine List.ext_getElem (by simp) fun i _ _ => ?_
  rw [List.getElem_range', List.getElem_map, List.getElem_range, Nat.mul_comm]

/-- The row counts of an accepted range: one power of two for each step that fits. -/
theorem IsRange.sizes_eq (h : b.IsRange) :
    b.sizes = (List.range (b.steps + 1)).map fun i => 2 ^ (b.minExponent + i * b.step) := by
  rw [sizes, if_neg (not_not.2 h.explicitSizes), if_neg h.step_pos.ne', h.count_eq, range'_eq_map,
    List.map_map]
  refine List.map_congr_left fun i hi => ?_
  have hle := h.le_max (List.mem_range.1 hi)
  have hmax := h.max_le
  show 2 ^ ((b.minExponent + i * b.step) % 64) = 2 ^ (b.minExponent + i * b.step)
  rw [Nat.mod_eq_of_lt (by omega)]

theorem IsRange.pairwise_lt (h : b.IsRange) : b.sizes.Pairwise (· < ·) := by
  rw [h.sizes_eq, List.pairwise_map]
  refine List.pairwise_lt_range.imp fun {i j} hij => ?_
  have hsteps : i * b.step < j * b.step := Nat.mul_lt_mul_of_pos_right hij h.step_pos
  exact Nat.pow_lt_pow_right (by decide) (by omega)

/-- Listed row counts are taken as they are. -/
theorem sizes_of_explicit (h : b.explicitSizes ≠ []) : b.sizes = b.explicitSizes := by
  rw [sizes, if_pos h]

theorem sizes_nodup (h : MatrixConfig.checkBenchmarks b = .ok ()) : b.sizes.Nodup := by
  by_cases hexplicit : b.explicitSizes = []
  · exact (isRange_of_check h hexplicit).pairwise_lt.imp Nat.ne_of_lt
  · obtain ⟨-, -, hnodup⟩ := MatrixConfig.checkBenchmarks_eq_ok_iff.1 h
    rwa [sizes_of_explicit hexplicit]

theorem sizes_ne_nil (h : MatrixConfig.checkBenchmarks b = .ok ()) : b.sizes ≠ [] := by
  by_cases hexplicit : b.explicitSizes = []
  · rw [(isRange_of_check h hexplicit).sizes_eq]
    simp
  · rwa [sizes_of_explicit hexplicit]

theorem pos_of_mem_sizes (h : MatrixConfig.checkBenchmarks b = .ok ()) {rows : Nat}
    (hrows : rows ∈ b.sizes) : 0 < rows := by
  by_cases hexplicit : b.explicitSizes = []
  · rw [(isRange_of_check h hexplicit).sizes_eq] at hrows
    obtain ⟨i, -, rfl⟩ := List.mem_map.1 hrows
    exact Nat.two_pow_pos _
  · rw [sizes_of_explicit hexplicit] at hrows
    obtain ⟨-, hzero, -⟩ := MatrixConfig.checkBenchmarks_eq_ok_iff.1 h
    exact Nat.pos_of_ne_zero fun heq => hzero (heq ▸ hrows)

end BenchConfig

end FixtureMatrix
