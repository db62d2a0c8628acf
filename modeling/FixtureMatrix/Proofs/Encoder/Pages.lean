import FixtureMatrix.Encoder.Storage
import Mathlib.Algebra.BigOperators.Group.List.Basic
import Mathlib.Algebra.Group.Action.Defs
import Mathlib.Algebra.Order.Ring.Nat
import Mathlib.Tactic.SplitIfs

/-!
# Pages of a flat column

A writer looks at its row limit between mini-batches only, so a page goes on to the first
boundary of a mini-batch behind the limit. Half the rows as the limit, and no larger
mini-batches than that, keep this boundary in front of the last row.

* `properties?_spec`: the settings that a request has.
* `dataPages_of_boundary_lt`: the first page, and that there are others.
* `boundary_lt_of_multi`: where the multi-page layout puts the first boundary.
* `EncodeRequest.multi_page_splits`: so every flat column is split.
-/

namespace FixtureMatrix

/-! ## Mini-batches and pages -/

/-- The rows of each page that a writer makes of mini-batches, with some rows buffered
already: a page is closed at the first boundary with as many rows as the limit, and the
last one holds what is left. -/
def pageRows (limit : Nat) : Nat → List Nat → List Nat
  | buffered, [] => if buffered = 0 then [] else [buffered]
  | buffered, batch :: batches =>
    if limit ≤ buffered + batch then (buffered + batch) :: pageRows limit 0 batches
    else pageRows limit (buffered + batch) batches

namespace WriterProperties

/-- The rows of each data page of a flat column.  Its rows come in mini-batches as they do
in row groups, full ones and what is left. -/
def dataPages (p : WriterProperties) (rows : Nat) : List Nat :=
  pageRows p.dataPageRowLimit 0 (rowGroups p.writeBatchSize rows)

/-- The first boundary of a mini-batch with as many rows as the limit: the limit, rounded
up to whole mini-batches. -/
def boundary (p : WriterProperties) : Nat :=
  (p.dataPageRowLimit + p.writeBatchSize - 1) / p.writeBatchSize * p.writeBatchSize

end WriterProperties

section Pages

variable {limit buffered batch rows k : Nat} {batches : List Nat}

/-- Every row is on a page. -/
theorem sum_pageRows : (pageRows limit buffered batches).sum = buffered + batches.sum := by
  induction batches generalizing buffered with
  | nil =>
    unfold pageRows
    split_ifs with h
    · rw [h]
      rfl
    · simp
  | cons batch batches ih =>
    unfold pageRows
    split_ifs
    · rw [List.sum_cons, ih, List.sum_cons]
      omega
    · rw [ih, List.sum_cons]
      omega

theorem sum_rowGroups : (rowGroups batch rows).sum = rows := by
  have hsplit := Nat.div_add_mod' rows batch
  unfold rowGroups
  rw [List.sum_append, List.sum_replicate, smul_eq_mul]
  split_ifs with h
  · rw [List.sum_nil]
    omega
  · rw [List.sum_singleton]
    omega

/-- No page is closed in front of the limit. -/
theorem pageRows_replicate_append (h : buffered + k * batch < limit) :
    pageRows limit buffered (List.replicate k batch ++ batches) =
      pageRows limit (buffered + k * batch) batches := by
  induction k generalizing buffered with
  | zero => simp
  | succ k ih =>
    rw [Nat.succ_mul] at h ⊢
    have hopen : ¬ limit ≤ buffered + batch := by omega
    rw [List.replicate_succ, List.cons_append, pageRows, if_neg hopen, ih (by omega)]
    congr 1
    omega

/-- With more rows than full mini-batches up to the limit, these are the first page. -/
theorem exists_pageRows_rowGroups (hbefore : k * batch < limit)
    (hlimit : limit ≤ (k + 1) * batch) (hrows : (k + 1) * batch < rows) :
    ∃ later, pageRows limit 0 (rowGroups batch rows) = (k + 1) * batch :: later ∧
      later ≠ [] := by
  have hbatch : 0 < batch := by
    apply Nat.pos_of_ne_zero
    rintro rfl
    omega
  have hfull : k + 1 ≤ rows / batch := (Nat.le_div_iff_mul_le hbatch).2 (Nat.le_of_lt hrows)
  obtain ⟨more, hmore⟩ := Nat.exists_eq_add_of_le hfull
  have hgroups : rowGroups batch rows = List.replicate k batch ++ batch ::
      (List.replicate more batch ++ if rows % batch = 0 then [] else [rows % batch]) := by
    unfold rowGroups
    rw [hmore, Nat.add_assoc, List.replicate_add, Nat.add_comm 1, List.replicate_succ,
      List.append_assoc, List.cons_append]
  have hpages : pageRows limit 0 (rowGroups batch rows) = (k + 1) * batch ::
      pageRows limit 0 (List.replicate more batch ++
        if rows % batch = 0 then [] else [rows % batch]) := by
    rw [hgroups, pageRows_replicate_append (by omega), pageRows, Nat.zero_add, ← Nat.succ_mul,
      if_pos hlimit]
  refine ⟨_, hpages, ?_⟩
  intro hnone
  have hsum := congrArg List.sum hpages
  rw [sum_pageRows, sum_rowGroups, hnone, List.sum_singleton] at hsum
  omega

end Pages

/-! ## The settings of a request -/

/-- A row limit bounds pages and mini-batches; without one, mini-batches have the usual
size. -/
theorem EncodeRequest.properties?_spec (r : EncodeRequest) {rowGroupSize : Nat}
    (hsize : 0 < rowGroupSize) :
    ∃ p, r.properties? rowGroupSize = some p ∧
      (∀ limit, r.sizing.rowLimit = some limit → p.dataPageRowLimit = max limit 1) ∧
      p.writeBatchSize = min p.dataPageRowLimit 1024 ∧ 1 ≤ p.dataPageRowLimit := by
  unfold properties?
  rw [if_neg (by omega)]
  refine ⟨_, rfl, ?_, ?_, ?_⟩
  · intro limit hlimit
    simp only [hlimit]
  · cases r.sizing.rowLimit with
    | none => exact (by decide : defaultBatchSize = min noLimit 1024)
    | some limit => rfl
  · cases r.sizing.rowLimit with
    | none => exact (by decide : 1 ≤ noLimit)
    | some limit => exact Nat.le_max_right limit 1

namespace WriterProperties

variable {p : WriterProperties} {rows : Nat}

/-- With a boundary in front of the last row, the first page ends there and is not the
only one. -/
theorem dataPages_of_boundary_lt (hbatch : 1 ≤ p.writeBatchSize) (hlimit : 1 ≤ p.dataPageRowLimit)
    (h : p.boundary < rows) :
    ∃ later, p.dataPages rows = p.boundary :: later ∧ later ≠ [] := by
  unfold boundary at h ⊢
  unfold dataPages
  generalize p.writeBatchSize = batch at hbatch h ⊢
  generalize p.dataPageRowLimit = limit at hlimit h ⊢
  have hround := Nat.div_add_mod' (limit + batch - 1) batch
  have hrest := Nat.mod_lt (limit + batch - 1) hbatch
  obtain ⟨k, hk⟩ : ∃ k, (limit + batch - 1) / batch = k + 1 := by
    apply Nat.exists_eq_succ_of_ne_zero
    intro hzero
    rw [hzero] at hround
    omega
  rw [hk] at h hround ⊢
  have hsplit : (k + 1) * batch = k * batch + batch := Nat.succ_mul k batch
  exact exists_pageRows_rowGroups (by omega) (by omega) h

/-- Half the rows, rounded up to mini-batches of 1024 rows or fewer, are not all of them. -/
theorem boundary_lt_of_multi (hrows : 2 ≤ rows) (hlimit : p.dataPageRowLimit = rows / 2)
    (hbatch : p.writeBatchSize = min p.dataPageRowLimit 1024) : p.boundary < rows := by
  unfold boundary
  rw [hbatch, hlimit]
  by_cases hsmall : rows / 2 ≤ 1024
  · have hone : (rows / 2 + rows / 2 - 1) / (rows / 2) = 1 := by
      apply Nat.div_eq_of_lt_le <;> omega
    rw [Nat.min_eq_left hsmall, hone]
    omega
  · rw [Nat.min_eq_right (by omega)]
    omega

end WriterProperties

/-- Mini-batches are not empty and no larger than the row limit, whatever a request asks
for; and under the multi-page layout of two rows or more, a page of a flat column is
closed in front of the last row, so that there are two pages at least. -/
theorem EncodeRequest.multi_page_splits :
    (∀ (r : EncodeRequest) (rowGroupSize : Nat), 0 < rowGroupSize →
      ∃ p, r.properties? rowGroupSize = some p ∧ 1 ≤ p.writeBatchSize ∧
        p.writeBatchSize ≤ p.dataPageRowLimit) ∧
    ∀ rows, 2 ≤ rows → ∃ sizing, PageLayout.multi.sizing rows = .ok sizing ∧
      ∀ (r : EncodeRequest) (rowGroupSize : Nat), r.sizing = sizing → 0 < rowGroupSize →
        ∃ p, r.properties? rowGroupSize = some p ∧ 1 ≤ p.writeBatchSize ∧
          p.writeBatchSize ≤ p.dataPageRowLimit ∧ p.boundary < rows ∧
          (p.dataPages rows).head? = some p.boundary ∧ (p.dataPages rows).sum = rows ∧
          2 ≤ (p.dataPages rows).length := by
  constructor
  · intro r rowGroupSize hsize
    obtain ⟨p, hp, -, hbatch, hlimit⟩ := r.properties?_spec hsize
    refine ⟨p, hp, ?_, ?_⟩ <;> omega
  · intro rows hrows
    refine ⟨⟨multiPageSize, some (rows / 2)⟩, if_neg (by omega), ?_⟩
    intro r rowGroupSize hsizing hsize
    obtain ⟨p, hp, hrowLimit, hbatch, hlimit⟩ := r.properties?_spec hsize
    have hhalf : p.dataPageRowLimit = rows / 2 := by
      rw [hrowLimit (rows / 2) (by rw [hsizing])]
      omega
    have hboundary := WriterProperties.boundary_lt_of_multi hrows hhalf hbatch
    obtain ⟨later, hpages, hlater⟩ :=
      WriterProperties.dataPages_of_boundary_lt (by omega) hlimit hboundary
    refine ⟨p, hp, by omega, by omega, hboundary, ?_, ?_, ?_⟩
    · rw [hpages]
      rfl
    · unfold WriterProperties.dataPages
      rw [sum_pageRows, sum_rowGroups, Nat.zero_add]
    · have hmore := List.length_pos_iff.2 hlater
      rw [hpages, List.length_cons]
      omega

/-- 2050 rows in mini-batches of 1024 leave two rows for the second page. -/
theorem EncodeRequest.multi_page_splits_tight :
    PageLayout.multi.sizing 2050 = .ok ⟨1024, some 1025⟩ ∧ 0 < maxRowGroupSize ∧
      ∃ p, (⟨⟨[]⟩, [], "a.parquet", .v1, true, .none, ⟨1024, some 1025⟩, true⟩ :
          EncodeRequest).properties? maxRowGroupSize = some p ∧
        p.dataPageRowLimit = 1025 ∧ p.writeBatchSize = 1024 ∧ p.boundary < 2050 ∧
        p.dataPages 2050 = [2048, 2] := by
  obtain ⟨sizing, hsizing, hsplits⟩ := multi_page_splits.2 2050 (by decide)
  obtain rfl : ⟨1024, some 1025⟩ = sizing := Except.ok.inj hsizing
  obtain ⟨p, hp, -, -, hboundary, -⟩ := hsplits
    ⟨⟨[]⟩, [], "a.parquet", .v1, true, .none, ⟨1024, some 1025⟩, true⟩ maxRowGroupSize rfl
    (by decide)
  refine ⟨hsizing, by decide, p, hp, ?_⟩
  obtain rfl := Option.some.inj hp
  exact ⟨rfl, rfl, hboundary, by decide⟩

end FixtureMatrix
