import FixtureMatrix.Matrix.Plan
import FixtureMatrix.Proofs.Outcome

/-!
# What a plan holds

* `planBench_eq_ok_iff`, `plan_eq_ok_iff`: when planning succeeds, and which
  jobs it gives.
* `planned_of_mem_plan`: every job of a plan is a canonical case on one page, or
  a benchmark file of a positive whole number of units.
-/

namespace FixtureMatrix

/-- The jobs that a plan can hold. -/
inductive Job.Planned : Job → Prop
  | canonical {d : CaseDescriptor} {p : Profile} :
      d ∈ CaseDescriptor.canonical → p.layout = .single → Job.Planned (.canonical d p)
  | bench (variant : BenchVariant) {rows : Nat} (p : Profile) :
      0 < rows → benchTileRows ∣ rows → Job.Planned (.bench variant rows p)

/-- Six jobs for each of several row counts. -/
def Job.benches (sizes : List Nat) : List Job :=
  sizes.flatMap fun rows => benchProfiles.map fun p => Job.bench p.1 rows p.2

namespace MatrixConfig

variable {c : MatrixConfig} {jobs : List Job} {j : Job}

theorem badSize?_eq_none_iff {sizes : List Nat} :
    badSize? sizes = none ↔ ∀ rows ∈ sizes, 0 < rows ∧ benchTileRows ∣ rows := by
  rw [badSize?, List.find?_eq_none]
  refine forall₂_congr fun rows _ => ?_
  rw [Nat.dvd_iff_mod_eq_zero]
  simp [Nat.pos_iff_ne_zero]

theorem planBench_eq_ok_iff :
    c.planBench = .ok jobs ↔
      (∀ rows ∈ c.benchmarks.sizes, 0 < rows ∧ benchTileRows ∣ rows) ∧
        jobs = Job.benches c.benchmarks.sizes := by
  rw [planBench, ← badSize?_eq_none_iff]
  split
  · rename_i rows hrows
    simp [hrows]
  · rename_i hnone
    simp [hnone, Job.benches, eq_comm]

theorem plan_eq_ok_iff :
    c.plan = .ok jobs ↔
      (c.benchmarks.enabled = true →
        ∀ rows ∈ c.benchmarks.sizes, 0 < rows ∧ benchTileRows ∣ rows) ∧
      jobs = (if c.matrix then c.planFull else []) ++
        (if c.benchmarks.enabled then Job.benches c.benchmarks.sizes else []) := by
  rw [plan]
  cases c.benchmarks.enabled with
  | false =>
    simp only [bind_eq_ok_iff, pure_eq_ok_iff, Except.ok.injEq, exists_eq_left', List.append_nil,
      Bool.false_eq_true, if_false, false_implies, true_and, eq_comm (a := jobs)]
  | true =>
    simp only [bind_eq_ok_iff, pure_eq_ok_iff, if_true, planBench_eq_ok_iff, true_implies]
    constructor
    · rintro ⟨bench, ⟨hsizes, rfl⟩, rfl⟩
      exact ⟨hsizes, rfl⟩
    · rintro ⟨hsizes, rfl⟩
      exact ⟨_, ⟨hsizes, rfl⟩, rfl⟩

/-! ## Planned jobs -/

theorem mem_planFull_iff :
    j ∈ c.planFull ↔ ∃ d ∈ CaseDescriptor.canonical, ∃ version ∈ c.pageVersions,
      ∃ dictionary ∈ c.dictionary, ∃ codec ∈ c.codecs,
        j = .canonical d ⟨version, dictionary, .single, codec⟩ := by
  simp only [planFull, List.mem_flatMap, List.mem_map, eq_comm (b := j)]

theorem mem_benches_iff {sizes : List Nat} :
    j ∈ Job.benches sizes ↔ ∃ rows ∈ sizes, ∃ p ∈ benchProfiles, j = .bench p.1 rows p.2 := by
  simp only [Job.benches, List.mem_flatMap, List.mem_map, eq_comm (b := j)]

theorem planned_of_mem_planFull (h : j ∈ c.planFull) : j.Planned := by
  obtain ⟨d, hd, version, -, dictionary, -, codec, -, rfl⟩ := mem_planFull_iff.1 h
  exact .canonical hd rfl

theorem planned_of_mem_benches {sizes : List Nat}
    (hsizes : ∀ rows ∈ sizes, 0 < rows ∧ benchTileRows ∣ rows) (h : j ∈ Job.benches sizes) :
    j.Planned := by
  obtain ⟨rows, hrows, p, -, rfl⟩ := mem_benches_iff.1 h
  obtain ⟨hpos, hdvd⟩ := hsizes rows hrows
  exact .bench p.1 p.2 hpos hdvd

theorem planned_of_mem_plan (hplan : c.plan = .ok jobs) (h : j ∈ jobs) : j.Planned := by
  obtain ⟨hsizes, rfl⟩ := plan_eq_ok_iff.1 hplan
  rcases List.mem_append.1 h with hfull | hbench
  · exact planned_of_mem_planFull (List.mem_ite_nil_right.1 hfull).2
  · obtain ⟨hon, hj⟩ := List.mem_ite_nil_right.1 hbench
    exact planned_of_mem_benches (hsizes hon) hj

end MatrixConfig

end FixtureMatrix
