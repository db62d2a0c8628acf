import FixtureMatrix.Matrix.Run
import FixtureMatrix.Proofs.Case.Tiling
import FixtureMatrix.Proofs.Matrix.Plan

/-!
# Requests of planned jobs

Every planned job can be built if there is room for its rows: its case is valid, has
the planned number of rows, and is long enough for its layout.  Without room the job
panics; it is refused in neither case.

* `request_of_planned`: the request of a planned job, field by field.
* `request_of_oversize`: a planned job without room has none.
* `planned_of_mem_planPass`: whatever pass is planned, its jobs are such.
-/

namespace FixtureMatrix

/-! ## Cases -/

/-- The canonical cases are valid and as long as they are described. -/
theorem CaseDescriptor.validate_build {d : CaseDescriptor} (hd : d ∈ canonical) :
    d.build.validate = .ok () ∧ d.build.numRows = d.rows := by
  simp only [canonical, List.mem_cons, List.not_mem_nil, or_false] at hd
  rcases hd with rfl | rfl | rfl | rfl | rfl
  all_goals exact ⟨rfl, rfl⟩

/-- There is room for the rows of a canonical case. -/
theorem CaseDescriptor.rows_le_maxCapacity {d : CaseDescriptor} (hd : d ∈ canonical) :
    d.rows ≤ maxCapacity := by
  simp only [canonical, List.mem_cons, List.not_mem_nil, or_false] at hd
  rcases hd with rfl | rfl | rfl | rfl | rfl
  all_goals decide

/-- The basic cases have more rows than benchmark files repeat. -/
theorem BenchVariant.descriptor_spec (v : BenchVariant) :
    v.descriptor ∈ CaseDescriptor.canonical ∧ benchTileRows ≤ v.descriptor.rows := by
  cases v <;> exact ⟨by simp [descriptor, CaseDescriptor.canonical], by decide⟩

namespace Job

variable {j : Job}

/-- The case of a planned job with room for its rows is valid and has the planned
number of rows. -/
theorem buildCase_of_planned (h : j.Planned) (hroom : j.rows ≤ maxCapacity) :
    ∃ c, j.buildCase = .ok c ∧ c.validate = .ok () ∧ c.numRows = j.rows := by
  have hsource : ∃ c, j.sourceCase = .ok c ∧ c.validate = .ok () ∧ c.numRows = j.rows := by
    cases h with
    | canonical hd _ => exact ⟨_, rfl, CaseDescriptor.validate_build hd⟩
    | @bench variant rows p hpos hdvd =>
      obtain ⟨hmem, hunit⟩ := variant.descriptor_spec
      obtain ⟨hvalid, hrows⟩ := CaseDescriptor.validate_build hmem
      rw [← hrows] at hunit
      have hunitPos : 0 < benchTileRows := by decide
      refine ⟨variant.descriptor.build.tiled benchTileRows (rows / benchTileRows), ?_,
        FixtureCase.validate_tiled hvalid hunitPos hunit, ?_⟩
      · simp only [sourceCase, bench]
        rw [FixtureCase.tilePrefix_of_valid hvalid hunitPos hunit hdvd hroom]
        rfl
      · rw [FixtureCase.numRows_tiled hunitPos hunit, Nat.div_mul_cancel hdvd]
        rfl
  obtain ⟨c, hc, hvalid, hrows⟩ := hsource
  refine ⟨c, ?_, hvalid, hrows⟩
  rw [buildCase, hc]
  simp only [bind, Except.bind, hvalid]
  rfl

/-- A planned job without room for its rows is a benchmark file, and panics while its
rows are repeated. -/
theorem buildCase_of_oversize (h : j.Planned) (hover : maxCapacity < j.rows) :
    j.buildCase = .error (.panicked .capacityOverflow) := by
  cases h with
  | canonical hd _ => exact absurd (CaseDescriptor.rows_le_maxCapacity hd) (Nat.not_le.2 hover)
  | @bench variant rows p hpos hdvd =>
    obtain ⟨hmem, hunit⟩ := variant.descriptor_spec
    rw [← (CaseDescriptor.validate_build hmem).2] at hunit
    simp only [buildCase, sourceCase, bench]
    rw [FixtureCase.tilePrefix_of_oversize (by decide) hunit hdvd hover]
    rfl

/-- Planned jobs are long enough for their layout. -/
theorem sizing_of_planned (h : j.Planned) :
    ∃ sizing, j.profile.layout.sizing j.rows = .ok sizing := by
  cases h with
  | canonical _ hlayout =>
    simp only [canonical, hlayout, PageLayout.sizing]
    exact ⟨_, rfl⟩
  | bench variant p hpos hdvd =>
    have hle := Nat.le_of_dvd hpos hdvd
    simp only [bench, rows]
    cases p.layout with
    | single => exact ⟨_, rfl⟩
    | multi =>
      rw [PageLayout.sizing, if_neg (by unfold benchTileRows at hle; omega)]
      exact ⟨_, rfl⟩

theorem request_of_planned (h : j.Planned) (hroom : j.rows ≤ maxCapacity) (output : String) :
    ∃ c sizing, j.buildCase = .ok c ∧ c.numRows = j.rows ∧
      j.profile.layout.sizing j.rows = .ok sizing ∧
      j.request output = .ok {
        schema := c.schema
        columns := c.columns
        path := j.path output
        pageVersion := j.profile.pageVersion
        dictionary := j.profile.dictionary
        compression := j.profile.compression
        sizing := sizing
        writeStatistics := true } := by
  obtain ⟨c, hc, -, hrows⟩ := buildCase_of_planned h hroom
  obtain ⟨sizing, hsizing⟩ := sizing_of_planned h
  refine ⟨c, sizing, hc, hrows, hsizing, ?_⟩
  rw [request, hc]
  simp only [bind, Except.bind, hrows, hsizing]
  rfl

theorem exists_request (h : j.Planned) (hroom : j.rows ≤ maxCapacity) (output : String) :
    ∃ r, j.request output = .ok r := by
  obtain ⟨c, sizing, -, -, -, hrequest⟩ := request_of_planned h hroom output
  exact ⟨_, hrequest⟩

theorem request_of_oversize (h : j.Planned) (hover : maxCapacity < j.rows) (output : String) :
    j.request output = .error (.panicked .capacityOverflow) := by
  rw [request, buildCase_of_oversize h hover]
  rfl

theorem path_of_request {output : String} {r : EncodeRequest} (h : j.request output = .ok r) :
    r.path = j.path output := by
  rw [request, bind_eq_ok_iff] at h
  obtain ⟨c, -, h⟩ := h
  split at h
  · cases h
  · rw [← pure_eq_ok_iff.1 h]

/-- A job that has a request has room for its rows. -/
theorem rows_le_of_request (h : j.Planned) {output : String} {r : EncodeRequest}
    (hrequest : j.request output = .ok r) : j.rows ≤ maxCapacity := by
  by_contra hover
  rw [request_of_oversize h (by omega)] at hrequest
  cases hrequest

theorem numRows_of_request (h : j.Planned) {output : String} {r : EncodeRequest}
    (hrequest : j.request output = .ok r) : r.numRows = j.rows := by
  obtain ⟨c, sizing, -, hrows, -, hplanned⟩ :=
    request_of_planned h (rows_le_of_request h hrequest) output
  rw [hplanned] at hrequest
  cases hrequest
  exact hrows

end Job

/-! ## Whole passes -/

namespace MatrixConfig

variable {c : MatrixConfig} {pass : Pass} {jobs : List Job}

/-- The jobs of a single pass can be built even where the pass is not enabled,
so that its settings are not checked. -/
theorem planned_of_mem_planPass (hplan : c.planPass pass = .ok jobs) {j : Job} (hj : j ∈ jobs) :
    j.Planned := by
  cases pass with
  | full =>
    cases hplan
    exact planned_of_mem_planFull hj
  | bench =>
    obtain ⟨hsizes, rfl⟩ := planBench_eq_ok_iff.1 hplan
    exact planned_of_mem_benches hsizes hj
  | all => exact planned_of_mem_plan hplan hj

theorem jobs_eq_ok_iff :
    c.jobs pass = .ok jobs ↔ c.validate = .ok () ∧ c.planPass pass = .ok jobs := by
  rw [MatrixConfig.jobs, bind_eq_ok_iff]
  constructor
  · rintro ⟨⟨⟩, hvalid, hplan⟩
    exact ⟨hvalid, hplan⟩
  · rintro ⟨hvalid, hplan⟩
    exact ⟨(), hvalid, hplan⟩

theorem planned_of_mem_jobs (hjobs : c.jobs pass = .ok jobs) {j : Job} (hj : j ∈ jobs) :
    j.Planned :=
  planned_of_mem_planPass (jobs_eq_ok_iff.1 hjobs).2 hj

end MatrixConfig

end FixtureMatrix
