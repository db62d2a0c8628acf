import FixtureMatrix.Proofs.Matrix.Requests

/-!
# Configuration errors of a run

A request that is wrong in itself is refused while the run is planned.  Behind
that point only the encoder and the disk can fail.

* `generate_isConfig`, `execute_isConfig`: no job of a plan fails for its
  configuration.
* `validate_isConfig`, `plan_isConfig`, `run_isConfig`: on which side of the plan
  a run fails for its configuration.
* `run_config_error`: a run that ends with a configuration error has not begun.
-/

namespace FixtureMatrix

/-! ## One job -/

/-- The directory of a file cannot be created for reasons of the disk only. -/
theorem Encoder.prepare_isConfig {enc : Encoder} {path : String} {d : Disk} {e : FixtureError}
    (h : enc.prepare path d = .error e) : e.isConfig = false := by
  rw [Encoder.prepare] at h
  split at h
  · split at h
    · cases h
    · cases h
      rfl
  · cases h

theorem Job.record_isConfig {j : Job} {r : EncodeRequest} {d : Disk} {e : FixtureError}
    (h : j.record r d = .error e) : e.isConfig = false := by
  rw [Job.record] at h
  split at h
  · cases h
    rfl
  · cases h

/-- A planned job fails in the encoder or on the disk, or there is no room for its
rows. -/
theorem Job.generate_isConfig {j : Job} (hj : j.Planned) {enc : Encoder} {output : String}
    {w : World enc.State} {e : FixtureError}
    (h : (j.generate enc output w).2 = .error (.returned e)) : e.isConfig = false := by
  rw [Job.generate] at h
  split at h
  · rename_i cause hrequest
    by_cases hover : maxCapacity < j.rows
    · rw [request_of_oversize hj hover] at hrequest
      cases hrequest
      cases h
    · obtain ⟨r, hplanned⟩ := exists_request hj (Nat.not_lt.1 hover) output
      rw [hplanned] at hrequest
      cases hrequest
  split at h
  · rename_i prepareError hprepare
    cases h
    exact Encoder.prepare_isConfig hprepare
  split at h
  · cases h
    rfl
  split at h
  · split at h
    · rename_i recordError hrecord
      cases h
      exact Job.record_isConfig hrecord
    · cases h
  · cases h

/-! ## Several jobs -/

theorem execute_isConfig {enc : Encoder} {output : String} {total i : Nat} {jobs : List Job}
    (hjobs : ∀ j ∈ jobs, j.Planned) {w : World enc.State} {e : FixtureError}
    (h : (execute enc output total i jobs w).failure = some (.returned e)) :
    e.isConfig = false := by
  induction jobs generalizing i w with
  | nil => cases h
  | cons j jobs ih =>
    obtain ⟨hj, hrest⟩ := List.forall_mem_cons.1 hjobs
    rw [execute] at h
    split at h
    · rename_i w' jobError hgenerate
      cases h
      exact Job.generate_isConfig hj (congrArg Prod.snd hgenerate)
    · exact ih hrest h

/-- The manifest cannot be written for reasons of the disk only. -/
theorem RunSummary.finish_isConfig {s : RunSummary} {output : String} {d : Disk}
    {e : FixtureError} (h : (s.finish output d).2 = .error e) : e.isConfig = false := by
  rw [RunSummary.finish] at h
  split at h
  · cases h
    rfl
  · rename_i created hcreated
    split at h
    · rename_i writeError hwrite
      cases h
      rw [Manifest.write] at hwrite
      split at hwrite
      · cases hwrite
      · cases hwrite
        rfl
    · cases h

/-! ## Whole runs -/

namespace MatrixConfig

section

variable {c : MatrixConfig} {pass : Pass} {enc : Encoder} {jobs : List Job} {d : Disk}
  {e : FixtureError}

/-- A setting that is refused is a fault of the configuration. -/
theorem validate_isConfig (h : c.validate = .error e) : e.isConfig = true := by
  rw [validate] at h
  split at h
  · cases h
  · cases h
    rfl

/-- So is a row count that cannot be planned. -/
theorem plan_isConfig (h : c.plan = .error e) : e.isConfig = true := by
  rw [plan] at h
  split at h
  · replace h := bind_pure_eq_error_iff.1 h
    rw [planBench] at h
    split at h
    · cases h
      rfl
    · cases h
  · cases h

/-- Behind the plan nothing fails for the configuration. -/
theorem run_isConfig (hjobs : c.jobs pass = .ok jobs)
    (h : (c.run enc pass d).result = .error (.returned e)) : e.isConfig = false := by
  have hplanned : ∀ j ∈ jobs, j.Planned := fun j hj => planned_of_mem_jobs hjobs hj
  simp only [run, hjobs] at h
  split at h
  · next cause hfailure =>
    cases h
    exact execute_isConfig hplanned hfailure
  · split at h
    · obtain ⟨cause, hfinish, heq⟩ := mapError_eq_error_iff.1 h
      cases heq
      exact RunSummary.finish_isConfig hfinish
    · cases h

end

/-- A run that ends with a configuration error leaves the disk as it was and
completes nothing, and it does so with every encoder: each of them remembers what it
did before, for none was called.  And once the jobs are planned, none of them is
refused while it is built or laid out: it can be built where there is room for its
rows, and is then long enough for its layout. -/
theorem run_config_error (c : MatrixConfig) (pass : Pass) :
    (∀ (enc : Encoder) (d : Disk) (e : FixtureError),
      (c.run enc pass d).result = .error (.returned e) → e.isConfig = true →
        ∀ other : Encoder,
          c.run other pass d = ⟨⟨other.memory, d⟩, [], [], .error (.returned e)⟩) ∧
    ∀ jobs, c.planPass pass = .ok jobs → ∀ j ∈ jobs,
      (∀ e, j.buildCase ≠ .error (.returned e)) ∧
      (j.rows ≤ maxCapacity → ∃ case, j.buildCase = .ok case) ∧
      ∀ case, j.buildCase = .ok case →
        ∃ sizing, j.profile.layout.sizing case.numRows = .ok sizing := by
  constructor
  · intro enc d e hresult hconfig other
    cases hjobs : c.jobs pass with
    | error planError =>
      simp only [run, hjobs] at hresult ⊢
      cases hresult
      rfl
    | ok jobs =>
      rw [run_isConfig hjobs hresult] at hconfig
      cases hconfig
  · intro jobs hplan j hj
    have hplanned := planned_of_mem_planPass hplan hj
    by_cases hover : maxCapacity < j.rows
    · have hpanics := Job.buildCase_of_oversize hplanned hover
      simp [hpanics, hover]
    · obtain ⟨case, hcase, -, hrows⟩ := Job.buildCase_of_planned hplanned (Nat.not_lt.1 hover)
      obtain ⟨sizing, hsizing⟩ := Job.sizing_of_planned hplanned
      simp [hcase, hrows, hsizing]

/-- A row count that is no whole number of units is found before anything is
written, although the canonical pass stands in front of it. -/
theorem run_config_error_bad_size :
    (∀ other : Encoder,
      run { benchmarks := { explicitSizes := [1024, 1020] } } other .all Disk.empty =
        ⟨⟨other.memory, Disk.empty⟩, [], [], .error (.returned (sizeFault 1020))⟩) ∧
    ∀ j ∈ planFull {}, (∀ e, j.buildCase ≠ .error (.returned e)) ∧
      (j.rows ≤ maxCapacity → ∃ case, j.buildCase = .ok case) ∧
      ∀ case, j.buildCase = .ok case →
        ∃ sizing, j.profile.layout.sizing case.numRows = .ok sizing :=
  ⟨(run_config_error { benchmarks := { explicitSizes := [1024, 1020] } } .all).1
      (.recording .new) Disk.empty (sizeFault 1020) rfl rfl,
    (run_config_error {} .full).2 _ rfl⟩

end MatrixConfig

end FixtureMatrix
