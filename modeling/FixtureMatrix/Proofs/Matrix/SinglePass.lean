import FixtureMatrix.Proofs.Matrix.Execution
import FixtureMatrix.Proofs.Matrix.Places
import FixtureMatrix.Proofs.Matrix.Recording

/-!
# Files of a single pass

A single pass can be run although the settings do not enable it, and then its
lists are not checked for repeated values.

* `paths_nodup_iff`: a recorded pass writes no file twice exactly when it takes
  no place twice.
* `run_single_pass_paths`: so it depends on the lists of its own settings, and
  an enabled pass never does.
* `run_disabled_full_repeats`: a disabled one can.
-/

namespace FixtureMatrix

open FixtureMatrix.Path

namespace Job

variable {a b : Job}

/-- Two planned jobs have one path exactly when they have one place. -/
theorem components_relativePath_eq_iff (ha : a.Planned) (hb : b.Planned) :
    components a.relativePath = components b.relativePath ↔ a.place = b.place := by
  constructor
  · exact place_eq_of_components ha hb
  · intro h
    obtain ⟨hname, hprofile⟩ := Prod.mk.inj h
    rw [relativePath, relativePath, hname, hprofile]

/-- Below an output root the paths are still told apart. -/
theorem components_path_eq_iff (ha : a.Planned) (hb : b.Planned) {output : String} :
    components (a.path output) = components (b.path output) ↔ a.place = b.place := by
  have hlead : ∀ {j : Job}, j.Planned → lead j.relativePath = [] := fun hj =>
    lead_ofSegments (by simp) (isName_of_mem_steps hj)
  rw [path, path, components_join (hlead ha), components_join (hlead hb),
    List.append_cancel_left_eq, components_relativePath_eq_iff ha hb]

end Job

namespace MatrixConfig

variable {c : MatrixConfig} {pass : Pass} {jobs : List Job} {failOn : Option String} {d : Disk}
  {s : RunSummary}

/-! ## One pass -/

/-- A recording run that succeeds has recorded its jobs, each by one call. -/
theorem calls_of_run_recording (h : (c.run (.recording ⟨[], failOn⟩) pass d).result = .ok s) :
    ∃ jobs, c.jobs pass = .ok jobs ∧ List.Forall₂ (Job.RecordedAs c.output) jobs
      (c.run (.recording ⟨[], failOn⟩) pass d).memory.calls := by
  obtain ⟨jobs, hjobs⟩ := exists_jobs_of_run h
  obtain ⟨calls, hcalls, hrun⟩ := run_of_jobs hjobs ⟨[], failOn⟩ d
  rw [hrun] at h ⊢
  refine ⟨jobs, hjobs, ?_⟩
  cases hfind : jobs.find? fun j => !j.accepted failOn with
  | some j =>
    simp only [hfind] at h
    cases h
  | none =>
    have hall : jobs.takeWhile (Job.accepted failOn) = jobs := by
      simpa using List.find?_eq_none.1 hfind
    rw [hall] at hcalls
    exact hcalls

theorem paths_of_recorded {output : String} {calls : List RecordedCall}
    (h : List.Forall₂ (Job.RecordedAs output) jobs calls) :
    calls.map (fun r => components r.path) = jobs.map fun j => components (j.path output) :=
  map_of_recorded (fun _ _ hcall => congrArg components hcall.path) h

/-- A recorded pass writes no file twice exactly when no place is planned twice. -/
theorem paths_nodup_iff (h : (c.run (.recording ⟨[], failOn⟩) pass d).result = .ok s)
    (hplan : c.planPass pass = .ok jobs) :
    ((c.run (.recording ⟨[], failOn⟩) pass d).memory.calls.map fun r => components r.path).Nodup ↔
      (jobs.map Job.place).Nodup := by
  obtain ⟨jobs', hjobs, hcalls⟩ := calls_of_run_recording h
  obtain rfl : jobs' = jobs := Except.ok.inj ((jobs_eq_ok_iff.1 hjobs).2.symm.trans hplan)
  have hplanned : ∀ j ∈ jobs', j.Planned := fun j hj => planned_of_mem_planPass hplan hj
  rw [paths_of_recorded hcalls, List.Nodup, List.Nodup, List.pairwise_map, List.pairwise_map]
  constructor
  · intro hpaths
    refine hpaths.imp_of_mem fun ha hb hne heq => ?_
    exact hne ((Job.components_path_eq_iff (hplanned _ ha) (hplanned _ hb)).2 heq)
  · intro hplaces
    refine hplaces.imp_of_mem fun ha hb hne heq => ?_
    exact hne ((Job.components_path_eq_iff (hplanned _ ha) (hplanned _ hb)).1 heq)

/-! ## Each pass -/

theorem validate_of_run_ok {enc : Encoder} (h : (c.run enc pass d).result = .ok s) :
    c.validate = .ok () := by
  cases hjobs : c.jobs pass with
  | error e =>
    simp only [run, hjobs] at h
    cases h
  | ok jobs => exact (jobs_eq_ok_iff.1 hjobs).1

theorem full_paths_nodup_iff (h : (c.run (.recording ⟨[], failOn⟩) .full d).result = .ok s) :
    ((c.run (.recording ⟨[], failOn⟩) .full d).memory.calls.map fun r => components r.path).Nodup ↔
      (c.pageVersions ×ˢ c.dictionary ×ˢ c.codecs).Nodup := by
  rw [paths_nodup_iff h rfl, places_nodup_planFull_iff]

theorem bench_paths_nodup_iff (h : (c.run (.recording ⟨[], failOn⟩) .bench d).result = .ok s) :
    ((c.run (.recording ⟨[], failOn⟩) .bench d).memory.calls.map fun r => components r.path).Nodup ↔
      c.benchmarks.sizes.Nodup := by
  obtain ⟨jobs, hjobs, -⟩ := calls_of_run_recording h
  have hplan : c.planBench = .ok jobs := (jobs_eq_ok_iff.1 hjobs).2
  obtain ⟨-, rfl⟩ := planBench_eq_ok_iff.1 hplan
  rw [paths_nodup_iff h hplan, Job.places_nodup_benches_iff]

/-- A recorded single pass writes no file twice exactly when its own settings
list nothing twice: no combination of page version, dictionary and codec, and no
row count.  This always holds of a pass that the settings enable. -/
theorem run_single_pass_paths (c : MatrixConfig) (failOn : Option String) (d : Disk) :
    (∀ s, (c.run (.recording ⟨[], failOn⟩) .full d).result = .ok s →
      (((c.run (.recording ⟨[], failOn⟩) .full d).memory.calls.map
          fun r => components r.path).Nodup ↔
        (c.pageVersions ×ˢ c.dictionary ×ˢ c.codecs).Nodup) ∧
      (c.matrix = true →
        ((c.run (.recording ⟨[], failOn⟩) .full d).memory.calls.map
          fun r => components r.path).Nodup)) ∧
    ∀ s, (c.run (.recording ⟨[], failOn⟩) .bench d).result = .ok s →
      (((c.run (.recording ⟨[], failOn⟩) .bench d).memory.calls.map
          fun r => components r.path).Nodup ↔
        c.benchmarks.sizes.Nodup) ∧
      (c.benchmarks.enabled = true →
        ((c.run (.recording ⟨[], failOn⟩) .bench d).memory.calls.map
          fun r => components r.path).Nodup) := by
  constructor
  · intro s hrun
    refine ⟨full_paths_nodup_iff hrun, fun hon => ?_⟩
    have hsettings := (validate_eq_ok_iff.1 (validate_of_run_ok hrun)).1 hon
    obtain ⟨-, hversions, hdictionary, hcodecs⟩ := checkMatrix_eq_ok_iff.1 hsettings
    exact (full_paths_nodup_iff hrun).2 (hversions.product (hdictionary.product hcodecs))
  · intro s hrun
    refine ⟨bench_paths_nodup_iff hrun, fun hon => ?_⟩
    have hsettings := (validate_eq_ok_iff.1 (validate_of_run_ok hrun)).2 hon
    exact (bench_paths_nodup_iff hrun).2 (BenchConfig.sizes_nodup hsettings)

/-- A pass that is not enabled can still be run, and its files are apart where
its lists do not repeat a value. -/
theorem run_single_pass_paths_disabled :
    let c : MatrixConfig :=
      { matrix := false, pageVersions := [.v2], dictionary := [true], codecs := [.zstd, .gzip],
        benchmarks := { enabled := false, explicitSizes := [8, 24] } }
    ((c.run (.recording ⟨[], none⟩) .full Disk.empty).memory.calls.map
        fun r => components r.path).Nodup ∧
      ((c.run (.recording ⟨[], none⟩) .bench Disk.empty).memory.calls.map
        fun r => components r.path).Nodup := by
  intro c
  obtain ⟨hfull, hbench⟩ := run_single_pass_paths c none Disk.empty
  exact ⟨(hfull _ rfl).1.2 (by decide), (hbench _ rfl).1.2 (by decide)⟩

/-- The canonical pass is run with a codec listed twice, as it is not enabled
and so not checked: each of its files is written twice. -/
theorem run_disabled_full_repeats :
    let c : MatrixConfig :=
      { matrix := false, pageVersions := [.v1], dictionary := [false], codecs := [.lz4, .lz4],
        benchmarks := { enabled := false } }
    (∃ s, (c.run (.recording ⟨[], none⟩) .full Disk.empty).result = .ok s) ∧
      ¬ ((c.run (.recording ⟨[], none⟩) .full Disk.empty).memory.calls.map fun r =>
        components r.path).Nodup := by
  intro c
  refine ⟨⟨_, rfl⟩, ?_⟩
  rw [full_paths_nodup_iff rfl]
  decide

end MatrixConfig

end FixtureMatrix
