import FixtureMatrix.Proofs.Matrix.Names
import FixtureMatrix.Proofs.Matrix.Requests
import Mathlib.Data.List.TakeWhile

/-!
# Recorded runs

A run with a recording encoder executes its plan in order, up to the first job whose
rows have no room in a vector or whose file the encoder refuses.

* `generate_of_accepted`, `generate_of_not_accepted`: one planned job is recorded, or
  it is where the run ends.
* `execute_recording`: so are several, and the first that is not recorded ends them.
* `run_of_jobs`: memory, notes and result of a run of any pass.
* `run_recording`: the calls, the progress notes and the result of a whole run.
* `run_recording_oversize`: accepted settings whose run panics.
-/

namespace FixtureMatrix

/-! ## One job -/

/-- The call that is recorded of a job. -/
structure Job.RecordedAs (output : String) (j : Job) (call : RecordedCall) : Prop where
  path : call.path = Path.join output j.relativePath
  rows : call.rows = j.rows
  fields : ∃ c, j.buildCase = .ok c ∧ call.fields = c.schema.names
  pageVersion : call.pageVersion = j.profile.pageVersion
  dictionary : call.dictionary = j.profile.dictionary
  compression : call.compression = j.profile.compression
  sizing : j.profile.layout.sizing j.rows = .ok call.sizing
  writeStatistics : call.writeStatistics = true

/-- What a recorded job adds to the totals: its rows, and no file. -/
def Job.counted (j : Job) : Completion :=
  ⟨j, j.rows, none⟩

/-- Whether a run that refuses files of one name records a job. -/
def Job.accepted (failOn : Option String) (j : Job) : Bool :=
  j.rows ≤ maxCapacity ∧ failOn ≠ some j.fileName

/-- How a run ends at a job that is not recorded.  The rows are built before the
encoder sees the name of the file. -/
def Job.obstacle (output : String) (j : Job) : Halt FixtureError :=
  if maxCapacity < j.rows then .panicked .capacityOverflow
  else .returned (.adapter j.label j.profile (Path.join output j.relativePath)
    (.unsupported (.rejected j.fileName)))

namespace Recorder

variable {m : Recorder} {r : EncodeRequest}

/-- The recorder with more calls. -/
def append (m : Recorder) (calls : List RecordedCall) : Recorder :=
  { m with calls := m.calls ++ calls }

@[simp] theorem failOn_append (m : Recorder) (calls : List RecordedCall) :
    (m.append calls).failOn = m.failOn := rfl

@[simp] theorem append_nil (m : Recorder) : m.append [] = m := by
  simp [append]

@[simp] theorem append_append (m : Recorder) (calls more : List RecordedCall) :
    (m.append calls).append more = m.append (calls ++ more) := by
  simp [append]

theorem record_of_ne (h : m.failOn ≠ some r.fileName) :
    m.record r = (m.append [.ofRequest r], .ok ()) := by
  rw [record, if_neg h, append]

theorem record_of_eq (h : m.failOn = some r.fileName) :
    m.record r = (m, .error (.unsupported (.rejected r.fileName))) := by
  rw [record, if_pos h]

end Recorder

namespace Job

variable {j : Job} {start m : Recorder} {output : String} {r : EncodeRequest} {d : Disk}

theorem recordedAs_of_request (h : j.Planned) (hrequest : j.request output = .ok r) :
    j.RecordedAs output (.ofRequest r) := by
  obtain ⟨c, sizing, hc, hrows, hsizing, hplanned⟩ :=
    request_of_planned h (rows_le_of_request h hrequest) output
  rw [hplanned] at hrequest
  cases hrequest
  exact {
    path := rfl
    rows := hrows
    fields := ⟨c, hc, rfl⟩
    pageVersion := rfl
    dictionary := rfl
    compression := rfl
    sizing := hsizing
    writeStatistics := rfl }

theorem fileName_of_request (h : j.Planned) (hrequest : j.request output = .ok r) :
    r.fileName = j.fileName := by
  rw [EncodeRequest.fileName, path_of_request hrequest, fileName?_path h, Option.getD_some]

/-- A planned job that is not refused is recorded, and the disk stays as it is. -/
theorem generate_of_accepted (h : j.Planned) (haccepted : j.accepted m.failOn = true)
    (start : Recorder) (output : String) (d : Disk) :
    ∃ call, j.RecordedAs output call ∧
      j.generate (.recording start) output ⟨m, d⟩ = (⟨m.append [call], d⟩, .ok j.counted) := by
  obtain ⟨hroom, hname⟩ := of_decide_eq_true haccepted
  obtain ⟨r, hrequest⟩ := exists_request h hroom output
  have hrows := numRows_of_request h hrequest
  rw [← fileName_of_request h hrequest] at hname
  refine ⟨.ofRequest r, recordedAs_of_request h hrequest, ?_⟩
  simp [generate, hrequest, Encoder.prepare, Encoder.recording, Recorder.record_of_ne hname,
    counted, hrows]

/-- Any other planned job is where a run ends, and nothing is remembered of it. -/
theorem generate_of_not_accepted (h : j.Planned) (hnot : j.accepted m.failOn = false) :
    j.generate (.recording start) output ⟨m, d⟩ = (⟨m, d⟩, .error (j.obstacle output)) := by
  have hstop := of_decide_eq_false hnot
  by_cases hover : maxCapacity < j.rows
  · simp only [generate, request_of_oversize h hover, obstacle, if_pos hover]
  · have hroom := Nat.not_lt.1 hover
    have hname : m.failOn = some j.fileName := by
      by_contra hne
      exact hstop ⟨hroom, hne⟩
    obtain ⟨r, hrequest⟩ := exists_request h hroom output
    have hfile := fileName_of_request h hrequest
    have hpath := path_of_request hrequest
    rw [← hfile] at hname
    simp [generate, hrequest, Encoder.prepare, Encoder.recording, Recorder.record_of_eq hname,
      obstacle, hover, hfile, hpath, path]

end Job

/-! ## Several jobs -/

/-- Behind `i` others, the jobs in front of the first that is not recorded are. -/
theorem execute_recording {jobs : List Job} (h : ∀ j ∈ jobs, j.Planned) (start : Recorder)
    (output : String) (total i : Nat) (m : Recorder) (d : Disk) :
    let done := jobs.takeWhile (Job.accepted m.failOn)
    ∃ calls, List.Forall₂ (Job.RecordedAs output) done calls ∧
      execute (.recording start) output total i jobs ⟨m, d⟩ =
        ⟨⟨m.append calls, d⟩, done.map Job.counted,
          done.mapIdx fun k j => (i + k + 1, total, j),
          (jobs.find? fun j => !j.accepted m.failOn).map (Job.obstacle output)⟩ := by
  induction jobs generalizing i m with
  | nil => exact ⟨[], .nil, by simp [execute]⟩
  | cons j jobs ih =>
    obtain ⟨hj, hjobs⟩ := List.forall_mem_cons.1 h
    cases haccepted : j.accepted m.failOn with
    | false =>
      refine ⟨[], ?_, ?_⟩
      · simp [haccepted]
      · simp [execute, Job.generate_of_not_accepted hj haccepted, haccepted]
    | true =>
      obtain ⟨call, hcall, hgenerate⟩ :=
        Job.generate_of_accepted hj haccepted start output d
      obtain ⟨calls, hcalls, hrest⟩ := ih hjobs (i + 1) (m.append [call])
      rw [Recorder.failOn_append] at hcalls hrest
      refine ⟨call :: calls, ?_, ?_⟩
      · rw [List.takeWhile_cons_of_pos haccepted]
        exact .cons hcall hcalls
      · have hcount : ∀ k, i + 1 + k + 1 = i + (k + 1) + 1 := by omega
        rw [execute, hgenerate]
        simp [hrest, haccepted, List.mapIdx_cons, hcount]

/-- What is read off the calls of jobs can be read off the jobs. -/
theorem map_of_recorded {α : Type} {output : String} {jobs : List Job} {calls : List RecordedCall}
    {f : RecordedCall → α} {g : Job → α}
    (hone : ∀ j call, j.RecordedAs output call → f call = g j)
    (h : List.Forall₂ (Job.RecordedAs output) jobs calls) : calls.map f = jobs.map g := by
  induction h with
  | nil => rfl
  | cons hcall _ ih => rw [List.map_cons, List.map_cons, hone _ _ hcall, ih]

/-- Recorded jobs count by their rows, and leave no file. -/
theorem ofCompleted_counted (jobs : List Job) :
    RunSummary.ofCompleted (jobs.map Job.counted) =
      ⟨jobs.length, jobs.foldr (fun j rows => j.rows + rows) 0, 0, [], none⟩ := by
  have hartifacts : (jobs.map Job.counted).filterMap Completion.artifact = [] := by
    simp [List.filterMap_map, Function.comp_def, Job.counted]
  rw [RunSummary.ofCompleted, hartifacts, List.foldr_map, List.length_map]
  rfl

/-! ## The whole run -/

namespace MatrixConfig

variable {c : MatrixConfig} {jobs : List Job} {pass : Pass}

/-- A recording run of any pass records the jobs in front of the first that it cannot
record, and ends there or with the totals of its plan. -/
theorem run_of_jobs (hjobs : c.jobs pass = .ok jobs) (m : Recorder) (d : Disk) :
    let done := jobs.takeWhile (Job.accepted m.failOn)
    ∃ calls, List.Forall₂ (Job.RecordedAs c.output) done calls ∧
      c.run (.recording m) pass d =
        ⟨⟨m.append calls, d⟩, done.map Job.counted, done.mapIdx fun i j => (i + 1, jobs.length, j),
          match jobs.find? fun j => !j.accepted m.failOn with
          | some j => .error (j.obstacle c.output)
          | none =>
            .ok ⟨jobs.length, jobs.foldr (fun j rows => j.rows + rows) 0, 0, [], none⟩⟩ := by
  have hplanned : ∀ j ∈ jobs, j.Planned := fun j hj => planned_of_mem_jobs hjobs hj
  obtain ⟨calls, hcalls, hrun⟩ := execute_recording hplanned m c.output jobs.length 0 m d
  refine ⟨calls, hcalls, ?_⟩
  have hexecution : c.execution (.recording m) jobs d = _ := hrun
  simp only [run, hjobs, hexecution, Nat.zero_add]
  cases hfind : jobs.find? fun j => !j.accepted m.failOn with
  | some j => rfl
  | none =>
    have hall : jobs.takeWhile (Job.accepted m.failOn) = jobs := by
      simpa using List.find?_eq_none.1 hfind
    simp only [Option.map_none, hall, ofCompleted_counted]
    simp

/-- A run executes its plan in order, up to the first job that has no room for its rows
or whose file is refused: the encoder remembers the calls of the jobs before it and no
others, each of these jobs is noted, and the result is the totals of the plan where
there is no such job.  Where there is one, the run panics or returns the encoder's
error; it tells the file to be refused only if there is room. -/
theorem run_recording (hvalid : c.validate = .ok ()) (hplan : c.plan = .ok jobs) (m : Recorder)
    (d : Disk) :
    let o := c.run (.recording m) .all d
    let done := jobs.takeWhile fun j => j.rows ≤ maxCapacity ∧ m.failOn ≠ some j.fileName
    (∃ calls, List.Forall₂ (Job.RecordedAs c.output) done calls ∧
      o.memory = { m with calls := m.calls ++ calls }) ∧
    o.progress = done.mapIdx (fun i j => (i + 1, jobs.length, j)) ∧
    o.disk = d ∧
    o.result =
      match jobs.find? fun j => maxCapacity < j.rows ∨ m.failOn = some j.fileName with
      | some j =>
        if maxCapacity < j.rows then .error (.panicked .capacityOverflow)
        else .error (.returned (.adapter j.label j.profile (Path.join c.output j.relativePath)
          (.unsupported (.rejected j.fileName))))
      | none => .ok {
          jobs := jobs.length
          rows := jobs.foldr (fun j rows => j.rows + rows) 0
          bytes := 0
          artifacts := []
          manifest := none } := by
  have hjobs : c.jobs .all = .ok jobs := jobs_eq_ok_iff.2 ⟨hvalid, hplan⟩
  obtain ⟨calls, hcalls, hrun⟩ := run_of_jobs hjobs m d
  intro o done
  have ho : o = _ := hrun
  rw [ho]
  refine ⟨⟨calls, hcalls, rfl⟩, rfl, rfl, ?_⟩
  have hstop : (fun j : Job => decide (maxCapacity < j.rows ∨ m.failOn = some j.fileName)) =
      fun j => !j.accepted m.failOn := by
    funext j
    simp only [Job.accepted, ← decide_not, not_and_or, Nat.not_le, not_not, ne_eq]
  rw [hstop]
  cases jobs.find? fun j => !j.accepted m.failOn with
  | none => rfl
  | some j =>
    simp only [Job.obstacle]
    split_ifs <;> rfl

/-- Benchmark files of two row counts below `out`. -/
def twoSizes : MatrixConfig :=
  { output := "out", matrix := false, benchmarks := { explicitSizes := [16, 8] } }

/-- A recorder that has a call already and refuses a file of the second row count. -/
def refusing : Recorder where
  calls := [⟨"a.parquet", [], 0, .v1, false, .none, ⟨1, none⟩, false⟩]
  failOn := some "benches_8.parquet"

/-- The files of the first row count are recorded, behind the call that was there. -/
theorem run_recording_two_sizes :
    let o := twoSizes.run (.recording refusing) .all Disk.empty
    o.memory.calls.map (fun call => (call.path, call.rows)) =
      [("a.parquet", 0), ("out/v1/dict/benches_16.parquet", 16), ("out/v1/benches_16.parquet", 16),
        ("out/v1/benches_required_16.parquet", 16), ("out/v1/multi/benches_16.parquet", 16),
        ("out/v1/multi/snappy/benches_16.parquet", 16), ("out/v1/snappy/benches_16.parquet", 16)] ∧
    o.progress.map (fun note => (note.1, note.2.1, note.2.2.label)) =
      [(1, 12, "benches_16"), (2, 12, "benches_16"), (3, 12, "benches_required_16"),
        (4, 12, "benches_16"), (5, 12, "benches_16"), (6, 12, "benches_16")] ∧
    o.disk = Disk.empty ∧
    o.result = .error (.returned (.adapter "benches_8" ⟨.v1, true, .single, .none⟩
      "out/v1/dict/benches_8.parquet" (.unsupported (.rejected "benches_8.parquet")))) := by
  obtain ⟨⟨calls, hcalls, hmemory⟩, hprogress, hdisk, hresult⟩ :=
    run_recording (c := twoSizes) rfl rfl refusing Disk.empty
  refine ⟨?calls, ?progress, hdisk, ?result⟩
  case calls =>
    have hnew := map_of_recorded (f := fun call => (call.path, call.rows))
      (g := fun j => (Path.join twoSizes.output j.relativePath, j.rows))
      (fun _ _ hcall => Prod.ext hcall.path hcall.rows) hcalls
    rw [hmemory, List.map_append, hnew]
    decide +kernel
  case progress =>
    rw [hprogress]
    rfl
  case result =>
    have hpath : Path.join "out" (Job.bench .nullable 8 ⟨.v1, true, .single, .none⟩).relativePath =
        "out/v1/dict/benches_8.parquet" := by decide +kernel
    rw [hresult, ← hpath]
    rfl

/-- A row count without bound is accepted and planned, and the run panics at its first
job; nothing was recorded or noted. -/
theorem run_recording_oversize :
    let c : MatrixConfig :=
      { matrix := false, benchmarks := { explicitSizes := [Nat.pow 2 60] } }
    let o := c.run (.recording .new) .all Disk.empty
    c.validate = .ok () ∧ c.plan = .ok (Job.benches [Nat.pow 2 60]) ∧
      o.result = .error (.panicked .capacityOverflow) ∧ o.memory.callCount = 0 ∧
      o.progress = [] :=
  ⟨rfl, rfl, rfl, rfl, rfl⟩

end MatrixConfig

end FixtureMatrix
