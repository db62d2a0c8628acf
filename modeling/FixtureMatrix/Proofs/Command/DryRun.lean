import FixtureMatrix.Proofs.Command.Generate
import FixtureMatrix.Proofs.Matrix.CleanRun
import FixtureMatrix.Proofs.Matrix.Recording

/-!
# Dry runs

A dry run lists the planned jobs, and a run that writes lists the records of what
it wrote.  Both lists are told from the same jobs.

* `listedAs_of_generate`: the record of a job tells what is planned of it.
* `exists_of_exitCode`, `perform_json`: when `generate` succeeds, and what it
  prints then.
* `perform_dry`: a dry run announces what the run that writes reports.
-/

namespace FixtureMatrix

open GenerateOptions

/-! ## What is told of a file -/

/-- An object with the entries of some keys; other values are left as they are. -/
def Json.restrict (keys : List String) : Json → Json
  | .obj entries => .obj (entries.filter fun e => keys.contains e.1)
  | j => j

/-- What is known of a file before it is written. -/
def plannedKeys : List String := ["path", "case", "profile", "rows"]

theorem restrict_writtenFile {j : Job} {a : ArtifactRecord}
    (hpath : a.path = Path.portable j.relativePath) (hcase : a.case = j.label)
    (hprofile : a.profile = j.profile) (hrows : a.rows = j.rows) :
    (writtenFile a).restrict plannedKeys = plannedFile j := by
  rw [plannedFile, ← hpath, ← hcase, ← hprofile, ← hrows]
  rfl

/-- A completion of a job that there was room for, with the rows that are planned and
with a record that tells what is planned. -/
structure Job.ListedAs (j : Job) (c : Completion) : Prop where
  room : j.rows ≤ maxCapacity
  rows : c.rows = j.rows
  artifact : ∃ a, c.artifact = some a ∧ (writtenFile a).restrict plannedKeys = plannedFile j

theorem Job.listedAs_of_generate {j : Job} {enc : Encoder} {output : String}
    {w w' : World enc.State} {c : Completion} (henc : enc.writesFiles = true) (hj : j.Planned)
    (h : j.generate enc output w = (w', .ok c)) : j.ListedAs c := by
  obtain ⟨r, prepared, a, hrequest, -, -, hrecord, rfl⟩ := (generate_eq_ok_iff henc).1 h
  have hrows : r.numRows = j.rows := numRows_of_request hj hrequest
  obtain ⟨bytes, -, rfl⟩ := record_eq_ok_iff.1 hrecord
  have hroom := rows_le_of_request hj hrequest
  exact ⟨hroom, hrows, _, rfl, restrict_writtenFile rfl rfl rfl hrows⟩

theorem map_restrict_of_listed {jobs : List Job} {completed : List Completion}
    (h : List.Forall₂ Job.ListedAs jobs completed) :
    ((completed.filterMap Completion.artifact).map writtenFile).map (Json.restrict plannedKeys) =
      jobs.map plannedFile := by
  induction h with
  | nil => rfl
  | cons hc _ ih =>
    obtain ⟨a, ha, hlisted⟩ := hc.artifact
    rw [List.filterMap_cons_some ha, List.map_cons, List.map_cons, List.map_cons, hlisted, ih]

theorem rows_of_listed {jobs : List Job} {completed : List Completion}
    (h : List.Forall₂ Job.ListedAs jobs completed) :
    completed.foldr (fun c rows => c.rows + rows) 0 =
      jobs.foldr (fun j rows => j.rows + rows) 0 := by
  induction h with
  | nil => rfl
  | cons hc _ ih => rw [List.foldr_cons, List.foldr_cons, hc.rows, ih]

theorem room_of_listed {jobs : List Job} {completed : List Completion}
    (h : List.Forall₂ Job.ListedAs jobs completed) : ∀ j ∈ jobs, j.rows ≤ maxCapacity := by
  induction h with
  | nil => simp
  | cons hc _ ih => exact List.forall_mem_cons.2 ⟨hc.room, ih⟩

/-- The totals of a run that writes are those of its plan, which there was room for. -/
theorem MatrixConfig.totals_of_run {c : MatrixConfig} {enc : Encoder} {d : Disk} {jobs : List Job}
    {s : RunSummary} (henc : enc.writesFiles = true) (hjobs : c.jobs .all = .ok jobs)
    (hrun : (c.run enc .all d).result = .ok s) :
    s.jobs = jobs.length ∧ s.rows = jobs.foldr (fun j rows => j.rows + rows) 0 ∧
      (s.artifacts.map writtenFile).map (Json.restrict plannedKeys) = jobs.map plannedFile ∧
      ∀ j ∈ jobs, j.rows ≤ maxCapacity := by
  obtain ⟨hfailure, hfinish⟩ := run_all_eq_ok henc hjobs hrun
  have hlisted : List.Forall₂ Job.ListedAs jobs (c.execution enc jobs d).completed := by
    have hall := forall₂_of_execute (P := Job.ListedAs)
      (fun j hj w w' completion hgenerate =>
        Job.listedAs_of_generate henc (planned_of_mem_jobs hjobs hj) hgenerate) hfailure
    exact hall
  obtain ⟨between, path, -, -, rfl⟩ := RunSummary.finish_eq_ok hfinish
  exact ⟨hlisted.length_eq.symm, rows_of_listed hlisted, map_restrict_of_listed hlisted,
    room_of_listed hlisted⟩

/-- A run that only records, and refuses no file, records the whole plan if there is
room for it. -/
theorem MatrixConfig.run_recording_all {c : MatrixConfig} {jobs : List Job}
    (hjobs : c.jobs .all = .ok jobs) (hroom : ∀ j ∈ jobs, j.rows ≤ maxCapacity) (d : Disk) :
    (c.run (.recording .new) .all d).disk = d ∧
      (c.run (.recording .new) .all d).completed = jobs.map Job.counted ∧
      (c.run (.recording .new) .all d).result =
        .ok ⟨jobs.length, jobs.foldr (fun j rows => j.rows + rows) 0, 0, [], none⟩ := by
  have hall : ∀ j ∈ jobs, j.accepted Recorder.new.failOn = true := by
    intro j hj
    simp [Job.accepted, Recorder.new, hroom j hj]
  have hstop : jobs.find? (fun j => !j.accepted Recorder.new.failOn) = none := by
    simpa using hall
  have hdone : jobs.takeWhile (Job.accepted Recorder.new.failOn) = jobs := by simpa using hall
  obtain ⟨calls, -, hrun⟩ := run_of_jobs hjobs .new d
  rw [hrun, hstop, hdone]
  exact ⟨rfl, rfl, rfl⟩

/-! ## Reports -/

theorem Transcript.exitCode_eq_zero_iff {t : Transcript} :
    t.exitCode = 0 ↔ t.failure.isSome = false := by
  obtain ⟨output, notes, failure⟩ := t
  rcases failure with _ | (_ | _) <;> simp [exitCode]

/-- A statistic of a report. -/
def statistic? (report : Json) (key : String) : Option Json :=
  (report.get? "statistics").bind fun statistics => statistics.get? key

namespace GenerateOptions

variable {o : GenerateOptions} {c : MatrixConfig} {d : Disk} {s : RunSummary} {jobs : List Job}
  {output : String} {elapsed : Nat}

theorem files_reportJson :
    (o.reportJson output elapsed jobs s).get? "files" =
      some (if o.dryRun then .ofList plannedFile jobs else .ofList writtenFile s.artifacts) := by
  simp [reportJson, Json.get?]

theorem statistic?_reportJson (key : String) :
    statistic? (o.reportJson output elapsed jobs s) key =
      (Json.obj [("jobs", .nat s.jobs), ("rows_written", .nat s.rows),
        ("bytes_written", .nat s.bytes),
        ("elapsed_secs", .float (Binary64.ofDecimal false elapsed (-9)))]).get? key := by
  cases hmanifest : s.manifest <;> simp [statistic?, reportJson, Json.get?, hmanifest]

/-- A run that succeeds is told by its report alone where JSON is asked for. -/
theorem perform_json (hjson : o.json = true) (hconfiguration : o.configuration d = .ok c)
    (hrun : (c.run o.encoder .all d).result = .ok s) :
    o.perform d =
      let run := c.run o.encoder .all d
      let jobs := run.completed.map Completion.job
      (run.disk, fun elapsed => .document (o.reportJson c.output elapsed jobs s)) := by
  rw [perform_of_configuration hconfiguration]
  simp only [told, hrun, notes, hjson, if_true, Transcript.document]

/-- `generate` succeeds if it has a configuration and the run of it succeeds. -/
theorem exists_of_exitCode (h : ((o.perform d).2 elapsed).exitCode = 0) :
    ∃ c s, o.configuration d = .ok c ∧ (c.run o.encoder .all d).result = .ok s := by
  cases hconfiguration : o.configuration d with
  | error e =>
    rw [perform_of_error hconfiguration] at h
    cases h
  | ok c =>
    rw [perform_of_configuration hconfiguration] at h
    cases hresult : (c.run o.encoder .all d).result with
    | error e =>
      have hfailure := Transcript.exitCode_eq_zero_iff.1 h
      simp [told, hresult] at hfailure
    | ok s => exact ⟨c, s, rfl, hresult⟩

/-! ## Announcements -/

/-- A report announces another one: it lists the jobs of a plan, the other lists the
same files in the same order as far as they are known before they are written, and
both count these jobs and their rows. -/
structure Announces (jobs : List Job) (announced written : Json) : Prop where
  planned : announced.get? "files" = some (.ofList plannedFile jobs)
  files : ∃ files, written.get? "files" = some (.arr files) ∧
    announced.get? "files" = some (.arr (files.map (Json.restrict plannedKeys)))
  count : ∀ report ∈ [announced, written],
    statistic? report "jobs" = some (.nat jobs.length)
  rows : ∀ report ∈ [announced, written],
    statistic? report "rows_written" = some (.nat (jobs.foldr (fun j rows => j.rows + rows) 0))

theorem announces_reportJson {dry real : GenerateOptions} {t : RunSummary} {jobs' : List Job}
    {output' : String} {elapsed' : Nat} (hdry : dry.dryRun = true) (hreal : real.dryRun = false)
    (ht : t.jobs = jobs.length ∧ t.rows = jobs.foldr (fun j rows => j.rows + rows) 0)
    (hs : s.jobs = jobs.length ∧ s.rows = jobs.foldr (fun j rows => j.rows + rows) 0)
    (hlisted : (s.artifacts.map writtenFile).map (Json.restrict plannedKeys) =
      jobs.map plannedFile) :
    Announces jobs (dry.reportJson output elapsed jobs t)
      (real.reportJson output' elapsed' jobs' s) := by
  have hplanned : (dry.reportJson output elapsed jobs t).get? "files" =
      some (.ofList plannedFile jobs) := by
    rw [files_reportJson, hdry]
    rfl
  constructor
  case planned => exact hplanned
  case files =>
    refine ⟨s.artifacts.map writtenFile, ?_, ?_⟩
    · rw [files_reportJson, hreal]
      rfl
    · rw [hplanned, hlisted]
      rfl
  case count => simp [statistic?_reportJson, Json.get?, ht, hs]
  case rows => simp [statistic?_reportJson, Json.get?, ht, hs]

/-- The same options for a dry run. -/
def dry (o : GenerateOptions) : GenerateOptions :=
  { o with dryRun := true }

/-- A dry run announces what the run that writes reports: where this succeeds, on
whatever disk and with whatever options, so does a dry run with the same options; it
leaves the disk as it is, and its report of the plan announces that of the other
run. -/
theorem perform_dry (hjson : o.json = true) (hwrites : o.dryRun = false)
    (h : ((o.perform d).2 elapsed).exitCode = 0) (elapsed' : Nat) :
    (o.dry.perform d).1 = d ∧ ((o.dry.perform d).2 elapsed').exitCode = 0 ∧
      ∃ c jobs announced written,
        o.configuration d = .ok c ∧ c.plan = .ok jobs ∧
        (o.dry.perform d).2 elapsed' = .document announced ∧
        (o.perform d).2 elapsed = .document written ∧
        Announces jobs announced written := by
  obtain ⟨c, s, hconfiguration, hrun⟩ := exists_of_exitCode h
  obtain ⟨jobs, hjobs⟩ := MatrixConfig.exists_jobs_of_run hrun
  obtain ⟨-, hplan⟩ := MatrixConfig.jobs_eq_ok_iff.1 hjobs
  -- the files that are written are listed as they are planned
  have hwriting : o.encoder.writesFiles = true := by
    rw [encoder, hwrites]
    rfl
  obtain ⟨hcount, hrows, hlisted, hroom⟩ := MatrixConfig.totals_of_run hwriting hjobs hrun
  have hreal := perform_json hjson hconfiguration hrun
  -- the dry run has the same configuration, and records its plan
  obtain ⟨hdisk, hcompleted, hrecorded⟩ := MatrixConfig.run_recording_all hjobs hroom d
  have hdry := perform_json (o := o.dry) hjson hconfiguration hrecorded
  rw [hdry, hreal]
  refine ⟨hdisk, rfl, c, jobs, _, _, hconfiguration, hplan, rfl, rfl, ?_⟩
  have hannounced : (c.run o.dry.encoder .all d).completed.map Completion.job = jobs := by
    show (c.run (.recording .new) .all d).completed.map Completion.job = jobs
    rw [hcompleted, List.map_map]
    exact List.map_id jobs
  rw [hannounced]
  exact announces_reportJson rfl hwrites ⟨rfl, rfl⟩ ⟨hcount, hrows⟩ hlisted

/-- Options for the canonical cases under one profile. -/
def casesOnly : GenerateOptions where
  output := some "o"
  config := some "one.yaml"
  skipMatrix := false
  skipBench := true
  progress := false
  verbose := false
  dryRun := false
  json := true

/-- A configuration of one profile. -/
def oneProfile : Disk :=
  withConfigurations [
    ("one.yaml", "page_versions: [1]\ndictionary: [false]\ncodecs: [none]\n")]

/-- The canonical cases are announced as they are written. -/
theorem perform_dry_casesOnly :
    ((casesOnly.perform oneProfile).2 1).exitCode = 0 ∧
      (casesOnly.dry.perform oneProfile).1 = oneProfile ∧
      ((casesOnly.dry.perform oneProfile).2 0).exitCode = 0 ∧
      ∃ c jobs announced written,
        casesOnly.configuration oneProfile = .ok c ∧ c.plan = .ok jobs ∧
        (casesOnly.dry.perform oneProfile).2 0 = .document announced ∧
        (casesOnly.perform oneProfile).2 1 = .document written ∧
        Announces jobs announced written := by
  have hexit : ((casesOnly.perform oneProfile).2 1).exitCode = 0 :=
    Transcript.exitCode_eq_zero_iff.2 (by decide +kernel)
  exact ⟨hexit, perform_dry rfl rfl hexit 0⟩

end GenerateOptions

end FixtureMatrix
