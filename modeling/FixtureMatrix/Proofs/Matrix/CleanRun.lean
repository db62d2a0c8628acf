import FixtureMatrix.Proofs.Manifest.Reload
import FixtureMatrix.Proofs.Matrix.Written

/-!
# Runs that verify clean

A run of all enabled passes ends with a manifest, and a verification after it
finds every file as it was recorded.

* `run_all_eq_ok`: what a run that succeeded has done.
* `OnlyPlanned.writesOnly`: files at planned paths are all that a run adds.
* `run_verifies`: the manifest of a run, and what a verification makes of it.

No file is stray unless the output root starts with a single dot that has names
behind it: a search leaves such a dot out, and then the root is not recognized
in front of what is found.
-/

namespace FixtureMatrix

open FixtureMatrix.Path

/-! ## The manifest's place -/

/-- No job writes its file where the manifest stands. -/
theorem Job.target_ne_manifest {j : Job} (hj : j.Planned) (output : String) (d : Disk) :
    d.target (j.path output) ≠ d.target (join output manifestFile) := by
  intro heq
  rw [target_path hj, Disk.target_manifest, List.append_cancel_left_eq] at heq
  have hlength := congrArg List.length heq
  simp [names, Profile.segments] at hlength

/-! ## Files at planned paths -/

/-- All files below an output root that a search looks for lie at paths of jobs. -/
def Disk.OnlyPlanned (d : Disk) (output : String) (jobs : List Job) : Prop :=
  ∀ names ∈ d.filesBelow (d.target output),
    (names.getLast?.map Disk.hasParquetEnding).getD false = true →
      ∃ j ∈ jobs, ofSegments names = j.relativePath

/-- The files of jobs, and a manifest, lie at planned paths or are not searched for. -/
theorem Disk.OnlyPlanned.writesOnly {d d' : Disk} {output : String} {jobs : List Job}
    {keys : List (List String)} (h : d.OnlyPlanned output jobs)
    (hplanned : ∀ j ∈ jobs, j.Planned) (hwrites : d.WritesOnly keys d')
    (hkeys : ∀ key ∈ keys, key = d.target (join output manifestFile) ∨
      ∃ j ∈ jobs, key = d.target (j.path output)) : d'.OnlyPlanned output jobs := by
  intro names hnames hending
  rw [hwrites.target] at hnames
  obtain ⟨hne, content, hentry⟩ := mem_filesBelow_iff.1 hnames
  rcases hwrites.sources _ _ hentry with hnew | hold
  · rcases hkeys _ hnew with hmanifest | ⟨j, hj, hjob⟩
    · rw [target_manifest, List.append_cancel_left_eq] at hmanifest
      have hother : hasParquetEnding manifestFile = false := by decide
      rw [hmanifest] at hending
      simp [hother] at hending
    · rw [Job.target_path (hplanned j hj), List.append_cancel_left_eq] at hjob
      exact ⟨j, hj, congrArg ofSegments hjob⟩
  · exact h names (mem_filesBelow_iff.2 ⟨hne, content, hold⟩) hending

/-! ## What a run has done -/

theorem RunSummary.finish_eq_ok {s t : RunSummary} {output : String} {d d' : Disk}
    (h : s.finish output d = (d', .ok t)) :
    ∃ between path, d.createDirectories output = .ok between ∧
      (Manifest.ofRecords s.artifacts).write output between = .ok (path, d') ∧
      t = { s with manifest := some path } := by
  rw [finish] at h
  split at h
  · cases h
  · next between hcreated =>
    split at h
    · cases h
    · next path written hwrite =>
      obtain ⟨rfl, ht⟩ := Prod.mk.inj h
      exact ⟨between, path, hcreated, hwrite, (Except.ok.inj ht).symm⟩

/-- Whether a run succeeded, with records that fit. -/
def RunOutcome.fits {σ : Type} (o : RunOutcome σ) : Bool :=
  match o.result with
  | .ok s => decide (∀ r ∈ s.artifacts, r.Fits)
  | .error _ => false

theorem RunOutcome.exists_of_fits {σ : Type} {o : RunOutcome σ} (h : o.fits = true) :
    ∃ s, o.result = .ok s ∧ ∀ r ∈ s.artifacts, r.Fits := by
  rw [fits] at h
  split at h
  · next s hs => exact ⟨s, hs, of_decide_eq_true h⟩
  · cases h

namespace MatrixConfig

variable {c : MatrixConfig} {enc : Encoder} {d : Disk} {jobs : List Job} {s : RunSummary}

theorem planned_of_jobs (hjobs : c.jobs .all = .ok jobs) :
    (∀ j ∈ jobs, j.Planned) ∧ (jobs.map Job.place).Nodup := by
  obtain ⟨hvalid, hplan⟩ := jobs_eq_ok_iff.1 hjobs
  exact ⟨fun j hj => planned_of_mem_plan hplan hj, places_nodup hvalid hplan⟩

/-- The paths of a run's jobs are distinct. -/
theorem relativePaths_nodup (hjobs : c.jobs .all = .ok jobs) :
    (jobs.map Job.relativePath).Nodup := by
  obtain ⟨hvalid, hplan⟩ := jobs_eq_ok_iff.1 hjobs
  have hpaths := (paths_apart hvalid hplan).1
  rw [List.Nodup, List.pairwise_map] at hpaths ⊢
  exact hpaths.imp fun hne heq => hne (congrArg components heq)

/-- A run that succeeded generated all its jobs, and then wrote the manifest. -/
theorem run_all_eq_ok (henc : enc.writesFiles = true) (hjobs : c.jobs .all = .ok jobs)
    (hrun : (c.run enc .all d).result = .ok s) :
    let x := c.execution enc jobs d
    x.failure = none ∧
      (RunSummary.ofCompleted x.completed).finish c.output x.disk =
        ((c.run enc .all d).disk, .ok s) := by
  intro x
  cases hfailure : x.failure with
  | some e =>
    rw [run_all_of_some hjobs hfailure] at hrun
    cases hrun
  | none =>
    rw [run_all_of_none henc hjobs hfailure] at hrun ⊢
    exact ⟨rfl, Prod.ext rfl (mapError_eq_ok_iff.1 hrun)⟩

/-- What a run that succeeded leaves: the files of its jobs, each as recorded, and
the manifest of the records. -/
structure Leaves (c : MatrixConfig) (jobs : List Job) (d d' : Disk) (s : RunSummary) : Prop where
  count : s.jobs = jobs.length
  size : s.bytes = s.artifacts.foldr (fun r bytes => r.bytes + bytes) 0
  records : List.Forall₂ (Job.RecordedOn c.output d') jobs s.artifacts
  written : ∃ between path, (Manifest.ofRecords s.artifacts).write c.output between =
    .ok (path, d')
  keys : ∃ keys, d.WritesOnly keys d' ∧
    ∀ key ∈ keys, key = d.target (join c.output manifestFile) ∨
      ∃ j ∈ jobs, key = d.target (j.path c.output)

/-- The jobs of a run write at their own paths, from its start on. -/
theorem execution_writes (henc : enc.WritesAtPath) (hjobs : c.jobs .all = .ok jobs)
    (hfailure : (c.execution enc jobs d).failure = none) :
    d.WritesOnly (jobs.map fun j => d.target (j.path c.output)) (c.execution enc jobs d).disk ∧
      List.Forall₂ (Job.CompletedOn c.output (c.execution enc jobs d).disk) jobs
        (c.execution enc jobs d).completed := by
  obtain ⟨hplanned, hplaces⟩ := planned_of_jobs hjobs
  have hwrites := execute_writes henc hplanned hplaces hfailure
  exact hwrites

theorem run_leaves (henc : enc.WritesAtPath) (hjobs : c.jobs .all = .ok jobs)
    (hrun : (c.run enc .all d).result = .ok s) : c.Leaves jobs d (c.run enc .all d).disk s := by
  obtain ⟨hvalid, hplan⟩ := jobs_eq_ok_iff.1 hjobs
  have hplanned : ∀ j ∈ jobs, j.Planned := fun j hj => planned_of_mem_plan hplan hj
  obtain ⟨hfailure, hfinish⟩ := run_all_eq_ok henc.writesFiles hjobs hrun
  obtain ⟨between, path, hcreated, hwrite, rfl⟩ := RunSummary.finish_eq_ok hfinish
  obtain ⟨hjobsOnly, hcompleted⟩ := execution_writes henc hjobs hfailure
  obtain ⟨-, hmanifest⟩ := Manifest.write_eq_ok hwrite
  have hbetween := Disk.WritesOnly.createDirectories hcreated
  have hlast := hbetween.trans (Disk.WritesOnly.writeFile hmanifest)
  rw [hbetween.target, List.nil_append] at hlast
  refine ⟨hcompleted.length_eq.symm, rfl, ?_, ⟨between, path, hwrite⟩, _,
    hjobsOnly.trans hlast, ?_⟩
  · have hrecords := (List.forall₂_and_left _ _).2 ⟨hplanned, artifacts_of_completed hcompleted⟩
    refine hrecords.imp fun j a hrecord => ?_
    refine hrecord.2.writesOnly hlast fun hmem => ?_
    exact Job.target_ne_manifest hrecord.1 c.output _ (List.mem_singleton.1 hmem)
  · intro key hkey
    rcases List.mem_append.1 hkey with hjob | hkey
    · obtain ⟨j, hj, rfl⟩ := List.mem_map.1 hjob
      exact Or.inr ⟨j, hj, rfl⟩
    · left
      rw [List.mem_singleton.1 hkey, hjobsOnly.target]

namespace Leaves

variable {d' : Disk}

theorem record_of_job (h : c.Leaves jobs d d' s) {j : Job} (hj : j ∈ jobs) :
    ∃ r ∈ s.artifacts, j.RecordedOn c.output d' r := by
  obtain ⟨i, hi, rfl⟩ := List.mem_iff_getElem.1 hj
  have hi' : i < s.artifacts.length := h.records.length_eq ▸ hi
  exact ⟨_, List.getElem_mem hi', h.records.get hi hi'⟩

theorem job_of_record (h : c.Leaves jobs d d' s) {r : ArtifactRecord} (hr : r ∈ s.artifacts) :
    ∃ j ∈ jobs, j.RecordedOn c.output d' r := by
  obtain ⟨i, hi, rfl⟩ := List.mem_iff_getElem.1 hr
  have hi' : i < jobs.length := h.records.length_eq ▸ hi
  exact ⟨_, List.getElem_mem hi', h.records.get hi' hi⟩

/-- The records have the paths of the jobs. -/
theorem map_path (h : c.Leaves jobs d d' s) :
    s.artifacts.map ArtifactRecord.path = jobs.map Job.relativePath :=
  map_path_of_recorded h.records

/-- The index of the records keeps them all. -/
theorem index_perm (h : c.Leaves jobs d d' s) (hjobs : c.jobs .all = .ok jobs) :
    (Manifest.index s.artifacts).Perm s.artifacts := by
  refine Manifest.index_perm ?_
  rw [h.map_path]
  exact relativePaths_nodup hjobs

theorem load (h : c.Leaves jobs d d' s) (hfits : ∀ r ∈ s.artifacts, r.Fits)
    (hperm : (Manifest.index s.artifacts).Perm s.artifacts) :
    Manifest.load d' c.output = .ok (.ofRecords s.artifacts) := by
  obtain ⟨between, path, hwrite⟩ := h.written
  have hversion : manifestVersion < Nat.pow 2 32 := by decide
  have hloaded := Manifest.load_of_write hversion (fun r hr => hfits r (hperm.mem_iff.1 hr)) hwrite
  rw [hloaded, Manifest.ofRecords, Manifest.ofRecords]
  simp only [Manifest.index_index]

theorem digest_of_record (h : c.Leaves jobs d d' s) {r : ArtifactRecord} (hr : r ∈ s.artifacts) :
    d'.digest (join c.output r.path) = .ok (r.sha256, r.bytes) := by
  obtain ⟨j, -, hrecord⟩ := h.job_of_record hr
  rw [hrecord.path]
  exact hrecord.digest

theorem verify (h : c.Leaves jobs d d' s) (hfits : ∀ r ∈ s.artifacts, r.Fits)
    (hperm : (Manifest.index s.artifacts).Perm s.artifacts) :
    Manifest.verify d' c.output = .ok {
      checked := s.jobs
      verified := s.jobs
      missing := []
      mismatched := []
      stray := (Manifest.ofRecords s.artifacts).strayFiles d' c.output } := by
  have hlength : (Manifest.index s.artifacts).length = s.jobs := by
    rw [hperm.length_eq, ← h.records.length_eq, h.count]
  rw [Manifest.verify_of_digests (h.load hfits hperm) fun r hr =>
    h.digest_of_record (hperm.mem_iff.1 hr)]
  simp only [Manifest.ofRecords, hlength]

/-- What a search finds is listed, if it recognizes the output root. -/
theorem strayFiles_eq_nil (h : c.Leaves jobs d d' s) (houtput : c.output ≠ "")
    (hplanned : ∀ j ∈ jobs, j.Planned) (htree : d.OnlyPlanned c.output jobs)
    (hperm : (Manifest.index s.artifacts).Perm s.artifacts)
    (hroot : Disk.unrecognized c.output = []) :
    (Manifest.ofRecords s.artifacts).strayFiles d' c.output = [] := by
  obtain ⟨keys, hwrites, hkeys⟩ := h.keys
  have hend := htree.writesOnly hplanned hwrites hkeys
  refine Manifest.strayFiles_eq_nil fun found hfound => ?_
  obtain ⟨p, names, hsearch, hbelow, hending, rfl⟩ := Disk.mem_parquetFiles_iff.1 hfound
  rw [(Disk.searchRoot?_spec houtput hsearch).key] at hbelow
  obtain ⟨j, hj, hnames⟩ := hend names hbelow hending
  obtain ⟨r, hr, hrecord⟩ := h.record_of_job hj
  refine ⟨r, hperm.mem_iff.2 hr, ?_⟩
  have hrelative := Disk.relativeTo_child houtput hsearch j.names_ne_nil
    (Job.isName_of_mem_steps (hplanned j hj))
  rw [hroot, List.nil_append] at hrelative
  rw [hnames, hrecord.path]
  exact hrelative.symm

/-- Where it does not, a file is stray although a record lists it: it is looked
up behind the names of the output root. -/
theorem mem_strayFiles (h : c.Leaves jobs d d' s) (houtput : c.output ≠ "")
    (hplanned : ∀ j ∈ jobs, j.Planned) (hperm : (Manifest.index s.artifacts).Perm s.artifacts)
    (hsearch : (d'.searchRoot? c.output).isSome) {j : Job} (hj : j ∈ jobs)
    (hunlisted : ofSegments (Disk.unrecognized c.output ++ j.names) ∉ jobs.map Job.relativePath) :
    ofSegments (Disk.unrecognized c.output ++ j.names) ∈
      (Manifest.ofRecords s.artifacts).strayFiles d' c.output := by
  obtain ⟨p, hsearch⟩ := Option.isSome_iff_exists.1 hsearch
  obtain ⟨r, -, hrecord⟩ := h.record_of_job hj
  obtain ⟨content, hread, -, -⟩ := Disk.digest_eq_ok_iff.1 hrecord.digest
  have hentry := Disk.mem_entries_of_lookup (Disk.readFile_eq_ok_iff.1 hread).2
  rw [Job.target_path (hplanned j hj)] at hentry
  have hnames := Job.isName_of_mem_steps (hplanned j hj)
  rw [Manifest.mem_strayFiles_iff]
  constructor
  · intro r hr hpath
    have hlisted : r.path ∈ s.artifacts.map ArtifactRecord.path :=
      List.mem_map_of_mem (hperm.mem_iff.1 hr)
    rw [h.map_path, hpath] at hlisted
    exact hunlisted hlisted
  · refine ⟨p.child (ofSegments j.names), ?_,
      Disk.relativeTo_child houtput hsearch j.names_ne_nil hnames⟩
    refine Disk.mem_parquetFiles_iff.2 ⟨p, j.names, hsearch, ?_, ?_, rfl⟩
    · rw [(Disk.searchRoot?_spec houtput hsearch).key]
      exact Disk.mem_filesBelow_iff.2 ⟨j.names_ne_nil, content, hentry⟩
    · exact Job.hasParquetEnding_getLast? (hplanned j hj)

end Leaves

/-- A run that succeeds verifies clean.  Its manifest has one record a job, their
sizes add up to the total, and each tells what stands at its path at the end of
the run.  A verification right after it checks and verifies them all and finds
nothing missing or changed; nothing is stray either, unless the output root
starts with a single dot that has names behind it.

The parquet files that stand below the root at the start have to lie at planned
paths, and the numbers of a record have to fit the words they are written for. -/
theorem run_verifies (houtput : c.output ≠ "") (henc : enc.WritesAtPath)
    (hjobs : c.jobs .all = .ok jobs) (htree : d.OnlyPlanned c.output jobs)
    (hrun : (c.run enc .all d).result = .ok s) (hfits : ∀ r ∈ s.artifacts, r.Fits) :
    ∃ m report,
      Manifest.load (c.run enc .all d).disk c.output = .ok m ∧
      m.artifacts.length = s.jobs ∧ m.totalBytes = s.bytes ∧
      (∀ r ∈ m.artifacts, (c.run enc .all d).disk.digest (join c.output r.path) =
        .ok (r.sha256, r.bytes)) ∧
      Manifest.verify (c.run enc .all d).disk c.output = .ok report ∧
      report.checked = s.jobs ∧ report.verified = s.jobs ∧
      report.missing = [] ∧ report.mismatched = [] ∧
      (Disk.unrecognized c.output = [] → report.stray = []) := by
  obtain ⟨hvalid, hplan⟩ := jobs_eq_ok_iff.1 hjobs
  have hplanned : ∀ j ∈ jobs, j.Planned := fun j hj => planned_of_mem_plan hplan hj
  have hleaves := run_leaves henc hjobs hrun
  have hperm := hleaves.index_perm hjobs
  have hlength : (Manifest.index s.artifacts).length = s.jobs := by
    rw [hperm.length_eq, ← hleaves.records.length_eq, hleaves.count]
  refine ⟨_, _, hleaves.load hfits hperm, hlength, ?_, ?_, hleaves.verify hfits hperm,
    rfl, rfl, rfl, rfl, ?_⟩
  · rw [Manifest.totalBytes_ofRecords hperm, hleaves.size]
  · exact fun r hr => hleaves.digest_of_record (hperm.mem_iff.1 hr)
  · exact hleaves.strayFiles_eq_nil houtput hplanned htree hperm

/-! ## An output root with and without a leading dot -/

/-- Benchmark files of eight rows below an output root. -/
def eightRows (output : String) : MatrixConfig :=
  { output := output, matrix := false, benchmarks := { explicitSizes := [8] } }

/-- A disk with a benchmark file of an earlier run. -/
def earlierRun : Disk :=
  ⟨[(["work"], .directory), (["work", "out"], .directory), (["work", "out", "v1"], .directory),
    (["work", "out", "v1", "benches_8.parquet"], .file ByteArray.empty)], ["work"]⟩

theorem onlyPlanned_earlierRun :
    ∃ jobs, (eightRows "out").jobs .all = .ok jobs ∧ earlierRun.OnlyPlanned "out" jobs := by
  have hfiles : earlierRun.filesBelow (earlierRun.target "out") =
      [["v1", "benches_8.parquet"]] := by decide +kernel
  refine ⟨_, rfl, ?_⟩
  intro names hnames _
  rw [hfiles, List.mem_singleton] at hnames
  subst hnames
  exact ⟨Job.bench .nullable 8 .plain, List.mem_of_getElem? (i := 1) rfl, rfl⟩

/-- A second run below `out` verifies clean. -/
theorem run_verifies_out :
    ∃ s report, ((eightRows "out").run (.stub "PAR1".toUTF8) .all earlierRun).result = .ok s ∧
      Manifest.verify ((eightRows "out").run (.stub "PAR1".toUTF8) .all earlierRun).disk "out" =
        .ok report ∧ report.verified = s.jobs ∧ report.isClean = true := by
  obtain ⟨s, hrun, hfits⟩ := RunOutcome.exists_of_fits
    (o := (eightRows "out").run (.stub "PAR1".toUTF8) .all earlierRun) (by decide +kernel)
  obtain ⟨jobs, hjobs, htree⟩ := onlyPlanned_earlierRun
  obtain ⟨m, report, -, -, -, -, hverify, -, hverified, hmissing, hmismatched, hstray⟩ :=
    run_verifies (by decide) (Encoder.stub_writesAtPath _) hjobs htree hrun hfits
  refine ⟨s, report, hrun, hverify, hverified, ?_⟩
  rw [VerifyReport.isClean, hmissing, hmismatched, hstray (by decide +kernel)]
  rfl

/-- A run below `./out` does not: the files of its own manifest are stray. -/
theorem run_dotted_strays :
    ∃ s report, ((eightRows "./out").run (.stub "PAR1".toUTF8) .all Disk.empty).result = .ok s ∧
      Manifest.verify ((eightRows "./out").run (.stub "PAR1".toUTF8) .all Disk.empty).disk
        "./out" = .ok report ∧ "out/v1/benches_8.parquet" ∈ report.stray := by
  obtain ⟨s, hrun, hfits⟩ := RunOutcome.exists_of_fits
    (o := (eightRows "./out").run (.stub "PAR1".toUTF8) .all Disk.empty) (by decide +kernel)
  have houtput : (eightRows "./out").output ≠ "" := by decide
  obtain ⟨jobs, hjobs, hfirst, hunlisted⟩ : ∃ jobs, (eightRows "./out").jobs .all = .ok jobs ∧
      jobs[1]? = some (.bench .nullable 8 .plain) ∧
      "out/v1/benches_8.parquet" ∉ jobs.map Job.relativePath := ⟨_, rfl, rfl, by decide +kernel⟩
  have hplanned : ∀ j ∈ jobs, j.Planned := fun j hj =>
    planned_of_mem_planPass (jobs_eq_ok_iff.1 hjobs).2 hj
  have hleaves := run_leaves (Encoder.stub_writesAtPath _) hjobs hrun
  have hperm := hleaves.index_perm hjobs
  have hstray := hleaves.mem_strayFiles houtput hplanned hperm (by decide +kernel)
    (List.mem_of_getElem? hfirst)
  have hpath : ofSegments (Disk.unrecognized (eightRows "./out").output ++
      (Job.bench .nullable 8 .plain).names) = "out/v1/benches_8.parquet" := by decide +kernel
  rw [hpath] at hstray
  exact ⟨s, _, hrun, hleaves.verify hfits hperm, hstray hunlisted⟩

end MatrixConfig

end FixtureMatrix
