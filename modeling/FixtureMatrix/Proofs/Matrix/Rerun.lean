import FixtureMatrix.Proofs.Matrix.Settled

/-!
# Running again

A run that succeeded can be run again, and then nothing changes: its jobs are
settled, its directories are there, and the manifest is written as it stands.

* `finish_again`: the manifest can be written again.
* `run_again`: the second run of the same settings.
-/

namespace FixtureMatrix

open FixtureMatrix.Path

variable {enc : Encoder} {contents : EncodeRequest → Option ByteArray} {d e : Disk}

/-- The encoder when it remembers something else. -/
def Encoder.remembering (enc : Encoder) (m : enc.State) : Encoder :=
  { enc with memory := m }

theorem Encoder.FollowsRequest.remembering (h : enc.FollowsRequest contents) {m : enc.State} :
    (enc.remembering m).FollowsRequest contents where
  writesFiles := h.writesFiles
  encode_eq_ok := h.encode_eq_ok
  encode_ok := h.encode_ok

/-- A run that was finished can be finished again, and nothing changes. -/
theorem RunSummary.finish_again {s t : RunSummary} {output : String} {before : Disk}
    (h : s.finish output before = (d, .ok t)) (hsame : d.SameTree e) :
    ∃ e', s.finish output e = (e', .ok t) ∧ d.SameTree e' := by
  obtain ⟨between, path, hcreated, hwrite, rfl⟩ := finish_eq_ok h
  obtain ⟨rfl, hmanifest⟩ := Manifest.write_eq_ok hwrite
  have hwrites := Disk.WritesOnly.writeFile hmanifest
  have hdirectory : e.HasDirectory output :=
    ((Disk.hasDirectory_of_createDirectories hcreated).mono hwrites.directories
      hwrites.workingDirectory).mono hsame.keepsDirectories hsame.workingDirectory
  have htrailing := (Disk.writeFile_eq_ok_iff.1 hmanifest).1
  have hread := hsame.readFile (Disk.readFile_writeFile hmanifest)
  obtain ⟨e', hagain, hsame'⟩ := Disk.writeFile_of_readFile htrailing hread
  refine ⟨e', ?_, hsame.trans hsame'⟩
  simp only [finish, Disk.createDirectories_of_hasDirectory hdirectory, Manifest.write, hagain]

namespace MatrixConfig

variable {c : MatrixConfig} {jobs : List Job} {s : RunSummary}

/-- The jobs of a run are settled behind them. -/
theorem execution_settled (henc : enc.FollowsRequest contents) (hjobs : c.jobs .all = .ok jobs)
    (hfailure : (c.execution enc jobs d).failure = none) :
    d.ChangesFiles (jobs.map fun j => d.target (j.path c.output)) (c.execution enc jobs d).disk ∧
      List.Forall₂ (Job.SettledOn contents c.output (c.execution enc jobs d).disk) jobs
        (c.execution enc jobs d).completed := by
  obtain ⟨hplanned, hplaces⟩ := planned_of_jobs hjobs
  have hsettled := execute_settled henc hplanned hplaces hfailure
  exact hsettled

/-- A run leaves its jobs settled, also behind the manifest. -/
theorem run_settled (henc : enc.FollowsRequest contents) (hjobs : c.jobs .all = .ok jobs)
    (hrun : (c.run enc .all d).result = .ok s) :
    List.Forall₂ (Job.SettledOn contents c.output (c.run enc .all d).disk) jobs
      (c.execution enc jobs d).completed := by
  obtain ⟨hplanned, -⟩ := planned_of_jobs hjobs
  obtain ⟨hfailure, hfinish⟩ := run_all_eq_ok henc.writesFiles hjobs hrun
  obtain ⟨-, hsettled⟩ := execution_settled henc hjobs hfailure
  have hlast := (RunSummary.finish_changes
    (RunSummary.ofCompleted (c.execution enc jobs d).completed) c.output
    (c.execution enc jobs d).disk).1
  rw [hfinish] at hlast
  have hboth := (List.forall₂_and_left _ _).2 ⟨hplanned, hsettled⟩
  refine hboth.imp fun j completion hj => hj.2.changesFiles hlast fun hmem => ?_
  exact Job.target_ne_manifest hj.1 c.output _ (List.mem_singleton.1 hmem)

theorem execution_of_settled (henc : enc.FollowsRequest contents)
    (hplanned : ∀ j ∈ jobs, j.Planned) {completed : List Completion}
    (h : List.Forall₂ (Job.SettledOn contents c.output d) jobs completed) (hsame : d.SameTree e) :
    (c.execution enc jobs e).completed = completed ∧ (c.execution enc jobs e).failure = none ∧
      d.SameTree (c.execution enc jobs e).disk := by
  have hagain := execute_of_settled (v := ⟨enc.memory, e⟩) henc hplanned h hsame jobs.length 0
  exact hagain

/-- Where all jobs are settled and the manifest stands, a run succeeds and changes
nothing. -/
theorem run_of_settled (henc : enc.FollowsRequest contents) (hjobs : c.jobs .all = .ok jobs)
    {completed : List Completion} {before : Disk}
    (hsettled : List.Forall₂ (Job.SettledOn contents c.output d) jobs completed)
    (hfinish : (RunSummary.ofCompleted completed).finish c.output before = (d, .ok s))
    (hsame : d.SameTree e) :
    (c.run enc .all e).result = .ok s ∧ d.SameTree (c.run enc .all e).disk := by
  obtain ⟨hplanned, -⟩ := planned_of_jobs hjobs
  obtain ⟨hcompleted, hfailure, hagain⟩ := execution_of_settled henc hplanned hsettled hsame
  obtain ⟨last, hfinished, hend⟩ := RunSummary.finish_again hfinish hagain
  rw [run_all_of_none henc.writesFiles hjobs hfailure]
  simp only [hcompleted, hfinished]
  exact ⟨rfl, hend⟩

/-- A run that succeeded succeeds again from the tree it left, whatever the encoder
remembers by then.  It leaves the whole tree as it is, with every file and the
manifest, and its totals are the same. -/
theorem run_again (henc : enc.FollowsRequest contents)
    (hrun : (c.run enc .all d).result = .ok s) (m : enc.State) :
    (c.run (enc.remembering m) .all (c.run enc .all d).disk).result = .ok s ∧
      (c.run enc .all d).disk.SameTree
        (c.run (enc.remembering m) .all (c.run enc .all d).disk).disk := by
  obtain ⟨jobs, hjobs⟩ := exists_jobs_of_run hrun
  obtain ⟨-, hfinish⟩ := run_all_eq_ok henc.writesFiles hjobs hrun
  have hsettled := run_settled henc hjobs hrun
  exact run_of_settled henc.remembering hjobs hsettled hfinish (.refl _)

/-- Two runs below `./out`, where an earlier one left a file. -/
theorem run_again_out :
    ∃ s, ((eightRows "./out").run (.stub "PAR1".toUTF8) .all earlierRun).result = .ok s ∧
      ((eightRows "./out").run (.stub "PAR1".toUTF8) .all
        ((eightRows "./out").run (.stub "PAR1".toUTF8) .all earlierRun).disk).result = .ok s ∧
      ((eightRows "./out").run (.stub "PAR1".toUTF8) .all earlierRun).disk.SameTree
        ((eightRows "./out").run (.stub "PAR1".toUTF8) .all
          ((eightRows "./out").run (.stub "PAR1".toUTF8) .all earlierRun).disk).disk := by
  obtain ⟨s, hrun, -⟩ := RunOutcome.exists_of_fits
    (o := (eightRows "./out").run (.stub "PAR1".toUTF8) .all earlierRun) (by decide +kernel)
  have hagain := run_again (Encoder.stub_followsRequest "PAR1".toUTF8) hrun ()
  have hstub : (Encoder.stub "PAR1".toUTF8).remembering () = .stub "PAR1".toUTF8 := rfl
  rw [hstub] at hagain
  exact ⟨s, hrun, hagain⟩

end MatrixConfig

end FixtureMatrix
