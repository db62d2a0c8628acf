import FixtureMatrix.Proofs.Disk.Frame
import FixtureMatrix.Proofs.Matrix.CleanRun

/-!
# What a run leaves alone

A run changes files at the paths of its jobs, and at its end the manifest.  Where
it stops, the files of the jobs before are what the encoder made of them, and
those of the jobs behind are what they were.

* `generate_changes`, `execute_changes`: jobs change their own files only, also
  the one that fails.
* `encodedOn_of_execute`: no job disturbs the file of one before it.
* `run_frame`: what is left alone by runs that succeed and by those that do not.
-/

namespace FixtureMatrix

open FixtureMatrix.Path

/-- An encoder that writes files.  It may fail on any request, also when it has
begun to write, but no file changes except the one at the path of the request. -/
structure Encoder.ChangesAtPath (enc : Encoder) : Prop where
  writesFiles : enc.writesFiles = true
  changesFiles : ∀ (r : EncodeRequest) (w : World enc.State),
    w.disk.ChangesFiles [w.disk.target r.path] (enc.encode r w).1.disk

/-! ## One job -/

namespace Job

variable {j : Job} {enc : Encoder} {output : String} {w w' : World enc.State} {d' d'' : Disk}

/-- A job changes no file but its own, wherever it stops. -/
theorem generate_changes (henc : enc.ChangesAtPath) (j : Job) (output : String)
    (w : World enc.State) :
    w.disk.ChangesFiles [w.disk.target (j.path output)] (j.generate enc output w).1.disk := by
  have hnothing : w.disk.ChangesFiles [w.disk.target (j.path output)] w.disk :=
    (Disk.ChangesFiles.refl w.disk).mono (by simp)
  rw [generate]
  split
  · exact hnothing
  next r hrequest =>
    split
    · exact hnothing
    next prepared hprepare =>
      have hprepared := (Encoder.prepare_writes hprepare).changesFiles
      have hencoded := henc.changesFiles r { w with disk := prepared }
      rw [hprepared.target, path_of_request hrequest] at hencoded
      have hboth := hprepared.trans hencoded
      split
      · next hencode =>
        rwa [hencode] at hboth
      · next hencode =>
        rw [hencode] at hboth
        split_ifs
        · split
          · exact hboth
          · exact hboth
        · exact hboth

/-- What the encoder left when it was asked for a job stands at the job's path on
another disk. -/
def EncodedOn (enc : Encoder) (output : String) (w : World enc.State) (d' : Disk) (j : Job) :
    Prop :=
  ∃ r prepared encoded content, j.request output = .ok r ∧
    enc.prepare r.path w.disk = .ok prepared ∧
    enc.encode r { w with disk := prepared } = (encoded, .ok ()) ∧
    encoded.disk.readFile (j.path output) = .ok content ∧
    d'.readFile (j.path output) = .ok content

theorem EncodedOn.changesFiles {keys : List (List String)} (h : j.EncodedOn enc output w d')
    (hchanges : d'.ChangesFiles keys d'') (hnot : d'.target (j.path output) ∉ keys) :
    j.EncodedOn enc output w d'' := by
  obtain ⟨r, prepared, encoded, content, hrequest, hprepare, hencode, hread, hread'⟩ := h
  exact ⟨r, prepared, encoded, content, hrequest, hprepare, hencode, hread,
    hchanges.readFile hnot hread'⟩

theorem encodedOn_of_generate (henc : enc.writesFiles = true) {c : Completion}
    (h : j.generate enc output w = (w', .ok c)) : j.EncodedOn enc output w w'.disk := by
  obtain ⟨r, prepared, a, hrequest, hprepare, hencode, hrecord, rfl⟩ :=
    (generate_eq_ok_iff henc).1 h
  obtain ⟨content, hread, rfl⟩ := record_eq_ok_iff.1 hrecord
  rw [path_of_request hrequest] at hread
  exact ⟨r, prepared, w', content, hrequest, hprepare, hencode, hread, hread⟩

end Job

/-! ## Several jobs -/

variable {enc : Encoder} {output : String} {total i : Nat} {w : World enc.State} {d : Disk}

theorem execute_changes (henc : enc.ChangesAtPath) (output : String) (total i : Nat)
    (jobs : List Job) (w : World enc.State) :
    w.disk.ChangesFiles (jobs.map fun j => w.disk.target (j.path output))
      (execute enc output total i jobs w).disk := by
  induction jobs generalizing i w with
  | nil => exact .refl w.disk
  | cons j jobs ih =>
    have hone := Job.generate_changes henc j output w
    rw [execute]
    split
    · next hgenerate =>
      rw [hgenerate] at hone
      exact hone.mono (by simp)
    · next w' c hgenerate =>
      rw [hgenerate] at hone
      have hothers := ih (i + 1) w'
      simp only [hone.target] at hothers
      exact hone.trans hothers

theorem targets_nodup {jobs : List Job} (hplanned : ∀ j ∈ jobs, j.Planned)
    (hplaces : (jobs.map Job.place).Nodup) (output : String) (d : Disk) :
    (jobs.map fun j => d.target (j.path output)).Nodup := by
  induction jobs with
  | nil => exact List.nodup_nil
  | cons j jobs ih =>
    obtain ⟨hj, hjobs⟩ := List.forall_mem_cons.1 hplanned
    rw [List.map_cons, List.nodup_cons] at hplaces ⊢
    exact ⟨Job.target_not_mem hj hjobs output d hplaces.1, ih hjobs hplaces.2⟩

/-- The jobs behind a job that was generated do not touch its file. -/
theorem encodedOn_of_execute (henc : enc.ChangesAtPath) {before after : List Job} {j : Job}
    (hplanned : ∀ k ∈ j :: after, k.Planned) (hplaces : ((j :: after).map Job.place).Nodup)
    (hfailure : (execute enc output total i (before ++ j :: after) w).failure = none) :
    j.EncodedOn enc output (execute enc output total i before w).toWorld
      (execute enc output total i (before ++ j :: after) w).disk := by
  have hbefore := failure_of_append hfailure
  simp only [execute_append hbefore] at hfailure ⊢
  obtain ⟨w', c, hgenerate, -⟩ := execute_cons_of_none hfailure
  rw [execute_cons_of_ok hgenerate]
  obtain ⟨hj, hafter⟩ := List.forall_mem_cons.1 hplanned
  rw [List.map_cons, List.nodup_cons] at hplaces
  have hencoded := Job.encodedOn_of_generate henc.writesFiles hgenerate
  exact hencoded.changesFiles (execute_changes henc output total _ after w')
    (Job.target_not_mem hj hafter output w'.disk hplaces.1)

/-! ## Whole runs -/

/-- Finishing a run changes no file but the manifest, and not even this if it
fails. -/
theorem RunSummary.finish_changes (s : RunSummary) (output : String) (d : Disk) :
    d.ChangesFiles [d.target (join output manifestFile)] (s.finish output d).1 ∧
      ∀ e, (s.finish output d).2 = .error e → d.ChangesFiles [] (s.finish output d).1 := by
  have hnothing := Disk.ChangesFiles.refl d
  rw [finish]
  split
  · exact ⟨hnothing.mono (by simp), fun _ _ => hnothing⟩
  next created hcreated =>
    have hcreated := (Disk.WritesOnly.createDirectories hcreated).changesFiles
    split
    · exact ⟨hcreated.mono (by simp), fun _ _ => hcreated⟩
    next path written hwrite =>
      obtain ⟨-, hmanifest⟩ := Manifest.write_eq_ok hwrite
      have hwritten := (Disk.WritesOnly.writeFile hmanifest).changesFiles
      rw [hcreated.target] at hwritten
      exact ⟨hcreated.trans hwritten, fun e he => by cases he⟩

namespace MatrixConfig

variable {c : MatrixConfig} {jobs done rest : List Job}

/-- What a run that failed leaves.  It is done with some of its jobs and has not
begun with those behind the next one.  If there is such a next one, this is what
failed; if all jobs are done, it was the manifest. -/
structure StopsAfter (c : MatrixConfig) (enc : Encoder) (d : Disk) (done rest : List Job) :
    Prop where
  completed : (c.run enc .all d).completed.map Completion.job = done
  failed : ∀ j later, rest = j :: later →
    ∃ e, (j.generate enc c.output (c.execution enc done d).toWorld).2 = .error e
  encoded : ∀ before j after, done = before ++ j :: after →
    j.EncodedOn enc c.output (c.execution enc before d).toWorld (c.run enc .all d).disk
  later : ∀ j ∈ rest.tail, d.SameFile (c.run enc .all d).disk (d.target (j.path c.output))
  manifest : d.SameFile (c.run enc .all d).disk (d.target (join c.output manifestFile))

/-- The jobs of a run change their own files only, from its start on. -/
theorem execution_changes (henc : enc.ChangesAtPath) (c : MatrixConfig) (jobs : List Job)
    (d : Disk) :
    d.ChangesFiles (jobs.map fun j => d.target (j.path c.output)) (c.execution enc jobs d).disk := by
  have hchanges := execute_changes henc c.output jobs.length 0 jobs ⟨enc.memory, d⟩
  exact hchanges

theorem encodedOn_of_execution (henc : enc.ChangesAtPath) {before after : List Job} {j : Job}
    (hplanned : ∀ k ∈ j :: after, k.Planned) (hplaces : ((j :: after).map Job.place).Nodup)
    (hfailure : (c.execution enc (before ++ j :: after) d).failure = none) :
    j.EncodedOn enc c.output (c.execution enc before d).toWorld
      (c.execution enc (before ++ j :: after) d).disk := by
  have hencoded := encodedOn_of_execute henc hplanned hplaces hfailure
  rw [(execution_eq c enc _ 0 before d).1] at hencoded
  exact hencoded

/-- A run leaves this if behind the jobs that are done it changes at most the file
of the next one. -/
theorem StopsAfter.of_changes (henc : enc.ChangesAtPath)
    (hplanned : ∀ j ∈ done ++ rest, j.Planned)
    (hplaces : ((done ++ rest).map Job.place).Nodup)
    (hfailure : (c.execution enc done d).failure = none)
    (hcompleted : (c.run enc .all d).completed = (c.execution enc done d).completed)
    (hfailed : ∀ j later, rest = j :: later →
      ∃ e, (j.generate enc c.output (c.execution enc done d).toWorld).2 = .error e)
    (hend : (c.execution enc done d).disk.ChangesFiles
      ((rest.take 1).map fun j => d.target (j.path c.output)) (c.run enc .all d).disk) :
    c.StopsAfter enc d done rest := by
  have hdone := execution_changes henc c done d
  have hrun := hdone.trans hend
  rw [← List.map_append] at hrun
  have hapart := targets_nodup hplanned hplaces c.output d
  refine ⟨?_, hfailed, ?_, ?_, ?_⟩
  · rw [hcompleted]
    exact map_job_of_execute hfailure
  · -- a job that is done keeps its file behind those done later, and behind the next one
    rintro before j after rfl
    have hj : j ∈ before ++ j :: after := by simp
    have hbehind : ∀ k ∈ j :: after, k.Planned := fun k hk =>
      hplanned k (List.mem_append_left rest (List.mem_append_right before hk))
    rw [List.map_append, List.map_append, List.nodup_append, List.nodup_append] at hplaces
    have hencoded := encodedOn_of_execution henc hbehind hplaces.1.2.1 hfailure
    refine hencoded.changesFiles hend fun hmem => ?_
    rw [hdone.target] at hmem
    obtain ⟨k, hk, hsame⟩ := List.mem_map.1 hmem
    rw [List.map_append, List.nodup_append] at hapart
    exact hapart.2.2 _ (List.mem_map_of_mem hj) _
      (List.mem_map_of_mem (List.mem_of_mem_take hk)) hsame.symm
  · -- the run got no further than the next job
    intro j hj
    cases rest with
    | nil => cases hj
    | cons k later =>
      have hsplit : done ++ k :: later = done ++ [k] ++ later := by simp
      rw [hsplit, List.map_append, List.nodup_append] at hapart
      exact hrun.elsewhere _ fun hmem => hapart.2.2 _ hmem _ (List.mem_map_of_mem hj) rfl
  · refine hrun.elsewhere _ fun hmem => ?_
    obtain ⟨j, hj, htarget⟩ := List.mem_map.1 hmem
    have hplan : j.Planned := by
      refine hplanned j ?_
      rcases List.mem_append.1 hj with hj | hj
      · exact List.mem_append_left rest hj
      · exact List.mem_append_right done (List.mem_of_mem_take hj)
    exact Job.target_ne_manifest hplan c.output d htarget

/-- A run changes the files of its jobs and the manifest only. -/
theorem run_changes (henc : enc.ChangesAtPath) (hjobs : c.jobs .all = .ok jobs) :
    d.ChangesFiles
      (jobs.map (fun j => d.target (j.path c.output)) ++ [d.target (join c.output manifestFile)])
      (c.run enc .all d).disk := by
  have hall := execution_changes henc c jobs d
  cases hfailure : (c.execution enc jobs d).failure with
  | some e =>
    rw [run_all_of_some hjobs hfailure]
    exact hall.mono fun key hkey => List.mem_append_left _ hkey
  | none =>
    rw [run_all_of_none henc.writesFiles hjobs hfailure]
    have hlast := (RunSummary.finish_changes
      (RunSummary.ofCompleted (c.execution enc jobs d).completed) c.output
      (c.execution enc jobs d).disk).1
    rw [hall.target] at hlast
    exact hall.trans hlast

/-- The jobs of a run stop at the first that fails, and what is before it is what a
run of those jobs alone does. -/
theorem execution_stops {e : Halt FixtureError}
    (h : (c.execution enc jobs d).failure = some e) :
    ∃ done j later, jobs = done ++ j :: later ∧ (c.execution enc done d).failure = none ∧
      (c.execution enc jobs d).completed = (c.execution enc done d).completed ∧
      j.generate enc c.output (c.execution enc done d).toWorld =
        ((c.execution enc jobs d).toWorld, .error e) := by
  obtain ⟨done, j, later, hjobs, hdone, hcompleted, hfailed⟩ := execute_stops h
  obtain ⟨hworld, hsame, hfailure⟩ := execution_eq c enc jobs.length 0 done d
  rw [hfailure] at hdone
  rw [hsame] at hcompleted
  rw [hworld] at hfailed
  exact ⟨done, j, later, hjobs, hdone, hcompleted, hfailed⟩

/-- A run with a plan fails at a job or at the manifest. -/
theorem run_stops (henc : enc.ChangesAtPath) (hjobs : c.jobs .all = .ok jobs)
    {e : Halt FixtureError} (hresult : (c.run enc .all d).result = .error e) :
    ∃ done rest, jobs = done ++ rest ∧ c.StopsAfter enc d done rest := by
  obtain ⟨hplanned, hplaces⟩ := planned_of_jobs hjobs
  cases hfailure : (c.execution enc jobs d).failure with
  | some jobError =>
    obtain ⟨done, j, later, rfl, hdone, hcompleted, hfailed⟩ := execution_stops hfailure
    refine ⟨done, j :: later, rfl, .of_changes henc hplanned hplaces hdone ?_ ?_ ?_⟩
    · rw [run_all_of_some hjobs hfailure]
      exact hcompleted
    · rintro _ _ ⟨⟩
      exact ⟨jobError, congrArg Prod.snd hfailed⟩
    · have hone := Job.generate_changes henc j c.output (c.execution enc done d).toWorld
      rw [hfailed, (execution_changes henc c done d).target] at hone
      rw [run_all_of_some hjobs hfailure]
      exact hone
  | none =>
    rw [← List.append_nil jobs] at hplanned hplaces
    refine ⟨jobs, [], (List.append_nil jobs).symm,
      .of_changes henc hplanned hplaces hfailure ?_ ?_ ?_⟩
    · rw [run_all_of_none henc.writesFiles hjobs hfailure]
    · rintro _ _ ⟨⟩
    · rw [run_all_of_none henc.writesFiles hjobs hfailure] at hresult ⊢
      obtain ⟨cause, hfinish, -⟩ := mapError_eq_error_iff.1 hresult
      exact (RunSummary.finish_changes _ c.output _).2 cause hfinish

/-- Whether it succeeds or fails, a run leaves every file as it was that is not at
the path of a job nor the manifest; one that cannot be planned leaves them all.
If it fails at a job, then what the encoder made of the jobs before stands at
their paths, and the files of the jobs behind are as they were, as is the
manifest. -/
theorem run_frame (henc : enc.ChangesAtPath) (hvalid : c.validate = .ok ()) (d : Disk) :
    (∀ e, c.plan = .error e → (c.run enc .all d).disk = d) ∧
    ∀ jobs, c.plan = .ok jobs →
      (∀ key, (∀ j ∈ jobs, key ≠ d.target (j.path c.output)) →
        key ≠ d.target (join c.output manifestFile) → d.SameFile (c.run enc .all d).disk key) ∧
      ∀ e, (c.run enc .all d).result = .error e →
        ∃ done rest, jobs = done ++ rest ∧ c.StopsAfter enc d done rest := by
  constructor
  · intro e hplan
    have hjobs : c.jobs .all = .error e := by
      rw [MatrixConfig.jobs, hvalid]
      exact hplan
    rw [run, hjobs]
  · intro jobs hplan
    have hjobs : c.jobs .all = .ok jobs := jobs_eq_ok_iff.2 ⟨hvalid, hplan⟩
    refine ⟨fun key hkey hmanifest => ?_, fun e hresult => run_stops henc hjobs hresult⟩
    refine (run_changes henc hjobs).elsewhere key fun hmem => ?_
    rcases List.mem_append.1 hmem with hmem | hmem
    · obtain ⟨j, hj, rfl⟩ := List.mem_map.1 hmem
      exact hkey j hj rfl
    · exact hmanifest (List.mem_singleton.1 hmem)

end MatrixConfig

/-! ## Encoders -/

/-- An encoder that remembers nothing changes what it makes of the disk. -/
theorem Encoder.stateless_changesAtPath
    {encode : EncodeRequest → Disk → Disk × Except EncodeError Unit}
    (h : ∀ (r : EncodeRequest) (d : Disk), d.ChangesFiles [d.target r.path] (encode r d).1) :
    (stateless true encode).ChangesAtPath where
  writesFiles := rfl
  changesFiles r w := h r w.disk

/-- The encoder that stores files changes no other, also where it stops after it
has created the file. -/
theorem Encoder.storing_changesAtPath (rowGroupSize : Nat) :
    (storing rowGroupSize).ChangesAtPath := by
  refine stateless_changesAtPath fun r d => ?_
  have hnothing : d.ChangesFiles [d.target r.path] d := (Disk.ChangesFiles.refl d).mono (by simp)
  rw [storeFile]
  split
  · exact hnothing
  split
  · exact hnothing
  next created hcreated =>
    have hfirst := (Disk.WritesOnly.writeFile hcreated).changesFiles
    split_ifs
    · exact hfirst
    split
    · exact hfirst
    split
    · exact hfirst
    next hwritten =>
      have hsecond := (Disk.WritesOnly.writeFile hwritten).changesFiles
      rw [hfirst.target] at hsecond
      exact (hfirst.trans hsecond).mono (by simp)

/-- Writes one content to the path of a request, and half of it to one path. -/
def breakContent (broken : String) (content : ByteArray) (r : EncodeRequest) (d : Disk) :
    Disk × Except EncodeError Unit :=
  if r.path = broken then
    match d.writeFile r.path (content.extract 0 (content.size / 2)) with
    | .ok written => (written, .error (.io (.other "broken off")))
    | .error e => (d, .error (.io e))
  else writeContent content r d

/-- An encoder that leaves files of one content, and breaks off at one path when
it has written half of it. -/
def Encoder.breaking (broken : String) (content : ByteArray) : Encoder :=
  .stateless true (breakContent broken content)

theorem writeContent_changes (content : ByteArray) (r : EncodeRequest) (d : Disk) :
    d.ChangesFiles [d.target r.path] (writeContent content r d).1 := by
  rw [writeContent]
  split
  · next hwrite => exact (Disk.WritesOnly.writeFile hwrite).changesFiles
  · exact (Disk.ChangesFiles.refl d).mono (by simp)

theorem Encoder.breaking_changesAtPath (broken : String) (content : ByteArray) :
    (breaking broken content).ChangesAtPath := by
  refine stateless_changesAtPath fun r d => ?_
  rw [breakContent]
  split_ifs
  · split
    · next hwrite => exact (Disk.WritesOnly.writeFile hwrite).changesFiles
    · exact (Disk.ChangesFiles.refl d).mono (by simp)
  · exact writeContent_changes content r d

/-! ## A run that fails at its third job -/

namespace MatrixConfig

/-- A disk with a manifest and a file of an earlier run, and with a file that no
run wrote. -/
def withNotes : Disk :=
  ⟨[(["work"], .directory), (["work", "out"], .directory),
    (["work", "out", "manifest.json"], .file "old".toUTF8),
    (["work", "out", "notes.txt"], .file "notes".toUTF8), (["work", "out", "v1"], .directory),
    (["work", "out", "v1", "snappy"], .directory),
    (["work", "out", "v1", "snappy", "benches_8.parquet"], .file "old".toUTF8)], ["work"]⟩

/-- An encoder that breaks off at the third of the jobs of `eightRows`. -/
def thirdBroken : Encoder :=
  .breaking "out/v1/benches_required_8.parquet" "PAR1".toUTF8

/-- Two jobs are done, and the notes stay. -/
theorem run_frame_broken :
    (∃ done rest, (eightRows "out").plan = .ok (done ++ rest) ∧ done.length = 2 ∧
      (eightRows "out").StopsAfter thirdBroken withNotes done rest) ∧
    withNotes.SameFile ((eightRows "out").run thirdBroken .all withNotes).disk
      ["work", "out", "notes.txt"] := by
  have henc : thirdBroken.ChangesAtPath := Encoder.breaking_changesAtPath _ _
  obtain ⟨jobs, hplan, hplaces⟩ : ∃ jobs, (eightRows "out").plan = .ok jobs ∧
      ∀ j ∈ jobs, ["work", "out", "notes.txt"] ≠ withNotes.target (j.path "out") :=
    ⟨_, rfl, by decide +kernel⟩
  obtain ⟨hframe, hstops⟩ := (run_frame henc rfl withNotes).2 jobs hplan
  have hcount : ((eightRows "out").run thirdBroken .all withNotes).completed.length = 2 := by
    decide +kernel
  have hfails : ((eightRows "out").run thirdBroken .all withNotes).result.isOk = false := by
    decide +kernel
  refine ⟨?_, hframe _ hplaces (by decide +kernel)⟩
  cases hresult : ((eightRows "out").run thirdBroken .all withNotes).result with
  | ok s =>
    rw [hresult] at hfails
    cases hfails
  | error e =>
    obtain ⟨done, rest, rfl, hleft⟩ := hstops e hresult
    refine ⟨done, rest, hplan, ?_, hleft⟩
    rw [← hleft.completed, List.length_map, hcount]

end MatrixConfig

end FixtureMatrix
