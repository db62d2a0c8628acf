import FixtureMatrix.Proofs.Manifest.Verify
import FixtureMatrix.Proofs.Matrix.Requests

/-!
# Jobs in order

Jobs are generated one after the other, up to the first that fails.

* `generate_eq_ok_iff`: what is done for a job that is generated.
* `execute_cons_of_none`, `execute_append`: jobs that are all generated, one by
  one and in two parts.
* `forall₂_of_execute`: what holds of each of them.
* `execute_stops`: how jobs are cut in two by the one that fails.
* `execution_eq`: only the notes tell how many jobs there are before and behind.
* `run_all_of_some`, `run_all_of_none`: how a run goes on behind its jobs.
-/

namespace FixtureMatrix

/-! ## One job -/

namespace Job

variable {j : Job} {enc : Encoder} {output : String} {w w' : World enc.State} {d : Disk}

/-- The record of a job whose file has certain bytes. -/
def recordOf (j : Job) (r : EncodeRequest) (bytes : ByteArray) : ArtifactRecord where
  path := Path.portable j.relativePath
  case := j.label
  fileName := j.fileName
  profile := j.profile
  rows := r.numRows
  bytes := bytes.size
  sha256 := Sha256.hexDigest bytes

theorem record_eq_ok_iff {r : EncodeRequest} {a : ArtifactRecord} :
    j.record r d = .ok a ↔ ∃ bytes, d.readFile r.path = .ok bytes ∧ a = j.recordOf r bytes := by
  rw [record]
  constructor
  · intro h
    split at h
    · cases h
    next hdigest =>
      obtain ⟨bytes, hread, rfl, rfl⟩ := Disk.digest_eq_ok_iff.1 hdigest
      exact ⟨bytes, hread, (Except.ok.inj h).symm⟩
  · rintro ⟨bytes, hread, rfl⟩
    have hdigest : d.digest r.path = .ok (Sha256.hexDigest bytes, bytes.size) :=
      Disk.digest_eq_ok_iff.2 ⟨bytes, hread, rfl, rfl⟩
    rw [hdigest]
    rfl

/-- A job that is generated is what its completion names. -/
theorem job_of_generate {c : Completion} (h : j.generate enc output w = (w', .ok c)) :
    c.job = j := by
  rw [generate] at h
  split at h
  · cases h
  split at h
  · cases h
  split at h
  · cases h
  split_ifs at h
  · split at h
    · cases h
    · cases h
      rfl
  · cases h
    rfl

/-- A job is generated when its request can be built, the directory of its file be
created, the file be encoded, and then be read. -/
theorem generate_eq_ok_iff (henc : enc.writesFiles = true) {c : Completion} :
    j.generate enc output w = (w', .ok c) ↔
      ∃ r prepared a, j.request output = .ok r ∧ enc.prepare r.path w.disk = .ok prepared ∧
        enc.encode r { w with disk := prepared } = (w', .ok ()) ∧ j.record r w'.disk = .ok a ∧
        c = ⟨j, r.numRows, some a⟩ := by
  constructor
  · intro h
    rw [generate] at h
    split at h
    · cases h
    next r hrequest =>
      split at h
      · cases h
      next prepared hprepare =>
        split at h
        · cases h
        next encoded hencode =>
          rw [if_pos henc] at h
          split at h
          · cases h
          next a hrecord =>
            cases h
            exact ⟨r, prepared, a, hrequest, hprepare, hencode, hrecord, rfl⟩
  · rintro ⟨r, prepared, a, hrequest, hprepare, hencode, hrecord, rfl⟩
    simp [generate, hrequest, hprepare, hencode, henc, hrecord]

end Job

/-! ## Several jobs -/

variable {enc : Encoder} {output : String} {total i : Nat} {w w' : World enc.State} {d : Disk}
  {j : Job} {jobs done rest : List Job}

theorem execute_cons_of_ok {c : Completion} (h : j.generate enc output w = (w', .ok c)) :
    execute enc output total i (j :: jobs) w =
      let x := execute enc output total (i + 1) jobs w'
      { x with completed := c :: x.completed, progress := (i + 1, total, j) :: x.progress } := by
  rw [execute, h]

/-- Of jobs that are all generated the first is generated, and so are the others
behind it. -/
theorem execute_cons_of_none (h : (execute enc output total i (j :: jobs) w).failure = none) :
    ∃ w' c, j.generate enc output w = (w', .ok c) ∧
      (execute enc output total (i + 1) jobs w').failure = none := by
  rw [execute] at h
  split at h
  · cases h
  · next w' c hgenerate => exact ⟨w', c, hgenerate, h⟩

/-- Jobs behind others that are all generated start where these end. -/
theorem execute_append (h : (execute enc output total i done w).failure = none) :
    execute enc output total i (done ++ rest) w =
      let first := execute enc output total i done w
      let x := execute enc output total (i + done.length) rest first.toWorld
      { x with
        completed := first.completed ++ x.completed
        progress := first.progress ++ x.progress } := by
  induction done generalizing i w with
  | nil => rfl
  | cons j done ih =>
    obtain ⟨w', c, hgenerate, hrest⟩ := execute_cons_of_none h
    have hcount : i + (j :: done).length = i + 1 + done.length := by
      rw [List.length_cons]
      omega
    rw [List.cons_append, execute_cons_of_ok hgenerate, execute_cons_of_ok hgenerate, ih hrest,
      hcount]
    rfl

/-- Of jobs that are all generated the first ones are. -/
theorem failure_of_append (h : (execute enc output total i (done ++ rest) w).failure = none) :
    (execute enc output total i done w).failure = none := by
  induction done generalizing i w with
  | nil => rfl
  | cons j done ih =>
    obtain ⟨w', c, hgenerate, hrest⟩ := execute_cons_of_none h
    rw [execute_cons_of_ok hgenerate]
    exact ih hrest

/-- What holds of each job that is generated, wherever it starts, holds of jobs that
are all generated. -/
theorem forall₂_of_execute {P : Job → Completion → Prop}
    (hone : ∀ j ∈ jobs, ∀ w w' c, j.generate enc output w = (w', .ok c) → P j c)
    (h : (execute enc output total i jobs w).failure = none) :
    List.Forall₂ P jobs (execute enc output total i jobs w).completed := by
  induction jobs generalizing i w with
  | nil => exact .nil
  | cons j jobs ih =>
    obtain ⟨hj, hjobs⟩ := List.forall_mem_cons.1 hone
    obtain ⟨w', c, hgenerate, hrest⟩ := execute_cons_of_none h
    rw [execute_cons_of_ok hgenerate]
    exact .cons (hj w w' c hgenerate) (ih hjobs hrest)

theorem map_job_of_execute (h : (execute enc output total i jobs w).failure = none) :
    (execute enc output total i jobs w).completed.map Completion.job = jobs := by
  have hjobs := forall₂_of_execute (P := fun j c => c.job = j)
    (fun j _ w w' c hgenerate => Job.job_of_generate hgenerate) h
  rw [← List.forall₂_eq_eq_eq, List.forall₂_map_left_iff]
  exact hjobs.flip

/-- Jobs stop at the first that fails, and all before it are complete. -/
theorem execute_stops {e : Halt FixtureError}
    (h : (execute enc output total i jobs w).failure = some e) :
    ∃ done j later, jobs = done ++ j :: later ∧
      (execute enc output total i done w).failure = none ∧
      (execute enc output total i jobs w).completed =
        (execute enc output total i done w).completed ∧
      j.generate enc output (execute enc output total i done w).toWorld =
        ((execute enc output total i jobs w).toWorld, .error e) := by
  induction jobs generalizing i w with
  | nil => cases h
  | cons j jobs ih =>
    cases hgenerate : j.generate enc output w with
    | mk w' outcome =>
      cases outcome with
      | error failure =>
        rw [execute, hgenerate] at h ⊢
        cases h
        exact ⟨[], j, jobs, rfl, rfl, rfl, hgenerate⟩
      | ok c =>
        rw [execute_cons_of_ok hgenerate] at h ⊢
        obtain ⟨done, k, later, rfl, hfailure, hcompleted, hfailed⟩ := ih h
        refine ⟨j :: done, k, later, rfl, ?_⟩
        rw [execute_cons_of_ok hgenerate]
        exact ⟨hfailure, congrArg (c :: ·) hcompleted, hfailed⟩

/-- Only the notes tell how many jobs there are before and behind. -/
theorem execute_unnoted (enc : Encoder) (output : String) (total i total' i' : Nat)
    (jobs : List Job) (w : World enc.State) :
    { execute enc output total i jobs w with progress := [] } =
      { execute enc output total' i' jobs w with progress := [] } := by
  induction jobs generalizing i i' w with
  | nil => rfl
  | cons j jobs ih =>
    cases hgenerate : j.generate enc output w with
    | mk w' outcome =>
      cases outcome with
      | error e => simp only [execute, hgenerate]
      | ok c =>
        rw [execute_cons_of_ok hgenerate, execute_cons_of_ok hgenerate]
        have hrest := ih (i + 1) (i' + 1) w'
        simp only [Execution.mk.injEq, true_and] at hrest ⊢
        exact ⟨hrest.1, congrArg (c :: ·) hrest.2.1, hrest.2.2⟩

/-- The jobs that are completed are the first ones. -/
theorem isPrefix_map_job :
    (execute enc output total i jobs w).completed.map Completion.job <+: jobs := by
  cases hfailure : (execute enc output total i jobs w).failure with
  | none =>
    refine ⟨[], ?_⟩
    rw [List.append_nil, map_job_of_execute hfailure]
  | some e =>
    obtain ⟨done, j, later, rfl, hdone, hcompleted, -⟩ := execute_stops hfailure
    rw [hcompleted, map_job_of_execute hdone]
    exact List.prefix_append done (j :: later)

/-! ## Whole runs -/

namespace MatrixConfig

variable {c : MatrixConfig} {pass : Pass} {s : RunSummary}

/-- The first jobs of a run leave what a run of these alone does. -/
theorem execution_eq (c : MatrixConfig) (enc : Encoder) (total i : Nat) (jobs : List Job)
    (d : Disk) :
    (execute enc c.output total i jobs ⟨enc.memory, d⟩).toWorld =
        (c.execution enc jobs d).toWorld ∧
      (execute enc c.output total i jobs ⟨enc.memory, d⟩).completed =
        (c.execution enc jobs d).completed ∧
      (execute enc c.output total i jobs ⟨enc.memory, d⟩).failure =
        (c.execution enc jobs d).failure := by
  have hsame := execute_unnoted enc c.output total i jobs.length 0 jobs ⟨enc.memory, d⟩
  simp only [Execution.mk.injEq, true_and] at hsame
  exact hsame

theorem exists_jobs_of_run (h : (c.run enc pass d).result = .ok s) :
    ∃ jobs, c.jobs pass = .ok jobs := by
  cases hjobs : c.jobs pass with
  | ok jobs => exact ⟨jobs, rfl⟩
  | error e =>
    rw [run, hjobs] at h
    cases h

/-- A run completes what its jobs complete one after the other. -/
theorem completed_run (hjobs : c.jobs pass = .ok jobs) :
    (c.run enc pass d).completed = (c.execution enc jobs d).completed := by
  simp only [run, hjobs]
  split
  · rfl
  · split <;> rfl

/-- A run that succeeds has generated all its jobs. -/
theorem failure_of_run (hjobs : c.jobs pass = .ok jobs) (h : (c.run enc pass d).result = .ok s) :
    (c.execution enc jobs d).failure = none := by
  simp only [run, hjobs] at h
  split at h
  · cases h
  · assumption

/-- A job that fails ends the run. -/
theorem run_all_of_some (hjobs : c.jobs .all = .ok jobs) {e : Halt FixtureError}
    (h : (c.execution enc jobs d).failure = some e) :
    c.run enc .all d =
      let x := c.execution enc jobs d
      ⟨x.toWorld, x.completed, x.progress, .error e⟩ := by
  simp only [run, hjobs, h]

/-- Behind jobs that are all generated comes the manifest. -/
theorem run_all_of_none (henc : enc.writesFiles = true) (hjobs : c.jobs .all = .ok jobs)
    (h : (c.execution enc jobs d).failure = none) :
    c.run enc .all d =
      let x := c.execution enc jobs d
      let finished := (RunSummary.ofCompleted x.completed).finish c.output x.disk
      ⟨{ x.toWorld with disk := finished.1 }, x.completed, x.progress,
        finished.2.mapError .returned⟩ := by
  simp only [run, hjobs, h, henc, and_self, if_true]

end MatrixConfig

end FixtureMatrix
