import FixtureMatrix.Encoder.Request
import FixtureMatrix.Manifest.Disk
import FixtureMatrix.Matrix.Plan

/-!
# Runs

A run hands its jobs to an encoder, one after the other, up to the first that
fails.  What was written and remembered before that stays.  A run of all enabled
passes with an encoder that writes files ends with the manifest.
-/

namespace FixtureMatrix

/-- The path of a job's file below an output root. -/
def Job.path (j : Job) (output : String) : String :=
  Path.join output j.relativePath

/-- The request for a job's file. -/
def Job.request (j : Job) (output : String) : Except (Halt FixtureError) EncodeRequest := do
  let c ← j.buildCase
  match j.profile.layout.sizing c.numRows with
  | .error e => .error (.returned (j.fault (.expansion e)))
  | .ok sizing =>
    return {
      schema := c.schema
      columns := c.columns
      path := j.path output
      pageVersion := j.profile.pageVersion
      dictionary := j.profile.dictionary
      compression := j.profile.compression
      sizing := sizing
      writeStatistics := true }

/-- What a job that was generated adds to the totals. -/
structure Completion where
  job : Job
  rows : Nat
  /-- The file's record, if a file was written. -/
  artifact : Option ArtifactRecord

/-- Creates the directory of a file, if files are written at all. -/
def Encoder.prepare (enc : Encoder) (path : String) (d : Disk) : Except FixtureError Disk :=
  match enc.writesFiles, Path.parent? path with
  | true, some parent =>
    match d.createDirectories parent with
    | .ok d => .ok d
    | .error e => .error (.io parent e)
  | _, _ => .ok d

/-- The record of a job's file on a disk. -/
def Job.record (j : Job) (r : EncodeRequest) (d : Disk) : Except FixtureError ArtifactRecord :=
  match d.digest r.path with
  | .error e => .error (.io r.path e)
  | .ok (sha256, bytes) =>
    .ok {
      path := Path.portable j.relativePath
      case := j.label
      fileName := j.fileName
      profile := j.profile
      rows := r.numRows
      bytes := bytes
      sha256 := sha256 }

/-- Builds, encodes and records one job.  Memory and disk are those after the
attempt, also when it fails. -/
def Job.generate (enc : Encoder) (output : String) (j : Job) (w : World enc.State) :
    World enc.State × Except (Halt FixtureError) Completion :=
  match j.request output with
  | .error e => (w, .error e)
  | .ok r =>
    match enc.prepare r.path w.disk with
    | .error e => (w, .error (.returned e))
    | .ok d =>
      match enc.encode r { w with disk := d } with
      | (w, .error e) => (w, .error (.returned (.adapter j.label j.profile r.path e)))
      | (w, .ok ()) =>
        if enc.writesFiles then
          match j.record r w.disk with
          | .error e => (w, .error (.returned e))
          | .ok a => (w, .ok ⟨j, r.numRows, some a⟩)
        else (w, .ok ⟨j, r.numRows, none⟩)

/-- A progress note: how many jobs are done, of how many, and the last of them. -/
abbrev Progress := Nat × Nat × Job

/-- The jobs that were completed, in order, what was noted behind each of them, and
what stopped the rest. -/
structure Execution (σ : Type) extends World σ where
  completed : List Completion
  progress : List Progress
  failure : Option (Halt FixtureError)

/-- Generates jobs in order up to the first that fails, and notes each that does
not.  They stand behind `done` others and are the last ones of `total`. -/
def execute (enc : Encoder) (output : String) (total : Nat) :
    Nat → List Job → World enc.State → Execution enc.State
  | _, [], w => ⟨w, [], [], none⟩
  | done, j :: js, w =>
    match j.generate enc output w with
    | (w, .error e) => ⟨w, [], [], some e⟩
    | (w, .ok c) =>
      let rest := execute enc output total (done + 1) js w
      { rest with
        completed := c :: rest.completed
        progress := (done + 1, total, j) :: rest.progress }

/-- The totals of a run. -/
structure RunSummary where
  jobs : Nat
  rows : Nat
  bytes : Nat
  /-- The written files; there are none if the encoder writes none. -/
  artifacts : List ArtifactRecord
  /-- The path of the manifest, if one was written. -/
  manifest : Option String

/-- The totals of completed jobs. -/
def RunSummary.ofCompleted (completed : List Completion) : RunSummary :=
  let artifacts := completed.filterMap Completion.artifact
  { jobs := completed.length
    rows := completed.foldr (fun c rows => c.rows + rows) 0
    bytes := artifacts.foldr (fun r bytes => r.bytes + bytes) 0
    artifacts := artifacts
    manifest := none }

/-- What a run did and how it ended. -/
structure RunOutcome (σ : Type) extends World σ where
  /-- The completed jobs, in order. -/
  completed : List Completion
  progress : List Progress
  result : Except (Halt FixtureError) RunSummary

/-- Writes the manifest of a run below its output root. -/
def RunSummary.finish (s : RunSummary) (output : String) (d : Disk) :
    Disk × Except FixtureError RunSummary :=
  match d.createDirectories output with
  | .error e => (d, .error (.io output e))
  | .ok d =>
    match (Manifest.ofRecords s.artifacts).write output d with
    | .error e => (d, .error e)
    | .ok (path, d) => (d, .ok { s with manifest := some path })

namespace MatrixConfig

/-- Validates and plans one pass or all enabled ones. -/
def jobs (c : MatrixConfig) (pass : Pass) : Except FixtureError (List Job) := do
  c.validate
  c.planPass pass

/-- Generates the jobs of a plan, from what the encoder remembers and a disk on. -/
def execution (c : MatrixConfig) (enc : Encoder) (jobs : List Job) (d : Disk) :
    Execution enc.State :=
  execute enc c.output jobs.length 0 jobs ⟨enc.memory, d⟩

/-- Runs one pass, or all enabled ones with the manifest at the end. -/
def run (c : MatrixConfig) (enc : Encoder) (pass : Pass) (d : Disk) : RunOutcome enc.State :=
  match c.jobs pass with
  | .error e => ⟨⟨enc.memory, d⟩, [], [], .error (.returned e)⟩
  | .ok jobs =>
    let x := c.execution enc jobs d
    match x.failure with
    | some e => ⟨x.toWorld, x.completed, x.progress, .error e⟩
    | none =>
      let summary := RunSummary.ofCompleted x.completed
      if pass = .all ∧ enc.writesFiles then
        let (d, result) := summary.finish c.output x.disk
        ⟨{ x.toWorld with disk := d }, x.completed, x.progress, result.mapError .returned⟩
      else ⟨x.toWorld, x.completed, x.progress, .ok summary⟩

end MatrixConfig

end FixtureMatrix
