import FixtureMatrix.Command.Basic
import FixtureMatrix.Command.Transcript
import FixtureMatrix.Encoder.Storage
import FixtureMatrix.Matrix.Load
import FixtureMatrix.Matrix.Run

/-!
# Generating fixtures

`generate` runs all enabled passes.  A dry run builds and lays out every file
without writing one.
-/

namespace FixtureMatrix.GenerateOptions

/-- The configuration with the options applied.  A file is checked before
anything in it is overridden. -/
def configuration (o : GenerateOptions) (d : Disk) : Except FixtureError MatrixConfig := do
  let base ← match o.config with
    | some path => MatrixConfig.load d path
    | none => .ok {}
  let c : MatrixConfig := { base with
    output := o.output.getD base.output
    matrix := base.matrix && !o.skipMatrix
    benchmarks := { base.benchmarks with enabled := base.benchmarks.enabled && !o.skipBench } }
  c.validate
  return c

def encoder (o : GenerateOptions) : Encoder :=
  if o.dryRun then .recording .new else .storing maxRowGroupSize

/-- The note that a run starts. -/
def opening (o : GenerateOptions) (output : String) : String :=
  if o.dryRun then s!"Dry run: planning fixtures for {output}"
  else s!"Generating fixtures into {output}"

/-- The note on a completed job. -/
def progressNote (done planned : Nat) (j : Job) : String :=
  s!"  [{done}/{planned}] {j.relativePath} ({j.rows} rows, {j.profile.text})"

/-- The notes of a run.  JSON output has none, and a progress bar takes the
place of notes on single jobs. -/
def notes (o : GenerateOptions) (output : String) (progress : List Progress) : List String :=
  if o.json then []
  else
    o.opening output ::
      if o.verbose && !o.progress then progress.map fun (i, n, j) => progressNote i n j else []

/-- A planned file in JSON. -/
def plannedFile (j : Job) : Json :=
  .obj [("path", .str (Path.portable j.relativePath)), ("case", .str j.label),
    ("profile", .str j.profile.text), ("rows", .nat j.rows)]

/-- A written file in JSON. -/
def writtenFile (r : ArtifactRecord) : Json :=
  .obj [("path", .str r.path), ("case", .str r.case), ("profile", .str r.profile.text),
    ("rows", .nat r.rows), ("bytes", .nat r.bytes), ("sha256", .str r.sha256)]

/-- The report of a run in JSON. -/
def reportJson (o : GenerateOptions) (output : String) (elapsed : Nat) (jobs : List Job)
    (s : RunSummary) : Json :=
  .obj ([("output_dir", .str output), ("dry_run", .bool o.dryRun),
    ("statistics", .obj [("jobs", .nat s.jobs), ("rows_written", .nat s.rows),
      ("bytes_written", .nat s.bytes),
      ("elapsed_secs", .float (Binary64.ofDecimal false elapsed (-9)))])] ++
    (s.manifest.map fun path => ("manifest", Json.str path)).toList ++
    [("files", if o.dryRun then .ofList plannedFile jobs else .ofList writtenFile s.artifacts)])

/-- The report of a run for people. -/
def reportLines (o : GenerateOptions) (elapsed : Nat) (s : RunSummary) : List String :=
  (if o.dryRun then ["", "✓ Dry run completed!", "", "Would generate:"]
    else ["", "✓ Generation completed!", "", "Statistics:"]) ++
  [s!"  Files: {s.jobs}", s!"  Rows: {s.rows}"] ++
  (if o.dryRun then [] else [s!"  Bytes written: " ++ fixedPoint 2 s.bytes (Nat.pow 2 20) ++ " MB"]) ++
  [s!"  Elapsed time: " ++ durationText elapsed] ++
  (s.manifest.map fun path => s!"  Manifest: {path}").toList

/-- Performs `generate`; the transcript depends on how long that took, in
nanoseconds. -/
def perform (o : GenerateOptions) (d : Disk) : Disk × (Nat → Transcript) :=
  match o.configuration d with
  | .error e => (d, fun _ => .failed e.message)
  | .ok c =>
    let run := c.run o.encoder .all d
    let notes := o.notes c.output run.progress
    match run.result with
    | .error e =>
      (run.disk, fun _ => { notes := notes, failure := some (e.map FixtureError.message) })
    | .ok s =>
      let jobs := run.completed.map Completion.job
      let report (elapsed : Nat) : List String :=
        if o.json then [(o.reportJson c.output elapsed jobs s).prettyText]
        else o.reportLines elapsed s
      (run.disk, fun elapsed => { output := report elapsed, notes := notes })

end FixtureMatrix.GenerateOptions
