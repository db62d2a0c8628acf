import FixtureMatrix.Case.Canonical
import FixtureMatrix.Case.Validate
import FixtureMatrix.Command.Transcript
import FixtureMatrix.Manifest.Disk
import FixtureMatrix.Matrix.Plan
import FixtureMatrix.Value.Render

/-!
# Listing, showing and verifying

These commands only read: `list` tells the canonical cases and the default
plan, `show` the rows of one case, and `verify` how the files below a root
compare with their manifest.
-/

namespace FixtureMatrix

/-! ## Listing -/

/-- A canonical case in JSON. -/
def CaseDescriptor.summary (d : CaseDescriptor) : Json :=
  let c := d.build
  .obj [("id", .str d.id), ("file_name", .str d.fileName), ("rows", .nat c.numRows),
    ("fields", .nat c.schema.fields.length), ("nullable_fields", .nat c.schema.nullableCount),
    ("leaf_columns", .nat c.schema.leafCount), ("description", .str d.description)]

/-- A canonical case on a line. -/
def CaseDescriptor.line (d : CaseDescriptor) : String :=
  let c := d.build
  "  " ++ padRight 16 d.id ++ " " ++ padRight 34 d.fileName ++ " " ++
    padLeft 3 (natText c.numRows) ++ " rows  " ++ padLeft 2 (natText c.schema.fields.length) ++
    " fields  " ++ d.description

/-- Performs `list`. -/
def listCases (json : Bool) : Transcript :=
  let config : MatrixConfig := {}
  let sizes := config.benchmarks.sizes
  let matrixJobs := config.planFull.length
  match config.planBench with
  | .error e => .failed e.message
  | .ok benchJobs =>
    if json then
      .document (.obj [("cases", .ofList CaseDescriptor.summary CaseDescriptor.canonical),
        ("matrix_jobs", .nat matrixJobs), ("benchmark_jobs", .nat benchJobs.length),
        ("benchmark_sizes", .ofList Json.nat sizes)])
    else
      { output :=
          "Canonical cases:" :: CaseDescriptor.canonical.map CaseDescriptor.line ++
          ["", "Default run:", s!"  Full matrix: {matrixJobs} files",
            s!"  Benchmarks: {benchJobs.length} files ({sizes.length} sizes: " ++
              ", ".intercalate (sizes.map natText) ++ ")"] }

/-! ## Showing -/

/-- The rendered values of one row, in field order. -/
def FixtureCase.renderRow (c : FixtureCase) (row : Nat) : List String :=
  List.zipWith (fun (f : Field) (column : Column) =>
    (column.values[row]?.getD .null).renderText f.type) c.schema.fields c.columns

/-- A field of a case in JSON. -/
def Field.outlineJson (f : Field) : Json :=
  .obj [("name", .str f.name), ("type", .str f.type.text), ("nullable", .bool f.nullable)]

/-- A field of a case on a line. -/
def Field.outlineLine (f : Field) : String :=
  s!"  {f.name}: {f.type.text}" ++ (if f.nullable then "" else " not null")

/-- The lines of one row. -/
def FixtureCase.rowLines (c : FixtureCase) (row : Nat) : List String :=
  s!"  [{row}]" ::
    List.zipWith (fun (f : Field) value => s!"    {f.name} = {value}") c.schema.fields
      (c.renderRow row)

/-- Performs `show` on a case. -/
def FixtureCase.present (c : FixtureCase) (json : Bool) : Transcript :=
  let rows := List.range c.numRows
  if json then
    .document (.obj [("id", .str c.id), ("file_name", .str c.fileName), ("rows", .nat c.numRows),
      ("fields", .ofList Field.outlineJson c.schema.fields),
      ("data", .ofList (fun row => .ofList Json.str (c.renderRow row)) rows)])
  else
    { output :=
        s!"{c.id} ({c.fileName}, {c.numRows} rows)" :: "" :: "Schema:" ::
          c.schema.fields.map Field.outlineLine ++ "" :: "Rows:" :: rows.flatMap c.rowLines }

/-- Performs `show`. -/
def showCase (id : String) (json : Bool) : Transcript :=
  match CaseDescriptor.find? id with
  | none =>
    .failed (s!"Unknown case: {id}. Valid options: " ++
      ", ".intercalate (CaseDescriptor.canonical.map CaseDescriptor.id))
  | some d =>
    let c := d.build
    match c.validate with
    | .error e => .failed e.message
    | .ok () => c.present json

/-! ## Verifying -/

/-- A mismatch in JSON. -/
def ChecksumMismatch.toJson (m : ChecksumMismatch) : Json :=
  .obj [("path", .str m.path), ("expected", .str m.expected), ("actual", .str m.actual)]

namespace VerifyReport

/-- A report in JSON. -/
def toJson (r : VerifyReport) (output : String) : Json :=
  .obj [("output_dir", .str output), ("ok", .bool r.isClean), ("checked", .nat r.checked),
    ("verified", .nat r.verified), ("missing", .ofList Json.str r.missing),
    ("mismatched", .ofList ChecksumMismatch.toJson r.mismatched),
    ("stray", .ofList Json.str r.stray)]

/-- A report for people. -/
def lines (r : VerifyReport) (output : String) : List String :=
  [s!"Verifying fixtures in {output}", s!"  Checked: {r.checked}", s!"  Verified: {r.verified}"] ++
  (r.missing.map fun path => s!"  ✗ missing: {path}") ++
  (r.mismatched.map fun m =>
    s!"  ✗ checksum mismatch: {m.path} (expected {m.expected}, found {m.actual})") ++
  (r.stray.map fun path => s!"  ⚠ not in manifest: {path}") ++
  (if r.isClean then ["", "✓ All fixtures match the manifest"] else [])

end VerifyReport

/-- Performs `verify`. -/
def verifyOutput (output : String) (json : Bool) (d : Disk) : Transcript :=
  match Manifest.verify d output with
  | .error e => .failed e.message
  | .ok r =>
    { output := if json then [(r.toJson output).prettyText] else r.lines output
      failure :=
        if r.isClean then none
        else some (.returned s!"fixture verification failed for {output}") }

end FixtureMatrix
