import FixtureMatrix.Case.Canonical
import FixtureMatrix.Case.Validate
import FixtureMatrix.Error

/-!
# Jobs

A job is one file to generate: a canonical case, or the first rows of one of
the basic cases repeated up to a row count, under a profile.
-/

namespace FixtureMatrix

/-- Which of the basic cases a benchmark file repeats. -/
inductive BenchVariant where
  | nullable
  | required
deriving DecidableEq

namespace BenchVariant

def descriptor : BenchVariant → CaseDescriptor
  | nullable => .basicNullable
  | required => .basicRequired

/-- The file name without its ending. -/
def stem : BenchVariant → Nat → String
  | nullable, rows => s!"benches_{rows}"
  | required, rows => s!"benches_required_{rows}"

end BenchVariant

/-- Where the rows of a job come from. -/
inductive JobSource where
  | canonical (d : CaseDescriptor)
  | bench (variant : BenchVariant) (rows : Nat)

/-- The number of leading rows that benchmark files repeat. -/
def benchTileRows : Nat := 8

/-- One file to generate. -/
structure Job where
  source : JobSource
  profile : Profile
  fileName : String

namespace Job

/-- A job for a canonical case. -/
def canonical (d : CaseDescriptor) (profile : Profile) : Job :=
  ⟨.canonical d, profile, d.fileName⟩

/-- A job for a benchmark file. -/
def bench (variant : BenchVariant) (rows : Nat) (profile : Profile) : Job :=
  ⟨.bench variant rows, profile, variant.stem rows ++ ".parquet"⟩

/-- The id of a canonical case, or the stem of a benchmark file. -/
def label (j : Job) : String :=
  match j.source with
  | .canonical d => d.id
  | .bench variant rows => variant.stem rows

def rows (j : Job) : Nat :=
  match j.source with
  | .canonical d => d.rows
  | .bench _ rows => rows

/-- The path below the output root: the profile's segments and the file name. -/
def relativePath (j : Job) : String :=
  "/".intercalate (j.profile.segments ++ [j.fileName])

/-- A configuration error of this job. -/
def fault (j : Job) (reason : ConfigReason) : FixtureError :=
  .config j.label (some j.profile) reason

/-- The case of the source, not checked yet. -/
def sourceCase (j : Job) : Except (Halt FixtureError) FixtureCase :=
  match j.source with
  | .canonical d => .ok d.build
  | .bench variant rows =>
    (variant.descriptor.build.tilePrefix benchTileRows rows).mapError
      (Halt.map fun e => j.fault (.expansion e))

/-- The case that the job encodes. -/
def buildCase (j : Job) : Except (Halt FixtureError) FixtureCase := do
  let c ← j.sourceCase
  match c.validate with
  | .ok () => return c
  | .error e => .error (.returned (j.fault (.invalidCase e)))

end Job

end FixtureMatrix
