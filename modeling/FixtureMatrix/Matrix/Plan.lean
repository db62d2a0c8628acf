import FixtureMatrix.Matrix.Config
import FixtureMatrix.Matrix.Job

/-!
# Plans

The jobs of a run, in order.  The full pass takes every canonical case under
every configured single-page profile; the benchmark pass takes six jobs per
row count, and fails before any of them if a row count is not a whole number of
units.
-/

namespace FixtureMatrix

/-- The profiles of the benchmark pass, in order, and what each repeats. -/
def benchProfiles : List (BenchVariant × Profile) :=
  [(.nullable, ⟨.v1, true, .single, .none⟩),
    (.nullable, ⟨.v1, false, .single, .none⟩),
    (.required, ⟨.v1, false, .single, .none⟩),
    (.nullable, ⟨.v1, false, .multi, .none⟩),
    (.nullable, ⟨.v1, false, .multi, .snappy⟩),
    (.nullable, ⟨.v1, false, .single, .snappy⟩)]

/-- A part of a run. -/
inductive Pass where
  | full
  | bench
  | all
deriving DecidableEq

namespace MatrixConfig

/-- Every canonical case under every configured single-page profile. -/
def planFull (c : MatrixConfig) : List Job :=
  CaseDescriptor.canonical.flatMap fun d =>
    c.pageVersions.flatMap fun version =>
      c.dictionary.flatMap fun dictionary =>
        c.codecs.map fun codec => Job.canonical d ⟨version, dictionary, .single, codec⟩

/-- The error of a row count that is not a positive whole number of units.  It
names the first benchmark file of that count. -/
def sizeFault (rows : Nat) : FixtureError :=
  .config (BenchVariant.nullable.stem rows) (some ⟨.v1, true, .single, .none⟩)
    (.benchmarkSize rows benchTileRows)

/-- The first row count that is not a positive whole number of units. -/
def badSize? (sizes : List Nat) : Option Nat :=
  sizes.find? fun rows => rows = 0 || rows % benchTileRows ≠ 0

/-- Six jobs per row count. -/
def planBench (c : MatrixConfig) : Except FixtureError (List Job) :=
  match badSize? c.benchmarks.sizes with
  | some rows => .error (sizeFault rows)
  | none =>
    .ok (c.benchmarks.sizes.flatMap fun rows =>
      benchProfiles.map fun p => Job.bench p.1 rows p.2)

/-- The jobs of every enabled pass. -/
def plan (c : MatrixConfig) : Except FixtureError (List Job) := do
  let full := if c.matrix then c.planFull else []
  let bench ← if c.benchmarks.enabled then c.planBench else .ok []
  return full ++ bench

/-- The jobs of one pass, whether or not it is enabled, or of all enabled ones. -/
def planPass (c : MatrixConfig) : Pass → Except FixtureError (List Job)
  | .full => .ok c.planFull
  | .bench => c.planBench
  | .all => c.plan

end MatrixConfig

end FixtureMatrix
