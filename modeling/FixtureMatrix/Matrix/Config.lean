import FixtureMatrix.Error
import FixtureMatrix.Profile

/-!
# Configuration

Which dimensions and sizes one run covers.  `MatrixConfig.validate` refuses
settings of an enabled pass that would produce no file, files without bound, or
the same file twice.
-/

namespace FixtureMatrix

/-- Settings of the benchmark pass. -/
structure BenchConfig where
  enabled : Bool := true
  minExponent : Nat := 10
  maxExponent : Nat := 20
  step : Nat := 2
  /-- Row counts; if there are any, the exponents do not count. -/
  explicitSizes : List Nat := []
deriving DecidableEq

namespace BenchConfig

/-- The row counts of the benchmark files, in the order they are generated:
the listed ones, or else the powers of two from the least exponent up to the
greatest in steps.  A power is a word with one bit set, so its exponent
counts modulo 64. -/
def sizes (b : BenchConfig) : List Nat :=
  if b.explicitSizes ≠ [] then b.explicitSizes
  else if b.step = 0 then []
  else
    (List.range' b.minExponent ((b.maxExponent + b.step - b.minExponent) / b.step) b.step).map
      fun e => Nat.pow 2 (e % 64)

end BenchConfig

/-- Which dimensions and sizes one run covers. -/
structure MatrixConfig where
  /-- The root that every artifact path is relative to. -/
  output : String := "fixtures/parquet"
  /-- Whether the canonical cases are written. -/
  matrix : Bool := true
  pageVersions : List PageVersion := PageVersion.all
  dictionary : List Bool := [true, false]
  codecs : List Compression := [.lz4, .none, .snappy]
  benchmarks : BenchConfig := {}
deriving DecidableEq

/-- The first value of a list that stood in it before, given those before it. -/
def firstRepeated? [BEq α] (seen : List α) : List α → Option α
  | [] => none
  | a :: as => if seen.contains a then some a else firstRepeated? (a :: seen) as

/-- Refuses a list that holds a value more than once. -/
def rejectRepeated [BEq α] (list : String) (text : α → String) (values : List α) :
    Except SettingError Unit :=
  match firstRepeated? [] values with
  | some a => .error (.repeated list (text a))
  | none => .ok ()

/-- The largest exponent accepted. -/
def maxBenchExponent : Nat := 30

def boolText (b : Bool) : String :=
  if b then "true" else "false"

def natText (n : Nat) : String :=
  String.ofList (Digits.ofNat n)

namespace MatrixConfig

/-- The settings of the canonical pass. -/
def checkMatrix (c : MatrixConfig) : Except SettingError Unit := do
  if c.pageVersions.isEmpty then .error .noPageVersions
  if c.dictionary.isEmpty then .error .noDictionary
  if c.codecs.isEmpty then .error .noCodecs
  rejectRepeated "page_versions" PageVersion.text c.pageVersions
  rejectRepeated "dictionary" boolText c.dictionary
  rejectRepeated "codecs" Compression.name c.codecs

/-- The settings of the benchmark pass. -/
def checkBenchmarks (b : BenchConfig) : Except SettingError Unit := do
  if b.explicitSizes.isEmpty then
    if b.step = 0 then .error .zeroStep
    if b.maxExponent < b.minExponent then .error .exponentsReversed
    if maxBenchExponent < b.maxExponent then
      .error (.exponentTooLarge b.maxExponent maxBenchExponent)
  if b.explicitSizes.contains 0 then .error .zeroSize
  rejectRepeated "benchmarks.sizes" natText b.explicitSizes

/-- Checks the settings of each enabled pass. -/
def check (c : MatrixConfig) : Except SettingError Unit := do
  if c.matrix then c.checkMatrix
  if c.benchmarks.enabled then checkBenchmarks c.benchmarks

/-- The first setting that is refused, as a configuration error. -/
def validate (c : MatrixConfig) : Except FixtureError Unit :=
  match c.check with
  | .ok () => .ok ()
  | .error e => .error (.config "config" none (.setting e))

end MatrixConfig

end FixtureMatrix
