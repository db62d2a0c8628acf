import FixtureMatrix.Document.Profile
import FixtureMatrix.Matrix.Config

/-!
# Configurations in documents

Fields that are left out keep their defaults.
-/

namespace FixtureMatrix

namespace BenchConfig

/-- The fields of the benchmark settings. -/
def shape (d : Dialect N P) : RecordShape N P BenchConfig where
  expected := "struct BenchConfig"
  fields := [
    ("enabled", fun n s => do return { s with enabled := ← d.bool n }),
    ("min_exponent", fun n s => do return { s with minExponent := ← d.unsigned (Nat.pow 2 32) "u32" n }),
    ("max_exponent", fun n s => do return { s with maxExponent := ← d.unsigned (Nat.pow 2 32) "u32" n }),
    ("step", fun n s => do return { s with step := ← d.unsigned (Nat.pow 2 32) "u32" n }),
    ("sizes", fun n s => do
      return { s with explicitSizes := ← d.list (d.unsigned wordLimit "usize") n })]
  missing _ := none
  shortListAllowed := true

def decode (d : Dialect N P) (n : N) : Decoded P BenchConfig :=
  d.record (shape d) {} n

end BenchConfig

namespace MatrixConfig

/-- The fields of a configuration. -/
def shape (d : Dialect N P) : RecordShape N P MatrixConfig where
  expected := "struct MatrixConfig"
  fields := [
    ("output", fun n s => do return { s with output := ← d.string "path string" n }),
    ("matrix", fun n s => do return { s with matrix := ← d.bool n }),
    ("page_versions", fun n s => do
      return { s with pageVersions := ← d.list (PageVersion.decode d) n }),
    ("dictionary", fun n s => do return { s with dictionary := ← d.list d.bool n }),
    ("codecs", fun n s => do return { s with codecs := ← d.list (Compression.decode d) n }),
    ("benchmarks", fun n s => do return { s with benchmarks := ← BenchConfig.decode d n })]
  missing _ := none
  shortListAllowed := true

def decode (d : Dialect N P) (n : N) : Decoded P MatrixConfig :=
  d.record (shape d) {} n

end MatrixConfig

end FixtureMatrix
