import FixtureMatrix.Columnar.Error
import FixtureMatrix.Disk.Basic

/-!
# Why a file cannot be encoded
-/

namespace FixtureMatrix

/-- A failure to encode one file. -/
inductive EncodeError where
  | layout (e : LayoutError)
  /-- A struct without members, which the file format cannot hold. -/
  | emptyStruct
  | io (e : OsError)

namespace EncodeError

/-- A request that the encoder refuses. -/
def unsupported (reason : Unsupported) : EncodeError :=
  .layout (.unsupported reason)

/-- The error as it is shown to people. -/
def message : EncodeError → String
  | .layout (.unsupported reason) => s!"unsupported: {reason.message}"
  | .layout (.valueMismatch field row type) =>
    s!"column '{field}': row {row} does not fit {type.text}"
  | .layout (.array e) => s!"arrow: Invalid argument error: {e.message}"
  | .emptyStruct => "parquet: Arrow: Parquet does not support writing empty structs"
  | .io e => s!"io: {e.message}"

/-- Whether the error passes on one from a layer below. -/
def hasCause : EncodeError → Bool
  | .layout (.unsupported _) | .layout (.valueMismatch _ _ _) => false
  | .layout (.array _) | .emptyStruct | .io _ => true

end EncodeError

end FixtureMatrix
