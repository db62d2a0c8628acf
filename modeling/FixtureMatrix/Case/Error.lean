import FixtureMatrix.Schema.Decimal

/-!
# Why a case does not fit its schema
-/

namespace FixtureMatrix

/-- The first violation found in a case. -/
inductive CaseError where
  /-- A field without a column, or columns out of schema order. -/
  | missingColumn (field : String)
  /-- A column beyond the last field. -/
  | unexpectedColumn (column : String)
  /-- A column whose length differs from the first column's. -/
  | rowCountMismatch (column : String) (expected actual : Nat)
  /-- A null where the field forbids it. -/
  | nullInRequired (column : String) (row : Nat)
  /-- A value that is not of the type at its place. -/
  | typeMismatch (column : String) (row : Nat) (expected : LogicalType)
  /-- A decimal that no supported width can store. -/
  | invalidDecimal (decimal : UnsupportedDecimal)

/-- The error as it is shown to people. -/
def CaseError.message : CaseError → String
  | .missingColumn field => s!"schema field '{field}' has no matching column"
  | .unexpectedColumn column => s!"column '{column}' is not declared in the schema"
  | .rowCountMismatch column expected actual =>
    s!"column '{column}' has {actual} rows, expected {expected}"
  | .nullInRequired column row => s!"null in non-nullable position of '{column}' at row {row}"
  | .typeMismatch column row expected =>
    s!"value of '{column}' at row {row} does not match type {expected.text}"
  | .invalidDecimal d =>
    s!"decimal({d.precision}, {d.scale}) of '{d.field}' has no supported physical width"

end FixtureMatrix
