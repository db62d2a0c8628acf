import FixtureMatrix.Schema.Encoding
import FixtureMatrix.Value.Basic

/-!
# Fixture cases

A case is a schema with one column of values per field, under the name of the
file it is written to.  Nothing here forces columns and fields to agree; that
is what `FixtureCase.validate` checks.
-/

namespace FixtureMatrix

/-- A named stream of values. -/
structure Column where
  name : String
  values : List Value

/-- The schema and the data of one file. -/
structure FixtureCase where
  id : String
  schema : Schema
  /-- The columns, in schema order. -/
  columns : List Column
  fileName : String

namespace FixtureCase

/-- The number of rows, taken from the first column. -/
def numRows (c : FixtureCase) : Nat :=
  match c.columns with
  | [] => 0
  | column :: _ => column.values.length

/-- The values of the first column of a name. -/
def column? (c : FixtureCase) (name : String) : Option (List Value) :=
  (c.columns.find? fun column => column.name = name).map Column.values

end FixtureCase

def Column.toJson (c : Column) : Json :=
  .obj [("name", .str c.name), ("values", .arr (Value.allToJson c.values))]

def FixtureCase.toJson (c : FixtureCase) : Json :=
  .obj [("id", .str c.id), ("schema", c.schema.toJson), ("columns", .ofList Column.toJson c.columns),
    ("file_name", .str c.fileName)]

end FixtureMatrix
