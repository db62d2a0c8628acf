import FixtureMatrix.Case.Basic
import FixtureMatrix.Columnar.Build

/-!
# Batches

A batch holds every column of a case as an array, all of one length.
-/

namespace FixtureMatrix

/-- Arrays of equal length under a schema. -/
structure Batch where
  schema : ArraySchema
  arrays : List ColumnArray

namespace Batch

/-- The number of rows. -/
def numRows (b : Batch) : Nat :=
  match b.arrays with
  | [] => 0
  | a :: _ => a.length

/-- The arrays of fields and columns paired in order. -/
def buildArrays : List Field → List Column → Except LayoutError (List ColumnArray)
  | f :: fs, c :: cs => do
    let a ← f.buildArray c.values
    let as ← buildArrays fs cs
    return a :: as
  | _, _ => .ok []

/-- The first column with a null that its field forbids. -/
def checkNulls : List ArrayField → List ColumnArray → Except LayoutError Unit
  | f :: fs, a :: as =>
    if f.nullable = false ∧ a.nullCount ≠ 0 then .error (.array (.nullInColumn f.name))
    else checkNulls fs as
  | _, _ => .ok ()

/-- The first column, from number `index` on, that is not of its field's type. -/
def checkTypes : Nat → List ArrayField → List ColumnArray → Except LayoutError Unit
  | index, f :: fs, a :: as =>
    if f.type ≠ a.type then .error (.array (.columnType f.type a.type index))
    else checkTypes (index + 1) fs as
  | _, _, _ => .ok ()

/-- A batch, if no column has a null it may not have and all are equally long and of
the types of their fields. -/
def ofArrays (schema : ArraySchema) (arrays : List ColumnArray) : Except LayoutError Batch :=
  match arrays with
  | [] => .error (.array .emptyBatch)
  | first :: rest => do
    checkNulls schema.fields arrays
    if rest.all fun a => a.length = first.length then do
      checkTypes 0 schema.fields arrays
      return ⟨schema, arrays⟩
    else .error (.array .unequalColumns)

/-- The batch of a schema and its columns. -/
def build (schema : Schema) (columns : List Column) : Except LayoutError Batch := do
  if schema.fields.length ≠ columns.length then
    .error (.unsupported (.columnCount schema.fields.length columns.length))
  let arrays ← buildArrays schema.fields columns
  let converted ← schema.arraySchema
  ofArrays converted arrays

end Batch

end FixtureMatrix
