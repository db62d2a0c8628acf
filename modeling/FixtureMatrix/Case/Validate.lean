import FixtureMatrix.Case.Basic
import FixtureMatrix.Case.Error

/-!
# Checking a case against its schema

`Value.check` decides whether one value fits a field, looking inside lists and
structs from left to right.  `FixtureCase.validate` checks the decimals of the
schema first and then column by column: its name, its length and its values in
row order.
-/

namespace FixtureMatrix

/-- Why a value does not fit a field. -/
inductive Misfit where
  /-- A null in a position that forbids it. -/
  | null
  /-- A value that is not of the type at its position. -/
  | shape (expected : LogicalType)

/-- Whether an integer may stand where a type is asked for. -/
def LogicalType.acceptsInt : LogicalType → Int → Bool
  | .int16, n => -32768 ≤ n && n < 32768
  | .uint32, n => 0 ≤ n && n < 4294967296
  | .decimal precision _, n => hasDigits precision n
  | .int64, _ | .timestamp _ _, _ => true
  | _, _ => false

mutual

/-- Whether a value fits a field; the error is the first position, from left
to right and from the outside in, that does not. -/
def Value.check (f : Field) : Value → Except Misfit Unit
  | .null => if f.nullable then .ok () else .error .null
  | .bool _ =>
    match f.type with
    | .bool => .ok ()
    | type => .error (.shape type)
  | .int n => if f.type.acceptsInt n.toInt then .ok () else .error (.shape f.type)
  | .float _ =>
    match f.type with
    | .float64 => .ok ()
    | type => .error (.shape type)
  | .str _ =>
    match f.type with
    | .utf8 | .largeBinary => .ok ()
    | type => .error (.shape type)
  | .list items =>
    match f.type with
    | .list item => Value.checkItems item items
    | type => .error (.shape type)
  | .struct values =>
    match f.type with
    | .struct members =>
      if members.length = values.length then Value.checkMembers members values
      else .error (.shape (.struct members))
    | type => .error (.shape type)

/-- Whether all items of a list fit its item field. -/
def Value.checkItems (item : Field) : List Value → Except Misfit Unit
  | [] => .ok ()
  | v :: vs => do
    Value.check item v
    Value.checkItems item vs

/-- Whether the members of a struct fit their fields. -/
def Value.checkMembers : List Field → List Value → Except Misfit Unit
  | f :: fs, v :: vs => do
    Value.check f v
    Value.checkMembers fs vs
  | _, _ => .ok ()

end

/-- A misfit in a row of a column. -/
def Misfit.inRow (column : String) (row : Nat) : Misfit → CaseError
  | .null => .nullInRequired column row
  | .shape expected => .typeMismatch column row expected

/-- Checks the values of a column from row number `row` on. -/
def Field.checkRows (f : Field) (column : String) : Nat → List Value → Except CaseError Unit
  | _, [] => .ok ()
  | row, v :: vs =>
    match v.check f with
    | .ok () => f.checkRows column (row + 1) vs
    | .error e => .error (e.inRow column row)

/-- Checks one column against its field. -/
def Field.checkColumn (f : Field) (rows : Nat) (c : Column) : Except CaseError Unit :=
  if f.name ≠ c.name then .error (.missingColumn f.name)
  else if c.values.length ≠ rows then .error (.rowCountMismatch c.name rows c.values.length)
  else f.checkRows c.name 0 c.values

/-- Pairs fields with columns in order and checks each column. -/
def Field.checkColumns (rows : Nat) : List Field → List Column → Except CaseError Unit
  | [], [] => .ok ()
  | [], c :: _ => .error (.unexpectedColumn c.name)
  | f :: _, [] => .error (.missingColumn f.name)
  | f :: fs, c :: cs => do
    f.checkColumn rows c
    Field.checkColumns rows fs cs

/-- Checks the decimals of the schema, the pairing of columns and fields, the
row counts, and every value. -/
def FixtureCase.validate (c : FixtureCase) : Except CaseError Unit :=
  match Field.checkAllDecimals c.schema.fields with
  | .error d => .error (.invalidDecimal d)
  | .ok () => Field.checkColumns c.numRows c.schema.fields c.columns

end FixtureMatrix
