import FixtureMatrix.Columnar.DataType
import FixtureMatrix.Schema.Basic

/-!
# Why columns cannot be laid out as arrays
-/

namespace FixtureMatrix

/-- A type or request that cannot be encoded. -/
inductive Unsupported where
  /-- A decimal scale above the stored range. -/
  | decimalScale (scale : Nat) (field : String)
  /-- Fields and columns differ in number. -/
  | columnCount (fields columns : Nat)
  /-- The items of all rows of a list exceed the offsets' range. -/
  | listTooLong (field : String)
  /-- A file name that the encoder was told to refuse. -/
  | rejected (fileName : String)
  /-- Any other reason. -/
  | other (reason : String)

def Unsupported.message : Unsupported → String
  | .decimalScale scale field => s!"decimal scale {scale} of '{field}'"
  | .columnCount fields columns => s!"{fields} schema fields but {columns} columns"
  | .listTooLong field => s!"list '{field}' exceeds i32 offsets"
  | .rejected fileName => s!"recording encoder configured to reject {fileName}"
  | .other reason => reason

/-- An array or a batch of arrays that is not well formed. -/
inductive ArrayError where
  | zeroPrecision
  | precisionAboveMax (precision : Nat)
  | scaleAboveMax (scale : Int8)
  | scaleAbovePrecision (scale : Int8) (precision : Nat)
  /-- A value with more digits than its decimal type. -/
  | decimalOverflow (n : Int) (precision : Nat)
  /-- A list that ends behind the last item. -/
  | offsetTooLarge (offset items : Nat)
  /-- A null among list items that may not be null. -/
  | nullListItem (item : String)
  /-- List items of another type than the list is put under. -/
  | listItemType (item : String) (expected actual : ArrayType)
  /-- A struct's null mask of another length than the struct. -/
  | structNullCount (expected actual : Nat)
  /-- A member of another type than the struct is put under. -/
  | memberType (member : String) (expected actual : ArrayType)
  /-- A member of another length than its struct. -/
  | memberLength (member : String) (expected actual : Nat)
  /-- A null in a member that may not be null, where its struct is not null. -/
  | unmaskedNull (member : String)
  | emptyBatch
  /-- A null in a column that may not be null. -/
  | nullInColumn (column : String)
  | unequalColumns
  /-- A column of another type than its field. -/
  | columnType (expected actual : ArrayType) (index : Nat)

/-- The error as it is shown to people. -/
def ArrayError.message : ArrayError → String
  | .zeroPrecision => "precision cannot be 0, has to be between [1, 38]"
  | .precisionAboveMax precision => s!"precision {precision} is greater than max 38"
  | .scaleAboveMax scale => s!"scale {scale.toInt} is greater than max 38"
  | .scaleAbovePrecision scale precision =>
    s!"scale {scale.toInt} is greater than precision {precision}"
  | .decimalOverflow n precision =>
    let limit : Int := Int.ofNat (Nat.pow 10 precision) - 1
    if 0 ≤ n then
      s!"{n} is too large to store in a Decimal128 of precision {precision}. Max is {limit}"
    else
      s!"{n} is too small to store in a Decimal128 of precision {precision}. Min is -{limit}"
  | .offsetTooLarge offset items => s!"Max offset of {offset} exceeds length of values {items}"
  | .nullListItem item =>
    s!"Non-nullable field of ListArray {Text.quoted item} cannot contain nulls"
  | .listItemType item expected actual =>
    s!"ListArray expected data type {expected.text} got {actual.text} for {Text.quoted item}"
  | .structNullCount expected actual =>
    s!"Incorrect number of nulls for StructArray, expected {expected} got {actual}"
  | .memberType member expected actual =>
    s!"Incorrect datatype for StructArray field {Text.quoted member}, " ++
      s!"expected {expected.text} got {actual.text}"
  | .memberLength member expected actual =>
    s!"Incorrect array length for StructArray field {Text.quoted member}, " ++
      s!"expected {expected} got {actual}"
  | .unmaskedNull member =>
    s!"Found unmasked nulls for non-nullable StructArray field {Text.quoted member}"
  | .emptyBatch => "must either specify a row count or at least one column"
  | .nullInColumn column =>
    s!"Column '{column}' is declared as non-nullable but contains null values"
  | .unequalColumns => "all columns in a record batch must have the same length"
  | .columnType expected actual index =>
    s!"column types must match schema types, expected {expected.text} but found {actual.text} " ++
      s!"at column index {index}"

/-- Why a batch of arrays cannot be built. -/
inductive LayoutError where
  | unsupported (reason : Unsupported)
  /-- A value that is not of its field's type; the row counts within the stream
  of that field. -/
  | valueMismatch (field : String) (row : Nat) (type : LogicalType)
  | array (e : ArrayError)

end FixtureMatrix
