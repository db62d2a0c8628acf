import FixtureMatrix.Columnar.Array
import FixtureMatrix.Columnar.Conversion
import FixtureMatrix.Schema.Decimal

/-!
# Building arrays from values

`Field.buildArray` lays out a stream of values as an array.  The items of all
lists go into one stream with running offsets, the members of all structs into
one stream per member, with nulls where the struct itself is null.  An array
is refused when a value does not fit its type, when a decimal type or value is
out of range, when a null stands unmasked where none may be, or when a part is
not of the type that it is put under.
-/

namespace FixtureMatrix

/-- The largest list offset. -/
def maxOffset : Nat := Nat.pow 2 31 - 1

/-- The cell that stores a value as one of a primitive type. -/
def LogicalType.cell? : LogicalType → Value → Option Scalar
  | .bool, .bool b => some (.bool b)
  | .int16, .int n => if -32768 ≤ n.toInt ∧ n.toInt < 32768 then some (.int n.toInt) else none
  | .uint32, .int n => if 0 ≤ n.toInt ∧ n.toInt < 4294967296 then some (.int n.toInt) else none
  | .int64, .int n | .decimal _ _, .int n | .timestamp _ _, .int n => some (.int n.toInt)
  | .float64, .float x => some (.float x)
  | .utf8, .str s => some (.str s)
  | .largeBinary, .str s => some (.bytes s.toUTF8)
  | _, _ => none

namespace ColumnArray

/-- The cells of a primitive stream from row number `row` on. -/
def cellsFrom (name : String) (type : LogicalType) :
    Nat → List Value → Except LayoutError (List (Option Scalar))
  | _, [] => .ok []
  | row, v :: vs =>
    match v with
    | .null => do
      let cells ← cellsFrom name type (row + 1) vs
      return none :: cells
    | v =>
      match type.cell? v with
      | none => .error (.valueMismatch name row type)
      | some c => do
        let cells ← cellsFrom name type (row + 1) vs
        return some c :: cells

/-- The first cell that has more digits than its decimal type. -/
def checkDigits (precision : Nat) : List (Option Scalar) → Except LayoutError Unit
  | [] => .ok ()
  | some (.int n) :: cells =>
    if decimalFits n precision then checkDigits precision cells
    else .error (.array (.decimalOverflow n precision))
  | _ :: cells => checkDigits precision cells

/-- An array of one type from a stream of primitive values. -/
def ofPrimitives (name : String) (type : LogicalType) (stored : ArrayType) (vs : List Value) :
    Except LayoutError ColumnArray := do
  let cells ← cellsFrom name type 0 vs
  return .leaf stored cells

/-- An array of decimals, if their type and digits are in range. -/
def ofDecimals (precision : Nat) (scale : Int8) (cells : List (Option Scalar)) :
    Except LayoutError ColumnArray :=
  if precision = 0 then .error (.array .zeroPrecision)
  else if maxDecimalPrecision < precision then .error (.array (.precisionAboveMax precision))
  else if maxDecimalPrecision < scale.toInt then .error (.array (.scaleAboveMax scale))
  else if 0 < scale.toInt ∧ precision < scale.toInt then
    .error (.array (.scaleAbovePrecision scale precision))
  else do
    checkDigits precision cells
    return .leaf (.decimal128 precision scale) cells

/-- The stream of all items of a list, how it is cut, and which rows are not null. -/
structure FlatLists where
  offsets : List Nat
  validity : List Bool
  items : List Value

/-- Flattens rows of lists, from row number `row` and offset `start` on.  The
offset of the start itself is not among the offsets. -/
def flattenFrom (name : String) (item : Field) :
    Nat → Nat → List Value → Except LayoutError FlatLists
  | _, _, [] => .ok ⟨[], [], []⟩
  | row, start, .null :: vs => do
    let flat ← flattenFrom name item (row + 1) start vs
    return ⟨start :: flat.offsets, false :: flat.validity, flat.items⟩
  | row, start, .list items :: vs =>
    let stop := start + items.length
    if maxOffset < stop then .error (.unsupported (.listTooLong name))
    else do
      let flat ← flattenFrom name item (row + 1) stop vs
      return ⟨stop :: flat.offsets, true :: flat.validity, items ++ flat.items⟩
  | row, _, _ :: _ => .error (.valueMismatch name row (.list item))

/-- A null mask, left out when every row is valid. -/
def maskOf (validity : List Bool) : Option (List Bool) :=
  if validity.all id then none else some validity

/-- A list array, if it has all its items, none is null that may not be, and they
are of the type of the field they are put under. -/
def ofLists (item : ArrayField) (offsets : List Nat) (validity : List Bool)
    (child : ColumnArray) : Except LayoutError ColumnArray :=
  let last := offsets.getLastD 0
  if child.length < last then .error (.array (.offsetTooLarge last child.length))
  else if item.nullable = false ∧ child.nullCount ≠ 0 then .error (.array (.nullListItem item.name))
  else if item.type ≠ child.type then
    .error (.array (.listItemType item.name item.type child.type))
  else .ok (.list item offsets (maskOf validity) child)

/-- The rows of a struct as rows of members, with nulls for a null struct. -/
structure FlatStructs where
  validity : List Bool
  rows : List (List Value)

/-- Takes structs apart, from row number `row` on. -/
def membersFrom (name : String) (members : List Field) :
    Nat → List Value → Except LayoutError FlatStructs
  | _, [] => .ok ⟨[], []⟩
  | row, .null :: vs => do
    let flat ← membersFrom name members (row + 1) vs
    return ⟨false :: flat.validity, List.replicate members.length .null :: flat.rows⟩
  | row, .struct parts :: vs =>
    if parts.length = members.length then do
      let flat ← membersFrom name members (row + 1) vs
      return ⟨true :: flat.validity, parts :: flat.rows⟩
    else .error (.valueMismatch name row (.struct members))
  | row, _ :: _ => .error (.valueMismatch name row (.struct members))

/-- Whether every null row of a member is a null row of its struct. -/
def nullsMasked : List Bool → List Bool → Bool
  | structValid :: rest, memberValid :: more =>
    (memberValid || !structValid) && nullsMasked rest more
  | _, _ => true

/-- Checks the members of a struct of some length, in order. -/
def checkMembers (length : Nat) (validity : List Bool) :
    List ArrayField → List ColumnArray → Except LayoutError Unit
  | f :: fs, a :: as =>
    if f.type ≠ a.type then .error (.array (.memberType f.name f.type a.type))
    else if a.length ≠ length then .error (.array (.memberLength f.name length a.length))
    else if f.nullable = false ∧ nullsMasked validity a.validRows = false then
      .error (.array (.unmaskedNull f.name))
    else checkMembers length validity fs as
  | _, _ => .ok ()

/-- A struct array, if its members have their types and its length and no null
stands unmasked in a member that may not be null. -/
def ofStructs (members : List ArrayField) (validity : List Bool) (children : List ColumnArray) :
    Except LayoutError ColumnArray :=
  let a := ColumnArray.struct members (maskOf validity) children
  if validity.all id = false ∧ validity.length ≠ a.length then
    .error (.array (.structNullCount a.length validity.length))
  else do
    checkMembers a.length validity members children
    return a

end ColumnArray

mutual

/-- The array of a stream of values. -/
def Field.buildArray : Field → List Value → Except LayoutError ColumnArray
  | .mk name type _, vs => type.buildArray name vs

/-- The array of a stream of values of a type, for a field of this name. -/
def LogicalType.buildArray (name : String) :
    LogicalType → List Value → Except LayoutError ColumnArray
  | .bool, vs => ColumnArray.ofPrimitives name .bool .boolean vs
  | .int16, vs => ColumnArray.ofPrimitives name .int16 .int16 vs
  | .int64, vs => ColumnArray.ofPrimitives name .int64 .int64 vs
  | .uint32, vs => ColumnArray.ofPrimitives name .uint32 .uint32 vs
  | .float64, vs => ColumnArray.ofPrimitives name .float64 .float64 vs
  | .utf8, vs => ColumnArray.ofPrimitives name .utf8 .utf8 vs
  | .largeBinary, vs => ColumnArray.ofPrimitives name .largeBinary .largeBinary vs
  | .decimal precision scale, vs => do
    let cells ← ColumnArray.cellsFrom name (.decimal precision scale) 0 vs
    match storedScale? scale with
    | none => .error (.unsupported (.decimalScale scale name))
    | some scale => ColumnArray.ofDecimals precision scale cells
  | .timestamp unit timezone, vs =>
    let ofUnit (stored : ArrayUnit) : Except LayoutError ColumnArray :=
      ColumnArray.ofPrimitives name (.timestamp unit timezone) (.timestamp stored timezone) vs
    match unit with
    | .second => ofUnit .second
    | .millisecond => ofUnit .millisecond
    | .microsecond => ofUnit .microsecond
    | .nanosecond => ofUnit .nanosecond
  | .list item, vs => do
    let flat ← ColumnArray.flattenFrom name item 0 0 vs
    let child ← item.buildArray flat.items
    let item ← item.arrayField
    ColumnArray.ofLists item (0 :: flat.offsets) flat.validity child
  | .struct members, vs => do
    let flat ← ColumnArray.membersFrom name members 0 vs
    let children ← Field.buildMembers members flat.rows
    let members ← Field.arrayFields members
    ColumnArray.ofStructs members flat.validity children

/-- The arrays of the members of a struct, from its rows. -/
def Field.buildMembers : List Field → List (List Value) → Except LayoutError (List ColumnArray)
  | [], _ => .ok []
  | f :: fs, rows => do
    let a ← f.buildArray (rows.map fun row => row.headD .null)
    let as ← Field.buildMembers fs (rows.map List.tail)
    return a :: as

end

end FixtureMatrix
