import FixtureMatrix.Columnar.DataType
import FixtureMatrix.Value.Basic

/-!
# Columnar arrays

An array holds one column.  The items of all rows of a list stand in one child
array, cut into rows by offsets; the members of a struct are arrays of the
struct's length.  A validity mask tells null rows from others and is left out
when there is no null, so a null list and an empty list stay distinct.

`ColumnArray.values` is the view of an array as the values of its rows.
-/

namespace FixtureMatrix

/-- A primitive cell of an array. -/
inductive Scalar where
  | bool (b : Bool)
  | int (n : Int)
  | float (x : Binary64)
  | str (s : String)
  | bytes (b : ByteArray)

/-- The value a cell stands for; bytes are the UTF-8 form of a string. -/
def Scalar.toValue : Scalar → Value
  | .bool b => .bool b
  | .int n => .int (Int64.ofInt n)
  | .float x => .float x
  | .str s => .str s
  | .bytes b => .str ((String.fromUTF8? b).getD "")

/-- A null cell or a primitive one as a value. -/
def Scalar.valueOrNull : Option Scalar → Value
  | none => .null
  | some s => s.toValue

/-- One column. -/
inductive ColumnArray where
  | leaf (type : ArrayType) (cells : List (Option Scalar))
  | list (item : ArrayField) (offsets : List Nat) (validity : Option (List Bool))
    (child : ColumnArray)
  | struct (members : List ArrayField) (validity : Option (List Bool))
    (children : List ColumnArray)

namespace ColumnArray

/-- The type of the rows. -/
def type : ColumnArray → ArrayType
  | leaf t _ => t
  | list item _ _ _ => .list item
  | struct members _ _ => .struct members

/-- The number of rows.  A struct without members has none. -/
def length : ColumnArray → Nat
  | leaf _ cells => cells.length
  | list _ offsets _ _ => offsets.length - 1
  | struct _ _ [] => 0
  | struct _ _ (child :: _) => child.length

/-- Which rows are not null, where a mask is kept. -/
def mask (length : Nat) : Option (List Bool) → List Bool
  | none => List.replicate length true
  | some validity => validity

/-- Which rows are not null. -/
def validRows (a : ColumnArray) : List Bool :=
  match a with
  | leaf _ cells => cells.map Option.isSome
  | list _ _ validity _ => mask a.length validity
  | struct _ validity _ => mask a.length validity

/-- The number of null rows. -/
def nullCount (a : ColumnArray) : Nat :=
  a.validRows.count false

/-- Cuts a stream into rows at the offsets. -/
def cutRows : List Nat → List Value → List (List Value)
  | a :: b :: offsets, vs => vs.take (b - a) :: cutRows (b :: offsets) (vs.drop (b - a))
  | _, _ => []

/-- Puts a null where a row is not valid. -/
def masked : Option (List Bool) → List Value → List Value
  | none, vs => vs
  | some validity, vs => List.zipWith (fun valid v => if valid then v else .null) validity vs

mutual

/-- The values of the rows. -/
def values : ColumnArray → List Value
  | leaf _ cells => cells.map Scalar.valueOrNull
  | list _ offsets validity child =>
    masked validity ((cutRows offsets child.values).map .list)
  | struct _ validity children => masked validity ((memberRows children).map .struct)

/-- The rows of several members side by side. -/
def memberRows : List ColumnArray → List (List Value)
  | [] => []
  | [a] => a.values.map fun v => [v]
  | a :: b :: rest => List.zipWith List.cons a.values (memberRows (b :: rest))

end

end ColumnArray

end FixtureMatrix
