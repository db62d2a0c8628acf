import FixtureMatrix.Json.Basic

/-!
# Values

One cell of a column: null, a primitive, a list of values, or the members of a
struct in schema order.
-/

namespace FixtureMatrix

/-- One cell of a column. -/
inductive Value where
  | null
  | bool (b : Bool)
  | int (n : Int64)
  | float (x : Binary64)
  | str (s : String)
  | list (items : List Value)
  | struct (members : List Value)

namespace Value

def isNull : Value → Bool
  | null => true
  | _ => false

/-- `rows` copies of one value. -/
def copies (v : Value) (rows : Nat) : List Value :=
  List.replicate rows v

mutual

/-- The value as JSON; lists and structs are both arrays. -/
def toJson : Value → Json
  | .null => .null
  | .bool b => .bool b
  | .int n => .int n.toInt
  | .float x => .float x
  | .str s => .str s
  | .list items => .arr (allToJson items)
  | .struct members => .arr (allToJson members)

def allToJson : List Value → List Json
  | [] => []
  | v :: vs => v.toJson :: allToJson vs

end

end Value

end FixtureMatrix
