import FixtureMatrix.Value.Basic

/-!
# Sample columns

The literal value streams of the canonical cases.  Nulls stand between other
values on purpose, so that a reader has to handle the change from null to
value and back, and not only nulls at an end.
-/

namespace FixtureMatrix.Samples

def ints (ns : List Int64) : List Value :=
  ns.map .int

def intOrNull : Option Int64 → Value
  | none => .null
  | some n => .int n

def boolOrNull : Option Bool → Value
  | none => .null
  | some b => .bool b

def strOrNull : Option String → Value
  | none => .null
  | some s => .str s

/-- A list of integers. -/
def intList (ns : List Int64) : Value :=
  .list (ints ns)

/-- A list of integers and nulls. -/
def intsOrNulls (ns : List (Option Int64)) : Value :=
  .list (ns.map intOrNull)

/-- A list of booleans and nulls. -/
def boolList (bs : List (Option Bool)) : Value :=
  .list (bs.map boolOrNull)

/-- A list of strings and nulls. -/
def strList (ss : List (Option String)) : Value :=
  .list (ss.map strOrNull)

/-! ## Primitives -/

def nullableInts : List (Option Int64) :=
  [some 0, some 1, none, some 3, none, some 5, some 6, some 7, none, some 9]

def nullableInt64 : List Value :=
  nullableInts.map intOrNull

def nullableFloat64 : List Value :=
  nullableInts.map fun n => match n with
    | none => .null
    | some n => .float (Binary64.ofInt n.toInt)

def nullableUtf8 : List Value :=
  [some "Hello", none, some "aa", some "", none, some "abc", none, none, some "def",
    some "aaa"].map strOrNull

def nullableBool : List Value :=
  [some true, none, some false, some false, none, some true, none, none, some true,
    some true].map boolOrNull

def requiredInt64 : List Value :=
  ints [-256, -1, 0, 1, 2, 3, 4, 5, 6, 7]

def requiredUint32 : List Value :=
  ints [0, 1, 2, 3, 4, 5, 6, 7, 8, 9]

def requiredFloat64 : List Value :=
  (List.range 10).map fun n => .float (Binary64.ofInt (Int.ofNat n))

/-- Values repeat, so that dictionary pages get entries used more than once. -/
def requiredUtf8 : List Value :=
  ["Hello", "bbb", "aa", "", "bbb", "abc", "bbb", "bbb", "def", "aaa"].map .str

def requiredBool : List Value :=
  [true, true, false, false, false, true, true, true, true, true].map .bool

/-- 256 ASCII characters and four characters beyond U+FFFF. -/
def largeString : String :=
  String.join (List.replicate 64 "ABCD") ++ "😃🌚🕳👊"

def largeUtf8 (rows : Nat) : List Value :=
  (Value.str largeString).copies rows

def emoji (rows : Nat) : List Value :=
  (Value.str "😃").copies rows

/-! ## Lists -/

/-- Nullable lists of nullable items: null rows, an empty list and a null item. -/
def listNullableItems : List Value :=
  [intList [0, 1], .null, intsOrNulls [some 2, none, some 3], intList [4, 5, 6], intList [],
    intList [7, 8, 9], .null, intList [10]]

/-- Nullable lists of required items. -/
def listRequiredItems : List Value :=
  [intList [0, 1], .null, intList [2, 0, 3], intList [4, 5, 6], intList [],
    intList [7, 8, 9], .null, intList [10]]

/-- Required lists of nullable items: empty lists stand where nulls would be. -/
def requiredListNullableItems : List Value :=
  [intList [0, 1], intList [], intsOrNulls [some 2, none, some 3], intList [4, 5, 6],
    intList [], intList [7, 8, 9], intList [], intList [10]]

/-- Required lists of required items. -/
def requiredListRequiredItems : List Value :=
  [intList [0, 1], intList [], intList [2, 0, 3], intList [4, 5, 6], intList [],
    intList [7, 8, 9], intList [], intList [10]]

def listBool : List Value :=
  [boolList [some false, some true], .null, boolList [some true, none, some false],
    boolList [some true, some false, some true], boolList [],
    boolList [some false, some false, some false], .null, boolList [some true]]

def listUtf8 : List Value :=
  [strList [some "Hello", some "bbb"], .null, strList [some "aa", none, some ""],
    strList [some "bbb", some "aa", some "ccc"], strList [],
    strList [some "abc", some "bbb", some "bbb"], .null, strList [some ""]]

/-- Lists of lists.  The row before the last mixes an empty inner list, one
that holds a null, and a null. -/
def nestedLists : List Value :=
  [.list [intList [0, 1]], .null, .list [intsOrNulls [some 2, none], intList [3]],
    .list [intList [4, 5], intList [6]], .list [], .list [intList [7], .null, intList [9]],
    .list [intList [], intsOrNulls [none], .null], .list [intList [10]]]

/-- Lists of nullable lists of required items. -/
def nestedListsRequiredItems : List Value :=
  [.list [intList [0, 1]], .null, .list [intList [2, 3], intList [3]],
    .list [intList [4, 5], intList [6]], .list [], .list [intList [7], .null, intList [9]],
    .null, .list [intList [10]]]

/-- Lists of required lists of required items. -/
def nestedRequiredLists : List Value :=
  [.list [intList [0, 1]], .null, .list [intList [2, 3], intList [3]],
    .list [intList [4, 5], intList [6]], .list [], .list [intList [7], intList [8], intList [9]],
    .null, .list [intList [10]]]

/-! ## Structs -/

/-- Rows that pair the nullable strings with the nullable booleans. -/
def structUtf8Bool : List Value :=
  List.zipWith (fun s b => .struct [s, b]) nullableUtf8 nullableBool

/-- Rows that pair those structs with the nullable booleans. -/
def structStruct : List Value :=
  List.zipWith (fun inner b => .struct [inner, b]) structUtf8Bool nullableBool

/-- The sample column of a name; `rows` counts only for the columns of one
repeated value. -/
def named? (rows : Nat) : String → Option (List Value)
  | "nullable_int64" => some nullableInt64
  | "nullable_float64" => some nullableFloat64
  | "nullable_utf8" => some nullableUtf8
  | "nullable_bool" => some nullableBool
  | "required_int64" => some requiredInt64
  | "required_uint32" => some requiredUint32
  | "required_float64" => some requiredFloat64
  | "required_utf8" => some requiredUtf8
  | "required_bool" => some requiredBool
  | "large_utf8" => some (largeUtf8 rows)
  | "emoji" => some (emoji rows)
  | "list_int64_nullable_items" => some listNullableItems
  | "list_int64_required_items" => some listRequiredItems
  | "list_int64_required_list" => some requiredListNullableItems
  | "list_int64_all_required" => some requiredListRequiredItems
  | "list_bool" => some listBool
  | "list_utf8" => some listUtf8
  | "list_nested_i64" => some nestedLists
  | "list_nested_inner_required_i64" => some nestedListsRequiredItems
  | "list_nested_inner_required_required_i64" => some nestedRequiredLists
  | "struct_utf8_bool" => some structUtf8Bool
  | "struct_struct" => some structStruct
  | _ => none

end FixtureMatrix.Samples
