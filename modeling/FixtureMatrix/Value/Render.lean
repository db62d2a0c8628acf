import FixtureMatrix.Schema.Basic
import FixtureMatrix.Text.Quoted
import FixtureMatrix.Value.Basic

/-!
# Values as text

`Value.render` shows a value as one of a logical type: integers as decimals or
time stamps where the type says so, strings quoted, and lists and structs with
their items between brackets and braces.  A list or struct that the type does
not describe is shown by its constructors instead.
-/

namespace FixtureMatrix

/-- An unscaled decimal with `scale` digits behind the point, and at least one
in front of it. -/
def decimalText (n : Int) (scale : Nat) : List Char :=
  if scale = 0 then Digits.ofInt n
  else
    let digits := Digits.zeroPad (scale + 1) (Digits.ofNat n.natAbs)
    let whole := digits.length - scale
    (if n < 0 then ['-'] else []) ++ digits.take whole ++ '.' :: digits.drop whole

namespace Value

/-- Numbers have an exponent from 1e16 on and below 1e-4, and whole numbers
keep a fraction of zero. -/
def numberStyle : NumberStyle where
  tie := .up
  positional e := -4 ≤ e && e < 16
  exponentSign := []
  wholeMark := ['.', '0']
  nan := "NaN".toList
  infinity := "inf".toList

/-- Texts with a comma and a space between them. -/
def joined (parts : List (List Char)) : List Char :=
  [',', ' '].intercalate parts

mutual

/-- The value shown by its constructors. -/
def outline : Value → List Char
  | .null => "Null".toList
  | .bool b => "Bool(".toList ++ (if b then "true" else "false").toList ++ [')']
  | .int n => "Int(".toList ++ Digits.ofInt n.toInt ++ [')']
  | .float x => "Float(".toList ++ numberStyle.text x ++ [')']
  | .str s => "Str(".toList ++ Text.quote s.toList ++ [')']
  | .list items => "List([".toList ++ joined (outlines items) ++ "])".toList
  | .struct members => "Struct([".toList ++ joined (outlines members) ++ "])".toList

def outlines : List Value → List (List Char)
  | [] => []
  | v :: vs => outline v :: outlines vs

end

mutual

/-- The value shown as one of a type. -/
def render : Value → LogicalType → List Char
  | .null, _ => "null".toList
  | .int n, .timestamp unit none => timestampText unit n.toInt
  | .int n, .timestamp unit (some tz) => timestampText unit n.toInt ++ ' ' :: tz.toList
  | .int n, .decimal _ scale => decimalText n.toInt scale
  | .str s, .largeBinary => 'b' :: Text.quote s.toList
  | .list items, .list item => '[' :: (joined (renderItems items item.type) ++ [']'])
  | .struct values, .struct members =>
    '\x7b' :: (joined (renderMembers values members) ++ ['\x7d'])
  | .bool b, _ => (if b then "true" else "false").toList
  | .int n, _ => Digits.ofInt n.toInt
  | .float x, _ => numberStyle.text x
  | .str s, _ => Text.quote s.toList
  | .list items, _ => outline (.list items)
  | .struct values, _ => outline (.struct values)

/-- The items of a list, all of one type. -/
def renderItems : List Value → LogicalType → List (List Char)
  | [], _ => []
  | v :: vs, type => render v type :: renderItems vs type

/-- Name and value of each member that has both a field and a value. -/
def renderMembers : List Value → List Field → List (List Char)
  | v :: vs, f :: fs => (f.name.toList ++ ':' :: ' ' :: render v f.type) :: renderMembers vs fs
  | _, _ => []

end

/-- The shown value as a string. -/
def renderText (v : Value) (type : LogicalType) : String :=
  String.ofList (v.render type)

end Value

end FixtureMatrix
