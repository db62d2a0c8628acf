import FixtureMatrix.Json.Basic

/-!
# JSON text

Two layouts of one value: `compact` without any white space, and `pretty` with
one entry a line and two spaces of indentation a level.  Strings are escaped
only where JSON requires it.
-/

namespace FixtureMatrix.Json

/-- One digit of a four-digit escape. -/
def hexDigit (n : Nat) : Char :=
  Nat.digitChar (n % 16)

/-- How one character is written in a JSON string. -/
def escape (c : Char) : List Char :=
  if c = '"' then ['\\', '"']
  else if c = '\\' then ['\\', '\\']
  else if c = '\n' then ['\\', 'n']
  else if c = '\r' then ['\\', 'r']
  else if c = '\t' then ['\\', 't']
  else if c = '\x08' then ['\\', 'b']
  else if c = '\x0c' then ['\\', 'f']
  else if c.toNat < 0x20 then ['\\', 'u', '0', '0', hexDigit (c.toNat / 16), hexDigit c.toNat]
  else [c]

/-- A JSON string. -/
def stringText (s : String) : List Char :=
  '"' :: (s.toList.flatMap escape ++ ['"'])

/-- Numbers have an exponent from 1e16 on and below 1e-5, with its sign, and
whole numbers keep a fraction of zero.  There is no NaN and no infinity. -/
def numberStyle : NumberStyle where
  tie := .even
  positional e := -5 ≤ e && e < 16
  exponentSign := ['+']
  wholeMark := ['.', '0']
  nan := "null".toList
  infinity := "null".toList

/-- A binary64 number; `null` where JSON has no number for it. -/
def floatText (x : Binary64) : List Char :=
  if x.isFinite then numberStyle.text x else "null".toList

mutual

/-- The text without white space. -/
def compact : Json → List Char
  | .null => "null".toList
  | .bool b => (if b then "true" else "false").toList
  | .int n => Digits.ofInt n
  | .float x => floatText x
  | .str s => stringText s
  | .arr [] => ['[', ']']
  | .arr (item :: items) => '[' :: (compact item ++ compactItems items)
  | .obj [] => ['\x7b', '\x7d']
  | .obj ((key, item) :: entries) =>
    '\x7b' :: (stringText key ++ ':' :: (compact item ++ compactEntries entries))

/-- The items after the first, and the closing bracket. -/
def compactItems : List Json → List Char
  | [] => [']']
  | item :: items => ',' :: (compact item ++ compactItems items)

/-- The entries after the first, and the closing brace. -/
def compactEntries : List (String × Json) → List Char
  | [] => ['\x7d']
  | (key, item) :: entries =>
    ',' :: (stringText key ++ ':' :: (compact item ++ compactEntries entries))

end

/-- A line end and the indentation of a level. -/
def newline (level : Nat) : List Char :=
  '\n' :: List.replicate (2 * level) ' '

mutual

/-- The text with one entry a line, for a value at an indentation level. -/
def pretty (level : Nat) : Json → List Char
  | .null => "null".toList
  | .bool b => (if b then "true" else "false").toList
  | .int n => Digits.ofInt n
  | .float x => floatText x
  | .str s => stringText s
  | .arr [] => ['[', ']']
  | .arr (item :: items) =>
    '[' :: (newline (level + 1) ++ pretty (level + 1) item ++ prettyItems level items)
  | .obj [] => ['\x7b', '\x7d']
  | .obj ((key, item) :: entries) =>
    '\x7b' :: (newline (level + 1) ++ stringText key ++ ':' :: ' ' ::
      (pretty (level + 1) item ++ prettyEntries level entries))

/-- The items after the first, and the closing bracket on its own line. -/
def prettyItems (level : Nat) : List Json → List Char
  | [] => newline level ++ [']']
  | item :: items =>
    ',' :: (newline (level + 1) ++ pretty (level + 1) item ++ prettyItems level items)

/-- The entries after the first, and the closing brace on its own line. -/
def prettyEntries (level : Nat) : List (String × Json) → List Char
  | [] => newline level ++ ['\x7d']
  | (key, item) :: entries =>
    ',' :: (newline (level + 1) ++ stringText key ++ ':' :: ' ' ::
      (pretty (level + 1) item ++ prettyEntries level entries))

end

/-- The compact text as a string. -/
def compress (j : Json) : String :=
  String.ofList j.compact

/-- The laid-out text as a string. -/
def prettyText (j : Json) : String :=
  String.ofList (j.pretty 0)

end FixtureMatrix.Json
