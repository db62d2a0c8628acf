import FixtureMatrix.Text.Printable

/-!
# Quoted text

A text between double quotes, with a backslash before a quote or a backslash,
short escapes for the tab, the line ends and the null character, and
`\u` with the hexadecimal code point in braces for every other hidden character.
-/

namespace FixtureMatrix.Text

/-- The lower-case hexadecimal digits of `n`. -/
def hexDigits (n : Nat) : List Char :=
  Nat.toDigits 16 n

/-- How one character is written between quotes. -/
def escape (c : Char) : List Char :=
  if c = '"' then ['\\', '"']
  else if c = '\\' then ['\\', '\\']
  else if c = '\t' then ['\\', 't']
  else if c = '\r' then ['\\', 'r']
  else if c = '\n' then ['\\', 'n']
  else if c = '\x00' then ['\\', '0']
  else if isHidden c then ['\\', 'u', '\x7b'] ++ hexDigits c.toNat ++ ['\x7d']
  else [c]

/-- The text between quotes, escaped. -/
def quote (cs : List Char) : List Char :=
  '"' :: (cs.flatMap escape ++ ['"'])

/-- The quoted form of a string. -/
def quoted (s : String) : String :=
  String.ofList (quote s.toList)

end FixtureMatrix.Text
