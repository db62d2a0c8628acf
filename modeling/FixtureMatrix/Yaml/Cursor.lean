/-!
# Reading YAML text

A cursor is the text not read yet and the place where it starts.  Places count
characters, lines and columns from zero and are shown counting from one.
-/

namespace FixtureMatrix.Yaml

/-- A place in a text. -/
structure Mark where
  index : Nat
  line : Nat
  column : Nat

/-- Whether the place is the very start. -/
def Mark.isStart (m : Mark) : Bool :=
  m.line = 0 && m.column = 0

/-- Two places on the same column of the same line. -/
def Mark.same (a b : Mark) : Bool :=
  a.line = b.line && a.column = b.column

/-- The place as it is shown to people. -/
def Mark.text (m : Mark) : String :=
  if m.isStart then s!"position {m.index}" else s!"line {m.line + 1} column {m.column + 1}"

/-- A problem with its place, left out at the very start, and what was being
read, with its place where that is another one. -/
def faultText (problem : String) (at_ : Mark) (context : Option (String × Mark)) : String :=
  let main := if at_.isStart then problem else s!"{problem} at {at_.text}"
  match context with
  | none => main
  | some (what, where_) =>
    if where_.isStart || where_.same at_ then s!"{main}, {what}"
    else s!"{main}, {what} at {where_.text}"

/-! ## Character classes -/

def isBlank (c : Char) : Bool := c == ' ' || c == '\t'

def isBreak (c : Char) : Bool :=
  c == '\r' || c == '\n' || c.toNat == 0x85 || c.toNat == 0x2028 || c.toNat == 0x2029

/-- Letters, digits, the underscore and the hyphen. -/
def isWord (c : Char) : Bool := c.isAlphanum || c == '_' || c == '-'

/-- Characters that a text may hold at all. -/
def isAllowed (c : Char) : Bool :=
  let n := c.toNat
  n == 0x09 || n == 0x0A || n == 0x0D || (0x20 ≤ n && n ≤ 0x7E) || n == 0x85 ||
    (0xA0 ≤ n && n ≤ 0xD7FF) || (0xE000 ≤ n && n ≤ 0xFFFD && n != 0xFEFF) ||
    (0x10000 ≤ n && n ≤ 0x10FFFF)

/-! ## Cursors -/

/-- The text not read yet, and where it starts. -/
structure Cursor where
  rest : List Char
  mark : Mark

namespace Cursor

def at? (c : Cursor) (i : Nat) : Option Char := c.rest[i]?

/-- Whether a character stands at a distance. -/
def isAt (c : Cursor) (i : Nat) (x : Char) : Bool := c.at? i == some x

def check (c : Cursor) (p : Char → Bool) : Bool := (c.at? 0).any p

def isEnd (c : Cursor) : Bool := c.rest.isEmpty

/-- Whether a break or the end follows. -/
def atBreakOrEnd (c : Cursor) : Bool := (c.at? 0).all isBreak

/-- Whether a blank, a break or the end stands at a distance. -/
def blankOrEndAt (c : Cursor) (i : Nat) : Bool :=
  (c.at? i).all fun x => isBlank x || isBreak x

/-- Past `n` characters of one line. -/
def skip (c : Cursor) (n : Nat) : Cursor :=
  let m := c.mark
  ⟨c.rest.drop n, ⟨m.index + n, m.line, m.column + n⟩⟩

/-- Past a line break; also what the break is read as. -/
def readBreak (c : Cursor) : List Char × Cursor :=
  let m := c.mark
  let after (n : Nat) : Cursor := ⟨c.rest.drop n, ⟨m.index + n, m.line + 1, 0⟩⟩
  match c.rest with
  | '\r' :: '\n' :: _ => (['\n'], after 2)
  | x :: _ =>
    if x == '\r' || x == '\n' || x.toNat == 0x85 then (['\n'], after 1)
    else if isBreak x then ([x], after 1)
    else ([], c)
  | [] => ([], c)

/-- Past the characters of a class that holds no break. -/
def skipWhile (c : Cursor) (p : Char → Bool) : Cursor :=
  c.skip (c.rest.takeWhile p).length

/-- The characters of a class that holds no break, and the cursor past them. -/
def spanWhile (c : Cursor) (p : Char → Bool) : List Char × Cursor :=
  (c.rest.takeWhile p, c.skipWhile p)

/-- Past a comment, if one starts here. -/
def skipComment (c : Cursor) : Cursor :=
  if c.isAt 0 '#' then c.skipWhile fun x => !isBreak x else c

/-- Whether three characters that mark the end or the start of a document
stand at the start of a line. -/
def atDocumentMark (c : Cursor) (x : Char) : Bool :=
  c.mark.column = 0 && c.isAt 0 x && c.isAt 1 x && c.isAt 2 x && c.blankOrEndAt 3

/-- The fault of a problem at the cursor. -/
def fault (c : Cursor) (problem context : String) (start : Mark) : Except String α :=
  .error (faultText problem c.mark (some (context, start)))

end Cursor

end FixtureMatrix.Yaml
