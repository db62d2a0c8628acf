import FixtureMatrix.Number.Shortest
import FixtureMatrix.Text.Digits

/-!
# What plain scalars mean

A plain scalar is null, a boolean, a number or, failing that, a text.  Digits
that start with a superfluous zero are a text.
-/

namespace FixtureMatrix.Yaml

/-- What a plain scalar is read as. -/
inductive PlainValue where
  | null
  | bool (b : Bool)
  | int (n : Int)
  /-- An integer that needs a word of 128 bits. -/
  | wide (n : Int)
  | float (x : Binary64)
  | text

namespace PlainValue

def isNullWord (cs : List Char) : Bool :=
  ["null", "Null", "NULL", "~"].contains (String.ofList cs)

def bool? (cs : List Char) : Option Bool :=
  let word := String.ofList cs
  if ["true", "True", "TRUE"].contains word then some true
  else if ["false", "False", "FALSE"].contains word then some false
  else none

/-- The value of a digit in some base. -/
def digit? (base : Nat) (c : Char) : Option Nat :=
  let d :=
    if c.isDigit then c.toNat - '0'.toNat
    else if c.isLower then c.toNat - 'a'.toNat + 10
    else if c.isUpper then c.toNat - 'A'.toNat + 10
    else base
  if d < base then some d else none

/-- The number that at least one digit stands for. -/
def digits? (base : Nat) (cs : List Char) : Option Nat := do
  let ds ← cs.mapM (digit? base)
  if ds.isEmpty then none else some (ds.foldl (fun n d => n * base + d) 0)

/-- Whether digits behind a sign start with a superfluous zero. -/
def hasLeadingZero (cs : List Char) : Bool :=
  let body := match cs with
    | '-' :: rest | '+' :: rest => rest
    | _ => cs
  match body with
  | '0' :: rest => !rest.isEmpty && rest.all Char.isDigit
  | _ => false

/-- The size of an unsigned number: digits, with the mark of their base if it
is not ten. -/
def size? : List Char → Option Nat
  | '0' :: 'x' :: rest => digits? 16 rest
  | '0' :: 'o' :: rest => digits? 8 rest
  | '0' :: 'b' :: rest => digits? 2 rest
  | cs => if hasLeadingZero cs then none else digits? 10 cs

/-- A number that is not marked as negative, below a limit. -/
def unsigned? (limit : Nat) (cs : List Char) : Option Nat :=
  let body := match cs with
    | '+' :: rest => rest
    | _ => cs
  (size? body).filter (· < limit)

/-- A number that is marked as negative, down to a limit. -/
def negative? (limit : Nat) : List Char → Option Int
  | '-' :: rest => ((size? rest).filter (· ≤ limit)).map fun n => -Int.ofNat n
  | _ => none

/-- An integer of at most 128 bits. -/
def integer? (cs : List Char) : Option PlainValue :=
  ((unsigned? (Nat.pow 2 64) cs).map fun n => .int n) <|>
  ((negative? (Nat.pow 2 63) cs).map .int) <|>
  ((unsigned? (Nat.pow 2 128) cs).map fun n => .wide n) <|>
  ((negative? (Nat.pow 2 127) cs).map .wide)

/-- A floating point number: a finite decimal, or a word behind a point. -/
def float? (cs : List Char) : Option Binary64 :=
  let (explicit, body) := match cs with
    | '+' :: rest => (true, rest)
    | _ => (false, cs)
  let isSigned := match body with
    | '+' :: _ | '-' :: _ => true
    | _ => false
  if explicit && isSigned then none
  else if [".inf", ".Inf", ".INF"].contains (String.ofList body) then some (Binary64.infinity false)
  else if ["-.inf", "-.Inf", "-.INF"].contains (String.ofList cs) then some (Binary64.infinity true)
  else if [".nan", ".NaN", ".NAN"].contains (String.ofList cs) then some Binary64.nan
  else (Binary64.ofText? body).filter Binary64.isFinite

/-- What a plain scalar means. -/
def ofText (cs : List Char) : PlainValue :=
  if cs.isEmpty || isNullWord cs then .null
  else
    match bool? cs, integer? cs with
    | some b, _ => .bool b
    | none, some n => n
    | none, none =>
      if hasLeadingZero cs then .text
      else
        match float? cs with
        | some x => .float x
        | none => .text

/-- Numbers in messages have no exponent, and whole numbers keep a fraction of
zero. -/
def numberStyle : NumberStyle where
  tie := .up
  positional _ := true
  exponentSign := []
  wholeMark := ['.', '0']
  nan := "NaN".toList
  infinity := "inf".toList

end PlainValue

end FixtureMatrix.Yaml
