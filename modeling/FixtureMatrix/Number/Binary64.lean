/-!
# Numbers in the binary64 format

A number is its bit pattern, so equality is equality of bits and the sign of
zero and the payload of a NaN are kept.  A finite number has the magnitude
`significand · 2 ^ scale`; rounding to the format is done in exact natural
arithmetic, to nearest with ties to even.
-/

namespace FixtureMatrix

/-- A number in the binary64 format, by its bit pattern. -/
structure Binary64 where
  bits : UInt64
deriving DecidableEq

namespace Binary64

/-- The bits of infinity, without a sign. -/
def infinityBits : Nat :=
  0x7FF * Nat.pow 2 52

/-- The number with a sign and the 63 bits below it. -/
def ofSigned (negative : Bool) (magnitude : Nat) : Binary64 :=
  ⟨UInt64.ofNat ((if negative then Nat.pow 2 63 else 0) + magnitude % Nat.pow 2 63)⟩

def zero (negative : Bool) : Binary64 := ofSigned negative 0

def infinity (negative : Bool) : Binary64 := ofSigned negative infinityBits

/-- The quiet NaN without a payload. -/
def nan : Binary64 := ofSigned false (infinityBits + Nat.pow 2 51)

def isNegative (x : Binary64) : Bool :=
  Nat.pow 2 63 ≤ x.bits.toNat

/-- The bits below the sign. -/
def magnitudeBits (x : Binary64) : Nat :=
  x.bits.toNat % Nat.pow 2 63

def isFinite (x : Binary64) : Bool :=
  x.magnitudeBits < infinityBits

def isInfinite (x : Binary64) : Bool :=
  x.magnitudeBits == infinityBits

def isNaN (x : Binary64) : Bool :=
  infinityBits < x.magnitudeBits

/-- The integer significand of a finite number. -/
def significand (x : Binary64) : Nat :=
  let fraction := x.magnitudeBits % Nat.pow 2 52
  if x.magnitudeBits / Nat.pow 2 52 = 0 then fraction else Nat.pow 2 52 + fraction

/-- The power of two that the significand is multiplied by. -/
def scale (x : Binary64) : Int :=
  Int.ofNat (max (x.magnitudeBits / Nat.pow 2 52) 1) - 1075

/-- The magnitude of a finite number as a quotient. -/
def ratio (x : Binary64) : Nat × Nat :=
  (x.significand * Nat.pow 2 x.scale.toNat, Nat.pow 2 (-x.scale).toNat)

/-- The quotient `num / den` rounded to an integer, a half going to the even
neighbour. -/
def roundQuotient (num den : Nat) : Nat :=
  let q := num / den
  let r := num % den
  if 2 * r < den then q
  else if den < 2 * r then q + 1
  else if q % 2 = 0 then q else q + 1

/-- The exponent `e` with `2 ^ e ≤ num / den < 2 ^ (e + 1)`, for positive operands. -/
def binaryExponent (num den : Nat) : Int :=
  let e : Int := Int.ofNat num.log2 - Int.ofNat den.log2
  if num * Nat.pow 2 (-e).toNat < den * Nat.pow 2 e.toNat then e - 1 else e

/-- The number nearest to `num / den`.  The significand's carry into the
exponent is the addition of the two bit fields, and whatever reaches the bits
of infinity is infinity. -/
def ofRatio (negative : Bool) (num den : Nat) : Binary64 :=
  if num = 0 then zero negative
  else
    let q : Int := max (binaryExponent num den - 52) (-1074)
    let m := roundQuotient (num * Nat.pow 2 (-q).toNat) (den * Nat.pow 2 q.toNat)
    ofSigned negative (min ((q + 1074).toNat * Nat.pow 2 52 + m) infinityBits)

/-- The number nearest to `digits · 10 ^ exponent`.  Magnitudes far outside
the format are decided without computing the power. -/
def ofDecimal (negative : Bool) (digits : Nat) (exponent : Int) : Binary64 :=
  let top := exponent + Int.ofNat (Nat.toDigits 10 digits).length
  if digits = 0 ∨ top < -400 then zero negative
  else if 400 < top then infinity negative
  else ofRatio negative (digits * Nat.pow 10 exponent.toNat) (Nat.pow 10 (-exponent).toNat)

/-- The number nearest to an integer. -/
def ofInt (n : Int) : Binary64 :=
  ofRatio (decide (n < 0)) n.natAbs 1

/-- The number with its sign reversed. -/
def negate (x : Binary64) : Binary64 :=
  ofSigned (!x.isNegative) x.magnitudeBits

/-- The rounded product of two finite numbers. -/
def mul (x y : Binary64) : Binary64 :=
  ofRatio (x.isNegative != y.isNegative) (x.ratio.1 * y.ratio.1) (x.ratio.2 * y.ratio.2)

/-- The rounded quotient of a finite number by a finite number other than zero. -/
def div (x y : Binary64) : Binary64 :=
  ofRatio (x.isNegative != y.isNegative) (x.ratio.1 * y.ratio.2) (x.ratio.2 * y.ratio.1)

def isZero (x : Binary64) : Bool :=
  x.magnitudeBits == 0

/-- The exponent after its `e`: an optional sign and at least one digit. -/
def exponent? : List Char → Option Int
  | '+' :: cs => (digits? cs).map Int.ofNat
  | '-' :: cs => (digits? cs).map fun n => -Int.ofNat n
  | cs => (digits? cs).map Int.ofNat
where
  digits? (cs : List Char) : Option Nat :=
    if cs.isEmpty || !cs.all Char.isDigit then none else some (Nat.ofDigitChars 10 cs 0)

/-- An unsigned decimal: digits with at most one point among or around them,
at least one digit, and an optional exponent. -/
def unsigned? (negative : Bool) (cs : List Char) : Option Binary64 := do
  let whole := cs.takeWhile Char.isDigit
  let rest := cs.dropWhile Char.isDigit
  let (fraction, rest) := match rest with
    | '.' :: more => (more.takeWhile Char.isDigit, more.dropWhile Char.isDigit)
    | _ => ([], rest)
  guard (!(whole.isEmpty && fraction.isEmpty))
  let shift ← match rest with
    | [] => some 0
    | 'e' :: more | 'E' :: more => exponent? more
    | _ => none
  let digits := Nat.ofDigitChars 10 (whole ++ fraction) 0
  return ofDecimal negative digits (shift - Int.ofNat fraction.length)

/-- The words for infinity and NaN, in any case, and decimals. -/
def magnitude? (negative : Bool) (cs : List Char) : Option Binary64 :=
  let word := String.ofList (cs.map Char.toLower)
  if word = "inf" ∨ word = "infinity" then some (infinity negative)
  else if word = "nan" then some (if negative then nan.negate else nan)
  else unsigned? negative cs

/-- Reads a number: an optional sign, then a decimal or a word. -/
def ofText? : List Char → Option Binary64
  | '+' :: cs => magnitude? false cs
  | '-' :: cs => magnitude? true cs
  | cs => magnitude? false cs

end Binary64

end FixtureMatrix
