import FixtureMatrix.Schema.Basic

/-!
# Decimals

A decimal of a precision is stored in a 4-byte or 8-byte integer or in the
fewest bytes that hold all its digits.  Its scale may not exceed its precision.
-/

namespace FixtureMatrix

/-- The largest precision that 128 bits can hold. -/
def maxDecimalPrecision : Nat := 38

/-- How a decimal is stored. -/
inductive DecimalWidth where
  | int32
  | int64
  | fixed (bytes : Nat)
deriving DecidableEq

/-- The number of bytes of a stored decimal. -/
def DecimalWidth.bytes : DecimalWidth → Nat
  | .int32 => 4
  | .int64 => 8
  | .fixed n => n

/-- The fewest bytes whose signed range holds `10 ^ precision - 1`. -/
def decimalByteLength (precision : Nat) : Nat :=
  ((List.range' 1 16).find? fun bytes => Nat.pow 10 precision - 1 < Nat.pow 2 (bytes * 8 - 1)).getD 16

/-- How decimals of a precision are stored: a single digit in eight bytes,
two to nine digits in four, up to eighteen in eight, and up to 38 in the
fewest bytes.  No other precision is supported. -/
def decimalWidth? (precision : Nat) : Option DecimalWidth :=
  if precision = 0 then none
  else if precision = 1 then some .int64
  else if precision ≤ 9 then some .int32
  else if precision ≤ 18 then some .int64
  else if precision ≤ maxDecimalPrecision then some (.fixed (decimalByteLength precision))
  else none

/-- Whether the unscaled value `n` has at most `precision` digits, for an array
of decimals. -/
def decimalFits (n : Int) (precision : Nat) : Bool :=
  n.natAbs < Nat.pow 10 precision

/-- The power of ten, if a signed word of 128 bits holds it. -/
def powerOfTen? (exponent : Nat) : Option Nat :=
  if Nat.pow 10 exponent < Nat.pow 2 127 then some (Nat.pow 10 exponent) else none

/-- Whether an unscaled value of 64 bits has at most `precision` digits.  A
bound that 128 bits do not hold is above all of them. -/
def hasDigits (precision : Nat) (n : Int) : Bool :=
  match powerOfTen? precision with
  | some limit => n.natAbs < limit
  | none => true

/-- The field whose decimal type has no supported width. -/
structure UnsupportedDecimal where
  field : String
  precision : Nat
  scale : Nat
deriving DecidableEq

mutual

/-- The first decimal without a supported width in the type of a field of
this name, from left to right. -/
def LogicalType.checkDecimals (name : String) : LogicalType → Except UnsupportedDecimal Unit
  | .decimal precision scale =>
    if precision < scale ∨ decimalWidth? precision = none then .error ⟨name, precision, scale⟩
    else .ok ()
  | .list item => item.checkDecimals
  | .struct members => Field.checkAllDecimals members
  | _ => .ok ()

def Field.checkDecimals : Field → Except UnsupportedDecimal Unit
  | .mk name type _ => type.checkDecimals name

/-- The first unsupported decimal among several fields. -/
def Field.checkAllDecimals : List Field → Except UnsupportedDecimal Unit
  | [] => .ok ()
  | f :: fs => do
    f.checkDecimals
    Field.checkAllDecimals fs

end

end FixtureMatrix
