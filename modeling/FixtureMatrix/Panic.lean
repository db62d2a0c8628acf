/-!
# Panics

An operation ends with a result, with an error that it returns, or with a
panic.  A panic is no error of the operation: no caller looks at it, and it
ends the program.  The panics here are those of vectors and slices.
-/

namespace FixtureMatrix

/-- Why the program stops in the middle of an operation. -/
inductive Panic where
  /-- A vector is to have room for more values than an allocation may hold. -/
  | capacityOverflow
  /-- A slice is to end behind the last value. -/
  | sliceEnd (stop length : Nat)
deriving DecidableEq

/-- The panic as it is shown to people. -/
def Panic.message : Panic → String
  | .capacityOverflow => "capacity overflow"
  | .sliceEnd stop length =>
    s!"range end index {stop} out of range for slice of length {length}"

/-- How an operation ends that has no result. -/
inductive Halt (ε : Type) where
  | returned (e : ε)
  | panicked (p : Panic)
deriving DecidableEq

namespace Halt

/-- Changes a returned error; a panic stays what it is. -/
def map (f : ε → ε') : Halt ε → Halt ε'
  | .returned e => .returned (f e)
  | .panicked p => .panicked p

end Halt

/-- The most bytes of one allocation, half of what 64 bits can address. -/
def maxAllocation : Nat := Nat.pow 2 63 - 1

/-- The bytes that one value of a row takes up in a vector: a tag and the
three words of a string or a list, each on a boundary of eight bytes. -/
def valueWidth : Nat := 32

/-- The most values that a vector can have room for. -/
def maxCapacity : Nat := maxAllocation / valueWidth

end FixtureMatrix
