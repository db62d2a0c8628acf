import FixtureMatrix.Columnar.Error

/-!
# From schemas to types of arrays

The fields of a schema are converted part by part.  Only a decimal can stand in
the way: its scale has to fit into eight bits.
-/

namespace FixtureMatrix

/-- The largest decimal scale that can be stored. -/
def maxStoredScale : Nat := 127

/-- A decimal scale in eight bits. -/
def storedScale? (scale : Nat) : Option Int8 :=
  if scale ≤ maxStoredScale then some (Int8.ofNat scale) else none

def TimeUnit.arrayUnit : TimeUnit → ArrayUnit
  | second => .second
  | millisecond => .millisecond
  | microsecond => .microsecond
  | nanosecond => .nanosecond

mutual

/-- What arrays of a field are put under. -/
def Field.arrayField : Field → Except LayoutError ArrayField
  | .mk name type nullable => do
    let type ← type.arrayType name
    return .mk name type nullable

/-- The type of arrays of a type, for a field of this name. -/
def LogicalType.arrayType (name : String) : LogicalType → Except LayoutError ArrayType
  | .bool => .ok .boolean
  | .int16 => .ok .int16
  | .int64 => .ok .int64
  | .uint32 => .ok .uint32
  | .float64 => .ok .float64
  | .utf8 => .ok .utf8
  | .largeBinary => .ok .largeBinary
  | .decimal precision scale =>
    match storedScale? scale with
    | none => .error (.unsupported (.decimalScale scale name))
    | some scale => .ok (.decimal128 precision scale)
  | .timestamp unit timezone => .ok (.timestamp unit.arrayUnit timezone)
  | .list item => do
    let item ← item.arrayField
    return .list item
  | .struct members => do
    let members ← Field.arrayFields members
    return .struct members

def Field.arrayFields : List Field → Except LayoutError (List ArrayField)
  | [] => .ok []
  | f :: fs => do
    let f ← f.arrayField
    let fs ← Field.arrayFields fs
    return f :: fs

end

/-- What the columns of a schema are put under. -/
def Schema.arraySchema (s : Schema) : Except LayoutError ArraySchema := do
  let fields ← Field.arrayFields s.fields
  return ⟨fields⟩

end FixtureMatrix
