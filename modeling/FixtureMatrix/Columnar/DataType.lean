import FixtureMatrix.Text.Quoted

/-!
# Types of arrays

An array carries the type of its rows, and a list or a struct the fields that its
parts are put under.  These are types of their own: they keep a decimal scale in
eight bits, and they are compared part by part when arrays are put together.
-/

namespace FixtureMatrix

/-- What the cells of a timestamp array count. -/
inductive ArrayUnit where
  | second
  | millisecond
  | microsecond
  | nanosecond
deriving DecidableEq

/-- The unit as it is shown to people. -/
def ArrayUnit.text : ArrayUnit → String
  | second => "Second"
  | millisecond => "Millisecond"
  | microsecond => "Microsecond"
  | nanosecond => "Nanosecond"

mutual

/-- The type of an array. -/
inductive ArrayType where
  | boolean
  | int16
  | int64
  | uint32
  | float64
  | utf8
  | largeBinary
  | decimal128 (precision : Nat) (scale : Int8)
  | timestamp (unit : ArrayUnit) (timezone : Option String)
  | list (item : ArrayField)
  | struct (members : List ArrayField)

/-- What an array is put under: a column, the item of a list, a member of a struct. -/
inductive ArrayField where
  | mk (name : String) (type : ArrayType) (nullable : Bool)

end

namespace ArrayField

def name : ArrayField → String
  | mk n _ _ => n

def type : ArrayField → ArrayType
  | mk _ t _ => t

def nullable : ArrayField → Bool
  | mk _ _ b => b

@[simp] theorem name_mk (n : String) (t : ArrayType) (b : Bool) : (mk n t b).name = n := rfl

@[simp] theorem type_mk (n : String) (t : ArrayType) (b : Bool) : (mk n t b).type = t := rfl

@[simp] theorem nullable_mk (n : String) (t : ArrayType) (b : Bool) :
    (mk n t b).nullable = b := rfl

end ArrayField

/-- The fields of a batch, in order. -/
structure ArraySchema where
  fields : List ArrayField

/-! ## Comparing types -/

mutual

/-- Whether two types are the same in all their parts. -/
def ArrayType.same : ArrayType → ArrayType → Bool
  | .boolean, .boolean | .int16, .int16 | .int64, .int64 | .uint32, .uint32
  | .float64, .float64 | .utf8, .utf8 | .largeBinary, .largeBinary => true
  | .decimal128 p s, .decimal128 p' s' => p = p' && s = s'
  | .timestamp unit tz, .timestamp unit' tz' => unit = unit' && tz = tz'
  | .list item, .list item' => item.same item'
  | .struct members, .struct members' => ArrayField.sameAll members members'
  | _, _ => false

def ArrayField.same : ArrayField → ArrayField → Bool
  | .mk name type nullable, .mk name' type' nullable' =>
    name = name' && type.same type' && nullable = nullable'

def ArrayField.sameAll : List ArrayField → List ArrayField → Bool
  | [], [] => true
  | f :: fs, g :: gs => f.same g && ArrayField.sameAll fs gs
  | _, _ => false

end

mutual

theorem ArrayType.same_iff : ∀ t u : ArrayType, t.same u = true ↔ t = u
  | .list item, u => by
    cases u <;> simp [ArrayType.same, ArrayField.same_iff item]
  | .struct members, u => by
    cases u <;> simp [ArrayType.same, ArrayField.sameAll_iff members]
  | .boolean, u | .int16, u | .int64, u | .uint32, u | .float64, u | .utf8, u
  | .largeBinary, u | .decimal128 _ _, u | .timestamp _ _, u => by
    cases u <;> simp [ArrayType.same]

theorem ArrayField.same_iff : ∀ f g : ArrayField, f.same g = true ↔ f = g
  | .mk name type nullable, .mk name' type' nullable' => by
    simp [ArrayField.same, ArrayType.same_iff type, and_assoc]

theorem ArrayField.sameAll_iff :
    ∀ fs gs : List ArrayField, ArrayField.sameAll fs gs = true ↔ fs = gs
  | [], gs => by cases gs <;> simp [ArrayField.sameAll]
  | f :: fs, gs => by
    cases gs <;> simp [ArrayField.sameAll, ArrayField.same_iff f, ArrayField.sameAll_iff fs]

end

instance : DecidableEq ArrayType := fun t u => decidable_of_iff _ (t.same_iff u)

/-! ## Types as texts -/

/-- A time zone as it is shown to people. -/
def zoneText : Option String → String
  | none => "None"
  | some tz => "Some(" ++ Text.quoted tz ++ ")"

mutual

/-- The type as it is shown to people, with all fields inside. -/
def ArrayType.text : ArrayType → String
  | .boolean => "Boolean"
  | .int16 => "Int16"
  | .int64 => "Int64"
  | .uint32 => "UInt32"
  | .float64 => "Float64"
  | .utf8 => "Utf8"
  | .largeBinary => "LargeBinary"
  | .decimal128 precision scale => s!"Decimal128({precision}, {scale.toInt})"
  | .timestamp unit timezone => "Timestamp(" ++ unit.text ++ ", " ++ zoneText timezone ++ ")"
  | .list item => "List(" ++ item.text ++ ")"
  | .struct members => "Struct([" ++ ", ".intercalate (ArrayField.texts members) ++ "])"

def ArrayField.text : ArrayField → String
  | .mk name type nullable =>
    "Field \x7b name: " ++ Text.quoted name ++ ", data_type: " ++ type.text ++ ", nullable: " ++
      (if nullable then "true" else "false") ++
      ", dict_id: 0, dict_is_ordered: false, metadata: \x7b\x7d \x7d"

def ArrayField.texts : List ArrayField → List String
  | [] => []
  | f :: fs => f.text :: ArrayField.texts fs

end

end FixtureMatrix
