import FixtureMatrix.Calendar.Instant

/-!
# Schemas

A schema lists the fields of one file.  A field has a name, a logical type
and says whether it may be null; lists and structs have fields inside.
-/

namespace FixtureMatrix

mutual

/-- The logical type of a field. -/
inductive LogicalType where
  | bool
  | int16
  | int64
  | uint32
  | float64
  | utf8
  | largeBinary
  | decimal (precision scale : Nat)
  | timestamp (unit : TimeUnit) (timezone : Option String)
  | list (item : Field)
  | struct (members : List Field)

/-- A named place for values of one type. -/
inductive Field where
  | mk (name : String) (type : LogicalType) (nullable : Bool)

end

namespace Field

def name : Field → String
  | mk n _ _ => n

def type : Field → LogicalType
  | mk _ t _ => t

def nullable : Field → Bool
  | mk _ _ b => b

@[simp] theorem name_mk (n : String) (t : LogicalType) (b : Bool) : (mk n t b).name = n := rfl

@[simp] theorem type_mk (n : String) (t : LogicalType) (b : Bool) : (mk n t b).type = t := rfl

@[simp] theorem nullable_mk (n : String) (t : LogicalType) (b : Bool) :
    (mk n t b).nullable = b := rfl

/-- A field that may be null. -/
def optional (name : String) (type : LogicalType) : Field := mk name type true

/-- A field that may not be null. -/
def required (name : String) (type : LogicalType) : Field := mk name type false

/-- The same field, not to be null. -/
def require (f : Field) : Field := mk f.name f.type false

/-- A nullable list whose item is called `item`. -/
def listOf (name : String) (itemType : LogicalType) (itemNullable : Bool) : Field :=
  optional name (.list (mk "item" itemType itemNullable))

end Field

/-- Whether the type is a list or a struct. -/
def LogicalType.isNested : LogicalType → Bool
  | .list _ | .struct _ => true
  | _ => false

mutual

/-- The number of primitive leaves of a type. -/
def LogicalType.leafCount : LogicalType → Nat
  | .list item => item.leafCount
  | .struct members => Field.leafCounts members
  | _ => 1

/-- The number of primitive leaves below a field. -/
def Field.leafCount : Field → Nat
  | .mk _ type _ => type.leafCount

/-- The number of primitive leaves below several fields. -/
def Field.leafCounts : List Field → Nat
  | [] => 0
  | f :: fs => f.leafCount + Field.leafCounts fs

end

/-- The texts of a timestamp's parameters. -/
def timestampParameters (unit : TimeUnit) : Option String → String
  | some tz => unit.suffix ++ ", " ++ tz
  | none => unit.suffix

mutual

/-- The type as it is shown to people.  A list shows whether its items may be
null; the members of a struct show their names. -/
def LogicalType.text : LogicalType → String
  | .bool => "bool"
  | .int16 => "int16"
  | .int64 => "int64"
  | .uint32 => "uint32"
  | .float64 => "float64"
  | .utf8 => "utf8"
  | .largeBinary => "large_binary"
  | .decimal precision scale =>
    "decimal(" ++ String.ofList (Digits.ofNat precision) ++ ", " ++
      String.ofList (Digits.ofNat scale) ++ ")"
  | .timestamp unit timezone => "timestamp[" ++ timestampParameters unit timezone ++ "]"
  | .list (.mk _ type nullable) =>
    "list<" ++ type.text ++ (if nullable then "" else " not null") ++ ">"
  | .struct members => "struct<" ++ ", ".intercalate (Field.memberTexts members) ++ ">"

/-- Name and type of each member of a struct. -/
def Field.memberTexts : List Field → List String
  | [] => []
  | .mk name type _ :: fs => (name ++ ": " ++ type.text) :: Field.memberTexts fs

end

/-- The fields of one file, in order. -/
structure Schema where
  fields : List Field

namespace Schema

/-- The first field of a name. -/
def field? (s : Schema) (name : String) : Option Field :=
  s.fields.find? fun f => f.name = name

def names (s : Schema) : List String :=
  s.fields.map Field.name

/-- The number of fields that may be null, not looking inside them. -/
def nullableCount (s : Schema) : Nat :=
  s.fields.countP Field.nullable

/-- The number of primitive leaves of a file with this schema. -/
def leafCount (s : Schema) : Nat :=
  Field.leafCounts s.fields

end Schema

end FixtureMatrix
