import FixtureMatrix.Columnar.Batch
import FixtureMatrix.Disk.Operations
import FixtureMatrix.Encoder.Properties
import FixtureMatrix.Json.Print
import FixtureMatrix.Value.Render

/-!
# Stored files

What a file holds: its row groups, how each primitive leaf of its schema is
stored, its fields, and its data.  A file's bytes are this description as JSON,
so equal requests give equal bytes and a file can be read back.
-/

namespace FixtureMatrix

/-! ## Descriptions of fields and values -/

/-- The name of a unit in a file. -/
def ArrayUnit.name : ArrayUnit → String
  | second => "second"
  | millisecond => "millisecond"
  | microsecond => "microsecond"
  | nanosecond => "nanosecond"

mutual

/-- A type by its name; a type with parameters by its name and parameters. -/
def ArrayType.describe : ArrayType → Json
  | .decimal128 precision scale => .obj [("decimal", .arr [.nat precision, .int scale.toInt])]
  | .timestamp unit timezone =>
    .obj [("timestamp", .arr [.str unit.name, .ofOption .str timezone])]
  | .list item => .obj [("list", item.describe)]
  | .struct members => .obj [("struct", .arr (ArrayField.describeAll members))]
  | .boolean => .str "bool"
  | .int16 => .str "int16"
  | .int64 => .str "int64"
  | .uint32 => .str "uint32"
  | .float64 => .str "float64"
  | .utf8 => .str "utf8"
  | .largeBinary => .str "large_binary"

def ArrayField.describe : ArrayField → Json
  | .mk name type nullable =>
    .obj [("name", .str name), ("type", type.describe), ("nullable", .bool nullable)]

def ArrayField.describeAll : List ArrayField → List Json
  | [] => []
  | f :: fs => f.describe :: ArrayField.describeAll fs

end

/-- Bytes as pairs of hexadecimal digits. -/
def hexText (bytes : ByteArray) : String :=
  String.ofList (bytes.toList.flatMap fun b =>
    [Nat.digitChar (b.toNat / 16), Nat.digitChar (b.toNat % 16)])

mutual

/-- A value as one of a type: decimals by their digits, bytes in hexadecimal. -/
def Value.describe : Value → ArrayType → Json
  | .null, _ => .null
  | .bool b, _ => .bool b
  | .int n, .decimal128 _ scale =>
    .obj [("decimal", .str (String.ofList (decimalText n.toInt scale.toInt.toNat)))]
  | .int n, _ => .int n.toInt
  | .float x, _ => .obj [("float", .str (String.ofList (numberStyle.text x)))]
  | .str s, .largeBinary => .obj [("hex", .str (hexText s.toUTF8))]
  | .str s, _ => .str s
  | .list items, .list item => .arr (Value.describeItems items item.type)
  | .struct values, .struct members =>
    .obj [("struct", .arr (Value.describeMembers values members))]
  | .list _, _ | .struct _, _ => .null

def Value.describeItems : List Value → ArrayType → List Json
  | [], _ => []
  | v :: vs, type => v.describe type :: Value.describeItems vs type

def Value.describeMembers : List Value → List ArrayField → List Json
  | v :: vs, f :: fs => v.describe f.type :: Value.describeMembers vs fs
  | _, _ => []

end

/-! ## Leaves -/

/-- How the cells of a leaf are stored. -/
inductive PhysicalType where
  | boolean
  | int32
  | int64
  | double
  | byteArray
  | fixedByteArray (length : Nat)
deriving DecidableEq

namespace PhysicalType

def text : PhysicalType → String
  | boolean => "BOOLEAN"
  | int32 => "INT32"
  | int64 => "INT64"
  | double => "DOUBLE"
  | byteArray => "BYTE_ARRAY"
  | fixedByteArray _ => "FIXED_LEN_BYTE_ARRAY"

/-- The length of a cell where all have one, else -1. -/
def typeLength : PhysicalType → Int
  | fixedByteArray n => n
  | _ => -1

/-- The stored form of a primitive type. -/
def ofType : ArrayType → PhysicalType
  | .boolean => boolean
  | .int16 | .uint32 => int32
  | .float64 => double
  | .utf8 | .largeBinary => byteArray
  | .decimal128 precision _ =>
    match decimalWidth? precision with
    | some .int32 => int32
    | some (.fixed n) => fixedByteArray n
    | _ => int64
  | _ => int64

/-- Whether a file has a dictionary page for such a leaf. -/
def hasDictionary (p : WriterProperties) : PhysicalType → Bool
  | boolean => false
  | fixedByteArray _ => p.dictionary && p.writerVersion = .v2
  | _ => p.dictionary

end PhysicalType

/-- A primitive leaf of a schema. -/
structure StoredLeaf where
  path : String
  physical : PhysicalType
  maxDefinition : Nat
  maxRepetition : Nat

/-- The definition levels that a field of its own adds. -/
def nullLevels (nullable : Bool) : Nat :=
  if nullable then 1 else 0

mutual

/-- The leaves of a type under a path, at definition and repetition levels. -/
def ArrayType.leaves (path : String) (definition repetition : Nat) :
    ArrayType → List StoredLeaf
  | .list (.mk name type nullable) =>
    type.leaves (path ++ ".list." ++ name) (definition + 1 + nullLevels nullable) (repetition + 1)
  | .struct members => ArrayField.memberLeaves path definition repetition members
  | type => [⟨path, .ofType type, definition, repetition⟩]

/-- The leaves of the members of a struct. -/
def ArrayField.memberLeaves (path : String) (definition repetition : Nat) :
    List ArrayField → List StoredLeaf
  | [] => []
  | .mk name type nullable :: fs =>
    type.leaves (path ++ "." ++ name) (definition + nullLevels nullable) repetition ++
      ArrayField.memberLeaves path definition repetition fs

end

/-- The leaves of a schema. -/
def ArraySchema.leaves (s : ArraySchema) : List StoredLeaf :=
  s.fields.flatMap fun f => f.type.leaves f.name (nullLevels f.nullable) 0

mutual

/-- Whether a struct without members occurs in a type. -/
def ArrayType.hasEmptyStruct : ArrayType → Bool
  | .list item => item.hasEmptyStruct
  | .struct members => members.isEmpty || ArrayField.anyEmptyStruct members
  | _ => false

def ArrayField.hasEmptyStruct : ArrayField → Bool
  | .mk _ type _ => type.hasEmptyStruct

def ArrayField.anyEmptyStruct : List ArrayField → Bool
  | [] => false
  | f :: fs => f.hasEmptyStruct || ArrayField.anyEmptyStruct fs

end

/-! ## Files -/

/-- How many rows each row group holds. -/
def rowGroups (size : Nat) (rows : Nat) : List Nat :=
  List.replicate (rows / size) size ++ (if rows % size = 0 then [] else [rows % size])

/-- A leaf and the settings of its first column chunk, if there is one. -/
def StoredLeaf.describe (p : WriterProperties) (rows : Nat) (leaf : StoredLeaf) : Json :=
  let chunk (j : Json) : Json := if rows = 0 then .null else j
  .obj [("path", .str leaf.path), ("physical", .str leaf.physical.text),
    ("type_length", .int leaf.physical.typeLength), ("max_def", .nat leaf.maxDefinition),
    ("max_rep", .nat leaf.maxRepetition), ("compression", chunk (.str p.codec.text)),
    ("dictionary", chunk (.bool (leaf.physical.hasDictionary p))),
    ("statistics", chunk (.bool p.pageStatistics))]

/-- What a file with a batch holds. -/
def Batch.describe (b : Batch) (p : WriterProperties) : Json :=
  .obj [("writer_version", .nat p.writerVersion.number), ("rows", .nat b.numRows),
    ("row_groups", .ofList Json.nat (rowGroups p.maxRowGroupSize b.numRows)),
    ("columns", .ofList (StoredLeaf.describe p b.numRows) b.schema.leaves),
    ("fields", .arr (ArrayField.describeAll b.schema.fields)),
    ("data", .arr (b.arrays.map fun a => .arr (Value.describeItems a.values a.type)))]

/-- The bytes of a file with a batch. -/
def Batch.fileBytes (b : Batch) (p : WriterProperties) : ByteArray :=
  (b.describe p).compress.toUTF8

/-- Lays out the columns of a request and writes them to its path.  The file is
created before it is known whether the format can hold the schema. -/
def storeFile (rowGroupSize : Nat) (r : EncodeRequest) (d : Disk) :
    Disk × Except EncodeError Unit :=
  match Batch.build r.schema r.columns with
  | .error e => (d, .error (.layout e))
  | .ok batch =>
    match d.writeFile r.path ByteArray.empty with
    | .error e => (d, .error (.io e))
    | .ok created =>
      if ArrayField.anyEmptyStruct batch.schema.fields then (created, .error .emptyStruct)
      else
        match r.properties? rowGroupSize with
        | none => (created, .ok ())
        | some p =>
          match created.writeFile r.path (batch.fileBytes p) with
          | .error e => (created, .error (.io e))
          | .ok written => (written, .ok ())

/-- The encoder that stores files, with at least one row in a row group. -/
def Encoder.storing (rowGroupSize : Nat) : Encoder :=
  .stateless true (storeFile (max rowGroupSize 1))

theorem Encoder.storing_eq_iff {rowGroupSize : Nat} {r : EncodeRequest}
    {w w' : World (Encoder.storing rowGroupSize).State} {result : Except EncodeError Unit} :
    (Encoder.storing rowGroupSize).encode r w = (w', result) ↔
      storeFile (max rowGroupSize 1) r w.disk = (w'.disk, result) :=
  stateless_eq_iff

end FixtureMatrix
