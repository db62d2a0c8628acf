import FixtureMatrix.Json.Basic
import FixtureMatrix.Schema.Basic

/-!
# Schemas as JSON
-/

namespace FixtureMatrix

mutual

/-- A plain type is its name; a type with parameters is an object whose only
key is its name. -/
def LogicalType.toJson : LogicalType → Json
  | .bool => .str "bool"
  | .int16 => .str "int16"
  | .int64 => .str "int64"
  | .uint32 => .str "u_int32"
  | .float64 => .str "float64"
  | .utf8 => .str "utf8"
  | .largeBinary => .str "large_binary"
  | .decimal precision scale =>
    .obj [("decimal", .obj [("precision", .nat precision), ("scale", .nat scale)])]
  | .timestamp unit timezone =>
    .obj [("timestamp",
      .obj [("unit", .str unit.name), ("timezone", .ofOption .str timezone)])]
  | .list item => .obj [("list", item.toJson)]
  | .struct members => .obj [("struct", .arr (Field.allToJson members))]

def Field.toJson : Field → Json
  | .mk name type nullable =>
    .obj [("name", .str name), ("logical_type", type.toJson), ("nullable", .bool nullable)]

def Field.allToJson : List Field → List Json
  | [] => []
  | f :: fs => f.toJson :: Field.allToJson fs

end

def Schema.toJson (s : Schema) : Json :=
  .obj [("fields", .arr (Field.allToJson s.fields))]

end FixtureMatrix
