import FixtureMatrix.Case.Basic
import FixtureMatrix.Value.Samples

/-!
# The canonical cases

Five small cases that together cover the primitive types, nullability, lists,
lists of lists, structs and structs of structs.
-/

namespace FixtureMatrix

/-- A canonical case: how it is called and what it holds. -/
structure CaseDescriptor where
  id : String
  fileName : String
  rows : Nat
  description : String
  fields : List Field
  columns : List Column

namespace CaseDescriptor

/-- The case with its data. -/
def build (d : CaseDescriptor) : FixtureCase :=
  ⟨d.id, ⟨d.fields⟩, d.columns, d.fileName⟩

open Samples

/-- One nullable field per primitive type.  Decimals and time stamps reuse the
integer column. -/
def basicNullable : CaseDescriptor where
  id := "basic-nullable"
  fileName := "basic_nullable_10.parquet"
  rows := 10
  description := "one nullable field per primitive type"
  fields := [
    .optional "int64" .int64,
    .optional "float64" .float64,
    .optional "string" .utf8,
    .optional "bool" .bool,
    .optional "date" (.timestamp .millisecond none),
    .optional "uint32" .uint32,
    .optional "string_large" .utf8,
    .optional "decimal_9" (.decimal 9 0),
    .optional "decimal_18" (.decimal 18 0),
    .optional "decimal_26" (.decimal 26 0),
    .optional "timestamp_us" (.timestamp .microsecond none),
    .optional "timestamp_s" (.timestamp .second none),
    .optional "emoji" .utf8,
    .optional "timestamp_s_utc" (.timestamp .second (some "UTC"))]
  columns := [
    ⟨"int64", nullableInt64⟩,
    ⟨"float64", nullableFloat64⟩,
    ⟨"string", nullableUtf8⟩,
    ⟨"bool", nullableBool⟩,
    ⟨"date", nullableInt64⟩,
    ⟨"uint32", nullableInt64⟩,
    ⟨"string_large", largeUtf8 10⟩,
    ⟨"decimal_9", nullableInt64⟩,
    ⟨"decimal_18", nullableInt64⟩,
    ⟨"decimal_26", nullableInt64⟩,
    ⟨"timestamp_us", nullableInt64⟩,
    ⟨"timestamp_s", nullableInt64⟩,
    ⟨"emoji", emoji 10⟩,
    ⟨"timestamp_s_utc", nullableInt64⟩]

/-- Primitive fields that may not be null. -/
def basicRequired : CaseDescriptor where
  id := "basic-required"
  fileName := "basic_required_10.parquet"
  rows := 10
  description := "non-nullable primitives"
  fields := [
    .required "int64" .int64,
    .required "float64" .float64,
    .required "string" .utf8,
    .required "bool" .bool,
    .required "date" (.timestamp .millisecond none),
    .required "uint32" .uint32,
    .required "decimal_9" (.decimal 9 0),
    .required "decimal_18" (.decimal 18 0),
    .required "decimal_26" (.decimal 26 0)]
  columns := [
    ⟨"int64", requiredInt64⟩,
    ⟨"float64", requiredFloat64⟩,
    ⟨"string", requiredUtf8⟩,
    ⟨"bool", requiredBool⟩,
    ⟨"date", requiredInt64⟩,
    ⟨"uint32", requiredUint32⟩,
    ⟨"decimal_9", requiredInt64⟩,
    ⟨"decimal_18", requiredInt64⟩,
    ⟨"decimal_26", requiredInt64⟩]

/-- A list of integers that may not be null. -/
def requiredIntList : LogicalType :=
  .list (.required "item" .int64)

/-- Lists in every combination of list and item nullability, of every kind of
item, and lists of lists. -/
def nested : CaseDescriptor where
  id := "nested"
  fileName := "nested_nullable_10.parquet"
  rows := 8
  description := "lists across list/item nullability, lists of lists"
  fields := [
    .listOf "list_int64" .int64 true,
    .listOf "list_int64_required" .int64 false,
    (Field.listOf "list_int64_required_list" .int64 true).require,
    (Field.listOf "list_int64_required_required" .int64 false).require,
    .listOf "list_int16" .int16 true,
    .listOf "list_bool" .bool true,
    .listOf "list_utf8" .utf8 true,
    .listOf "list_large_binary" .largeBinary true,
    .listOf "list_nested_i64" (.list (.optional "item" .int64)) true,
    .listOf "list_nested_inner_required_i64" requiredIntList true,
    .listOf "list_nested_inner_required_required_i64" requiredIntList false]
  columns := [
    ⟨"list_int64", listNullableItems⟩,
    ⟨"list_int64_required", listRequiredItems⟩,
    ⟨"list_int64_required_list", requiredListNullableItems⟩,
    ⟨"list_int64_required_required", requiredListRequiredItems⟩,
    ⟨"list_int16", listNullableItems⟩,
    ⟨"list_bool", listBool⟩,
    ⟨"list_utf8", listUtf8⟩,
    ⟨"list_large_binary", listUtf8⟩,
    ⟨"list_nested_i64", nestedLists⟩,
    ⟨"list_nested_inner_required_i64", nestedListsRequiredItems⟩,
    ⟨"list_nested_inner_required_required_i64", nestedRequiredLists⟩]

/-- A nullable string and a nullable boolean. -/
def pairMembers : List Field :=
  [.optional "f1" .utf8, .optional "f2" .bool]

/-- A struct, and a struct with a struct inside. -/
def structs : CaseDescriptor where
  id := "struct"
  fileName := "struct_nullable_10.parquet"
  rows := 10
  description := "struct and struct-of-struct with nullable members"
  fields := [
    .optional "struct" (.struct pairMembers),
    .optional "struct_struct"
      (.struct [.optional "f1" (.struct pairMembers), .optional "f2" .bool])]
  columns := [⟨"struct", structUtf8Bool⟩, ⟨"struct_struct", structStruct⟩]

/-- One row: a list of two items beside a null list. -/
def nestedEdge : CaseDescriptor where
  id := "nested-edge"
  fileName := "nested_edge_nullable_10.parquet"
  rows := 1
  description := "single-row two-element list and single null list"
  fields := [.listOf "simple" .int64 true, .listOf "null" .int64 true]
  columns := [⟨"simple", [intList [0, 1]]⟩, ⟨"null", [.null]⟩]

/-- Every canonical case, in the order in which they are generated. -/
def canonical : List CaseDescriptor :=
  [basicNullable, basicRequired, nested, structs, nestedEdge]

/-- A case's id in lower case with hyphens.  All ids are ASCII, and no other
character has one of their letters as its lower-case form. -/
def normalizedId (id : String) : String :=
  id.map fun c => if c = '_' then '-' else c.toLower

/-- The canonical case of an id, in any case and with underscores for hyphens. -/
def find? (id : String) : Option CaseDescriptor :=
  canonical.find? fun d => d.id = normalizedId id

end CaseDescriptor

end FixtureMatrix
