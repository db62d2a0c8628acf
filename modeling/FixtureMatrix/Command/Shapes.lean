import FixtureMatrix.Command.Transcript
import FixtureMatrix.Document.Profile

/-!
# The shapes of JSON output

Each JSON document of the program has a JSON Schema, which `schema` prints.
-/

namespace FixtureMatrix

/-- The shape of a JSON value. -/
inductive JsonShape where
  | boolean
  | text
  | real
  /-- A natural number in a format. -/
  | natural (format : String)
  /-- A value of a shape, or null. -/
  | nullable (shape : JsonShape)
  | list (item : JsonShape)
  /-- A shape that is defined by name. -/
  | named (name : String)

namespace JsonShape

/-- A size or a count. -/
def count : JsonShape := .natural "uint"

/-- An amount of 64 bits. -/
def amount : JsonShape := .natural "uint64"

/-- The type of a shape and what else there is to say about it. -/
def parts : JsonShape → Json × List (String × Json)
  | .boolean => (.str "boolean", [])
  | .text => (.str "string", [])
  | .real => (.str "number", [("format", .str "double")])
  | .natural format => (.str "integer", [("format", .str format), ("minimum", .nat 0)])
  | .nullable shape =>
    let (type, more) := shape.parts
    (.arr [type, .str "null"], more)
  | .list item =>
    let (type, more) := item.parts
    (.str "array", [("items", .obj (typeEntry type ++ more))])
  | .named name => (.null, [("$ref", .str ("#/$defs/" ++ name))])
where
  /-- The entry of a type; a reference has none. -/
  typeEntry : Json → List (String × Json)
    | .null => []
    | type => [("type", type)]

def toJson (shape : JsonShape) : List (String × Json) :=
  let (type, more) := shape.parts
  parts.typeEntry type ++ more

end JsonShape

/-- A field of a record. -/
structure JsonMember where
  name : String
  shape : JsonShape
  description : Option String := none
  /-- Whether the field may be left out. -/
  optional : Bool := false

/-- A shape with a name. -/
structure JsonDefinition where
  name : String
  description : Option String
  /-- What the shape is, besides its description. -/
  body : List (String × Json)

/-- The entry of a description, if there is one. -/
def descriptionEntry (description : Option String) : List (String × Json) :=
  (description.map fun d => ("description", Json.str d)).toList

def JsonMember.toJson (m : JsonMember) : String × Json :=
  (m.name, .obj (descriptionEntry m.description ++ m.shape.toJson))

namespace JsonDefinition

/-- A record. -/
def record (name : String) (description : Option String) (members : List JsonMember) :
    JsonDefinition :=
  ⟨name, description, [("type", .str "object"), ("properties", .obj (members.map JsonMember.toJson)),
    ("required", .ofList (fun m => .str m.name) (members.filter fun m => !m.optional))]⟩

/-- One of several texts. -/
def choice (name description : String) (options : List String) : JsonDefinition :=
  ⟨name, some description, [("type", .str "string"), ("enum", .ofList Json.str options)]⟩

def toJson (d : JsonDefinition) : Json :=
  .obj (descriptionEntry d.description ++ d.body)

/-- The schema of a document, with the definitions it refers to. -/
def schema (d : JsonDefinition) (definitions : List JsonDefinition) : Json :=
  .obj ([("$schema", .str "https://json-schema.org/draft/2020-12/schema"), ("title", .str d.name)] ++
    descriptionEntry d.description ++ d.body ++
    [("$defs", .obj (definitions.map fun x => (x.name, x.toJson)))])

end JsonDefinition

namespace OutputSchema

/-! ## The documents -/

def generate : Json :=
  (JsonDefinition.record "GenerateJsonOutput" (some "JSON output for generate") [
    { name := "output_dir", shape := .text },
    { name := "dry_run", shape := .boolean },
    { name := "statistics", shape := .named "GenerateStatistics" },
    { name := "manifest", shape := .nullable .text, optional := true },
    { name := "files", shape := .list (.named "GeneratedFile") }]).schema [
  .record "GenerateStatistics" none [
    { name := "jobs", shape := .count },
    { name := "rows_written", shape := .amount },
    { name := "bytes_written", shape := .amount },
    { name := "elapsed_secs", shape := .real }],
  .record "GeneratedFile" none [
    { name := "path", shape := .text },
    { name := "case", shape := .text },
    { name := "profile", shape := .text },
    { name := "rows", shape := .count },
    { name := "bytes", shape := .nullable .amount, optional := true },
    { name := "sha256", shape := .nullable .text, optional := true }]]

def list : Json :=
  (JsonDefinition.record "ListJsonOutput" (some "JSON output for list") [
    { name := "cases", shape := .list (.named "CaseSummary") },
    { name := "matrix_jobs", shape := .count },
    { name := "benchmark_jobs", shape := .count },
    { name := "benchmark_sizes", shape := .list .count }]).schema [
  .record "CaseSummary" none [
    { name := "id", shape := .text },
    { name := "file_name", shape := .text },
    { name := "rows", shape := .count },
    { name := "fields", shape := .count },
    { name := "nullable_fields", shape := .count },
    { name := "leaf_columns", shape := .count },
    { name := "description", shape := .text }]]

/-- The definition of a page version. -/
def pageVersion : JsonDefinition :=
  ⟨"PageVersion", some "Data page header format", [("type", .str "integer"),
    ("format", .str "uint8"), ("minimum", .nat 0), ("maximum", .nat 255)]⟩

def manifest : Json :=
  (JsonDefinition.record "Manifest" (some "Every artifact of a run, sorted by path") [
    { name := "version", shape := .natural "uint32" },
    { name := "artifacts", shape := .list (.named "ArtifactRecord") }]).schema [
  .record "ArtifactRecord" (some "One file written by the matrix driver") [
    { name := "path", shape := .text,
      description := some "Path relative to the output root, `/`-separated" },
    { name := "case", shape := .text },
    { name := "file_name", shape := .text },
    { name := "profile", shape := .named "PhysicalProfile" },
    { name := "rows", shape := .count },
    { name := "bytes", shape := .amount },
    { name := "sha256", shape := .text }],
  .record "PhysicalProfile"
    (some "One combination of encoding dimensions applied to a fixture case") [
    { name := "page_version", shape := .named "PageVersion" },
    { name := "dictionary", shape := .boolean },
    { name := "layout", shape := .named "PageLayout" },
    { name := "compression", shape := .named "Compression" }],
  pageVersion,
  .choice "PageLayout" "Whether values are spread over one data page or several"
    (PageLayout.names.map Prod.fst),
  .choice "Compression" "Page compression codec" (Compression.names.map Prod.fst)]

def shown : Json :=
  (JsonDefinition.record "ShowJsonOutput" (some "JSON output for show") [
    { name := "id", shape := .text },
    { name := "file_name", shape := .text },
    { name := "rows", shape := .count },
    { name := "fields", shape := .list (.named "ShowField") },
    { name := "data", shape := .list (.list .text),
      description := some "Rendered values, one inner vector per row in field order" }]).schema [
  .record "ShowField" none [
    { name := "name", shape := .text },
    { name := "type", shape := .text },
    { name := "nullable", shape := .boolean }]]

def verify : Json :=
  (JsonDefinition.record "VerifyJsonOutput" (some "JSON output for verify") [
    { name := "output_dir", shape := .text },
    { name := "ok", shape := .boolean },
    { name := "checked", shape := .count },
    { name := "verified", shape := .count },
    { name := "missing", shape := .list .text },
    { name := "mismatched", shape := .list (.named "ChecksumMismatch") },
    { name := "stray", shape := .list .text }]).schema [
  .record "ChecksumMismatch" (some "Artifact whose bytes no longer match the manifest") [
    { name := "path", shape := .text },
    { name := "expected", shape := .text },
    { name := "actual", shape := .text }]]

/-- All schemas by name, in the order of their names. -/
def all : List (String × Json) :=
  [("generate", generate), ("list", list), ("manifest", manifest), ("show", shown),
    ("verify", verify)]

/-- Performs `schema`. -/
def print : Option String → Transcript
  | none => .document (.obj all)
  | some name =>
    match all.find? fun s => s.1 = name with
    | some (_, schema) => .document schema
    | none =>
      .failed (s!"Unknown schema: {name}. Valid options: " ++
        ", ".intercalate (all.map Prod.fst))

end OutputSchema

end FixtureMatrix
