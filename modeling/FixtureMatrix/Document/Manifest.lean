import FixtureMatrix.Document.JsonText
import FixtureMatrix.Document.Profile
import FixtureMatrix.Manifest.Basic

/-!
# Manifests in documents

`Manifest.text` writes a manifest as JSON text, and `Manifest.parse` reads one
back.  A manifest that is read need not be sorted.
-/

namespace FixtureMatrix

namespace ArtifactRecord

/-- A record of which some fields may be missing. -/
structure Partial where
  path : Option String := none
  case : Option String := none
  fileName : Option String := none
  profile : Option Profile := none
  rows : Option Nat := none
  bytes : Option Nat := none
  sha256 : Option String := none

/-- A field, or the name under which it is missing. -/
def need (name : String) : Option α → Except String α
  | some a => .ok a
  | none => .error name

/-- The record, if no field is missing; else the first that is. -/
def Partial.finish (s : Partial) : Except String ArtifactRecord := do
  let path ← need "path" s.path
  let case ← need "case" s.case
  let fileName ← need "file_name" s.fileName
  let profile ← need "profile" s.profile
  let rows ← need "rows" s.rows
  let bytes ← need "bytes" s.bytes
  let sha256 ← need "sha256" s.sha256
  return ⟨path, case, fileName, profile, rows, bytes, sha256⟩

/-- The first missing field. -/
def Partial.missing (s : Partial) : Option String :=
  match s.finish with
  | .ok _ => none
  | .error name => some name

/-- The fields of a record. -/
def shape (d : Dialect N P) : RecordShape N P Partial where
  expected := "struct ArtifactRecord"
  fields := [
    ("path", fun n s => do return { s with path := some (← d.string "a string" n) }),
    ("case", fun n s => do return { s with case := some (← d.string "a string" n) }),
    ("file_name", fun n s => do return { s with fileName := some (← d.string "a string" n) }),
    ("profile", fun n s => do return { s with profile := some (← Profile.decode d n) }),
    ("rows", fun n s => do return { s with rows := some (← d.unsigned wordLimit "usize" n) }),
    ("bytes", fun n s => do return { s with bytes := some (← d.unsigned wordLimit "u64" n) }),
    ("sha256", fun n s => do return { s with sha256 := some (← d.string "a string" n) })]
  missing := Partial.missing
  shortListAllowed := false

def decode (d : Dialect N P) (n : N) : Decoded P ArtifactRecord := do
  let s ← d.record (shape d) {} n
  match s.finish with
  | .ok r => return r
  | .error name => .error (.bare (Document.missingField name))

def toJson (r : ArtifactRecord) : Json :=
  .obj [("path", .str r.path), ("case", .str r.case), ("file_name", .str r.fileName),
    ("profile", r.profile.toJson), ("rows", .nat r.rows), ("bytes", .nat r.bytes),
    ("sha256", .str r.sha256)]

end ArtifactRecord

namespace Manifest

/-- A manifest of which some fields may be missing. -/
structure Partial where
  version : Option Nat := none
  artifacts : Option (List ArtifactRecord) := none

/-- The manifest, if no field is missing; else the first that is. -/
def Partial.finish (s : Partial) : Except String Manifest := do
  let version ← ArtifactRecord.need "version" s.version
  let artifacts ← ArtifactRecord.need "artifacts" s.artifacts
  return ⟨version, artifacts⟩

/-- The first missing field. -/
def Partial.missing (s : Partial) : Option String :=
  match s.finish with
  | .ok _ => none
  | .error name => some name

/-- The fields of a manifest. -/
def shape (d : Dialect N P) : RecordShape N P Partial where
  expected := "struct Manifest"
  fields := [
    ("version", fun n s => do return { s with version := some (← d.unsigned (Nat.pow 2 32) "u32" n) }),
    ("artifacts", fun n s => do
      return { s with artifacts := some (← d.list (ArtifactRecord.decode d) n) })]
  missing := Partial.missing
  shortListAllowed := false

def decode (d : Dialect N P) (n : N) : Decoded P Manifest := do
  let s ← d.record (shape d) {} n
  match s.finish with
  | .ok m => return m
  | .error name => .error (.bare (Document.missingField name))

def toJson (m : Manifest) : Json :=
  .obj [("version", .nat m.version), ("artifacts", .ofList ArtifactRecord.toJson m.artifacts)]

/-- The text of a manifest's file. -/
def text (m : Manifest) : String :=
  m.toJson.prettyText ++ "\n"

/-- Reads the text of a manifest's file and sorts its records. -/
def parse (s : String) : Except String Manifest := do
  let m ← Document.JsonText.decode (decode Document.JsonText.dialect) s.toList
  return ofRecords m.artifacts

end Manifest

end FixtureMatrix
