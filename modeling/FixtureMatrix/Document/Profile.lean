import FixtureMatrix.Document.Dialect
import FixtureMatrix.Profile

/-!
# Profiles in documents

The same decoders serve every dialect, and `Profile.toJson` writes what they
read.
-/

namespace FixtureMatrix

/-- The values of a word of 64 bits. -/
def wordLimit : Nat := Nat.pow 2 64

/-- A page version is its number. -/
def PageVersion.decode (d : Dialect N P) (n : N) : Decoded P PageVersion := do
  let k ← d.unsigned (Nat.pow 2 8) "u8" n
  match PageVersion.ofNumber? k with
  | some v => return v
  | none => .error (.bare (PageVersion.unknownMessage (String.ofList (Digits.ofNat k))))

def PageVersion.toJson (v : PageVersion) : Json :=
  .nat v.number

def PageLayout.names : List (String × PageLayout) :=
  [("single", .single), ("multi", .multi)]

def PageLayout.decode (d : Dialect N P) (n : N) : Decoded P PageLayout :=
  d.choice PageLayout.names n

def PageLayout.toJson (l : PageLayout) : Json :=
  .str l.text

def Compression.names : List (String × Compression) :=
  Compression.all.map fun c => (c.name, c)

def Compression.decode (d : Dialect N P) (n : N) : Decoded P Compression :=
  d.choice Compression.names n

def Compression.toJson (c : Compression) : Json :=
  .str c.name

namespace Profile

/-- A profile of which some fields may be missing. -/
structure Partial where
  pageVersion : Option PageVersion := none
  dictionary : Option Bool := none
  layout : Option PageLayout := none
  compression : Option Compression := none

/-- The profile, if no field is missing; else the first that is. -/
def Partial.finish (s : Partial) : Except String Profile :=
  match s.pageVersion, s.dictionary, s.layout, s.compression with
  | some v, some d, some l, some c => .ok ⟨v, d, l, c⟩
  | none, _, _, _ => .error "page_version"
  | _, none, _, _ => .error "dictionary"
  | _, _, none, _ => .error "layout"
  | _, _, _, none => .error "compression"

/-- The first missing field. -/
def Partial.missing (s : Partial) : Option String :=
  match s.finish with
  | .ok _ => none
  | .error name => some name

/-- The fields of a profile. -/
def shape (d : Dialect N P) : RecordShape N P Partial where
  expected := "struct PhysicalProfile"
  fields := [
    ("page_version", fun n s => do return { s with pageVersion := some (← PageVersion.decode d n) }),
    ("dictionary", fun n s => do return { s with dictionary := some (← d.bool n) }),
    ("layout", fun n s => do return { s with layout := some (← PageLayout.decode d n) }),
    ("compression", fun n s => do return { s with compression := some (← Compression.decode d n) })]
  missing := Partial.missing
  shortListAllowed := false

def decode (d : Dialect N P) (n : N) : Decoded P Profile := do
  let s ← d.record (shape d) {} n
  match s.finish with
  | .ok p => return p
  | .error name => .error (.bare (Document.missingField name))

def toJson (p : Profile) : Json :=
  .obj [("page_version", p.pageVersion.toJson), ("dictionary", .bool p.dictionary),
    ("layout", p.layout.toJson), ("compression", p.compression.toJson)]

end Profile

end FixtureMatrix
