import FixtureMatrix.Text.Blank
import FixtureMatrix.Text.Digits

/-!
# Physical profiles

A profile is one combination of encoding dimensions: the version of the data
pages, dictionary encoding, page layout and compression.  Every profile has a
directory of its own, made of one segment per dimension that differs from its
default.
-/

namespace FixtureMatrix

/-- The version of the data page headers. -/
inductive PageVersion where
  | v1
  | v2
deriving DecidableEq

namespace PageVersion

def all : List PageVersion := [v1, v2]

def number : PageVersion → Nat
  | v1 => 1
  | v2 => 2

def text (v : PageVersion) : String :=
  "v" ++ String.ofList (Digits.ofNat v.number)

def ofNumber? : Nat → Option PageVersion
  | 1 => some v1
  | 2 => some v2
  | _ => none

/-- Why no page version can be made: the offending number or text is quoted
as it stands. -/
def unknownMessage (shown : String) : String :=
  "Unknown page version: " ++ shown ++ ". Use 1 or 2"

/-- The number before the first point, behind any number of `v`s: an optional
plus sign and digits, at most 255. -/
def numberOfText? (cs : List Char) : Option Nat :=
  let body := ((Text.trim cs).dropWhile fun c => c == 'v' || c == 'V').takeWhile (· != '.')
  let digits := match body with
    | '+' :: rest => rest
    | _ => body
  (Digits.toNat? digits).filter (· ≤ 255)

/-- Reads a page version; the error is the number found, or the whole text
where there is none. -/
def ofText (s : String) : Except String PageVersion :=
  match numberOfText? s.toList with
  | none => .error (unknownMessage s)
  | some n =>
    match ofNumber? n with
    | some v => .ok v
    | none => .error (unknownMessage (String.ofList (Digits.ofNat n)))

end PageVersion

/-- Whether values are spread over one data page or several. -/
inductive PageLayout where
  | single
  | multi
deriving DecidableEq

def PageLayout.text : PageLayout → String
  | .single => "single"
  | .multi => "multi"

/-- The codec of the data pages. -/
inductive Compression where
  | none
  | snappy
  | lz4
  | lz4Raw
  | zstd
  | gzip
deriving DecidableEq

namespace Compression

def all : List Compression := [none, snappy, lz4, lz4Raw, zstd, gzip]

def name : Compression → String
  | none => "none"
  | snappy => "snappy"
  | lz4 => "lz4"
  | lz4Raw => "lz4_raw"
  | zstd => "zstd"
  | gzip => "gzip"

/-- The directory segment, absent for uncompressed output. -/
def dirName? : Compression → Option String
  | none => Option.none
  | c => some c.name

/-- Reads a codec's name or alias, in any case. -/
def ofText (s : String) : Except String Compression :=
  match s.map Char.toLower with
  | "none" | "uncompressed" | "" => .ok none
  | "snappy" => .ok snappy
  | "lz4" => .ok lz4
  | "lz4_raw" | "lz4-raw" => .ok lz4Raw
  | "zstd" => .ok zstd
  | "gzip" | "gz" => .ok gzip
  | _ => .error ("Unknown compression: " ++ s ++
      ". Valid options: none, snappy, lz4, lz4_raw, zstd, gzip")

end Compression

/-- One combination of encoding dimensions. -/
structure Profile where
  pageVersion : PageVersion
  dictionary : Bool
  layout : PageLayout
  compression : Compression
deriving DecidableEq

namespace Profile

/-- Version 1, plain, one page, uncompressed. -/
def plain : Profile := ⟨.v1, false, .single, .none⟩

def text (p : Profile) : String :=
  p.pageVersion.text ++ " " ++ (if p.dictionary then "dict" else "plain") ++ " " ++
    p.layout.text ++ " " ++ p.compression.name

/-- The directory's segments in fixed order: version, dictionary, layout,
codec.  A dimension at its default has none. -/
def segments (p : Profile) : List String :=
  p.pageVersion.text ::
    ((if p.dictionary then ["dict"] else []) ++
      (if p.layout = .multi then ["multi"] else []) ++
      p.compression.dirName?.toList)

end Profile

end FixtureMatrix
