import FixtureMatrix.Disk.Operations

/-!
# Searching a disk

`Disk.parquetFiles` lists all files below a root whose name ends in
`.parquet`, as paths that start with the root's text.
-/

namespace FixtureMatrix.Disk

/-- The ending of the files searched for. -/
def parquetEnding : String := ".parquet"

def hasParquetEnding (name : String) : Bool :=
  parquetEnding.toList.isSuffixOf name.toList

/-- A place reached by a search: its key, and its path as text.  Before any
piece was followed there is no text. -/
structure Place where
  key : List String
  text : Option String

/-- The text of a name below a place.  Single dots before the first name are
left out. -/
def Place.child (p : Place) (name : String) : String :=
  match p.text with
  | none => name
  | some text => Path.join text name

/-- The place a piece leads to, if it exists. -/
def follow? (d : Disk) (p : Place) (piece : String) : Option Place :=
  match d.lookup p.key with
  | some .directory =>
    if piece = "" then
      match p.text with
      | none => none
      | some text => some ⟨p.key, some (text ++ "/")⟩
    else if piece = "." then
      match p.text with
      | none => some p
      | some text => some ⟨p.key, some (Path.join text ".")⟩
    else if piece = ".." then some ⟨p.key.dropLast, some (p.child "..")⟩
    else
      match d.lookup (p.key ++ [piece]) with
      | some _ => some ⟨p.key ++ [piece], some (p.child piece)⟩
      | none => none
  | _ => none

/-- The place a root leads to, if it exists. -/
def searchRoot? (d : Disk) (root : String) : Option Place :=
  match Path.segments root with
  | [] => none
  | "" :: rest => rest.foldlM d.follow? ⟨[], some "/"⟩
  | parts => parts.foldlM d.follow? ⟨d.workingDirectory, none⟩

/-- All files below a root whose name ends in `.parquet`, in order. -/
def parquetFiles (d : Disk) (root : String) : List String :=
  match d.searchRoot? root with
  | none => []
  | some place =>
    let found := (d.filesBelow place.key).filter fun names =>
      (names.getLast?.map hasParquetEnding).getD false
    Path.sort (found.map fun names => place.child (Path.ofSegments names))

end FixtureMatrix.Disk
