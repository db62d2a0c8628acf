/-!
# Disks

A disk maps the keys of its directories and files to what is there.  A key
lists the names from the root down.  `Disk.lookup` is the view of a disk: two
disks with equal look-ups hold the same tree.
-/

namespace FixtureMatrix

/-- What stands at a place of a disk. -/
inductive Entry where
  | directory
  | file (content : ByteArray)

/-- Directories and files by key, and the directory that relative paths start
from.  No key occurs twice. -/
structure Disk where
  entries : List (List String × Entry)
  workingDirectory : List String

namespace Disk

/-- A disk with an empty working directory. -/
def empty : Disk :=
  ⟨[(["work"], .directory)], ["work"]⟩

/-- What stands at a key; the root is a directory. -/
def lookup (d : Disk) (key : List String) : Option Entry :=
  match d.entries.find? fun e => e.1 = key with
  | some e => some e.2
  | none => if key = [] then some .directory else none

/-- Puts an entry at a key, in place of what stands there. -/
def put (d : Disk) (key : List String) (e : Entry) : Disk :=
  { d with entries := (d.entries.filter fun old => old.1 ≠ key) ++ [(key, e)] }

/-- The entries strictly below a key, with the names from the key down. -/
def below (d : Disk) (key : List String) : List (List String × Entry) :=
  d.entries.filterMap fun e =>
    if key.isPrefixOf e.1 ∧ e.1 ≠ key then some (e.1.drop key.length, e.2) else none

/-- The keys of all files below a key, with the names from the key down. -/
def filesBelow (d : Disk) (key : List String) : List (List String) :=
  (d.below key).filterMap fun e =>
    match e.2 with
    | .file _ => some e.1
    | .directory => none

end Disk

/-- Why an operation on a disk fails. -/
inductive OsError where
  | notFound
  | exists
  | notDirectory
  | isDirectory
  /-- A file that is read as text but is not UTF-8. -/
  | notText
  | other (reason : String)

/-- The error as it is shown to people. -/
def OsError.message : OsError → String
  | .notFound => "No such file or directory (os error 2)"
  | .exists => "File exists (os error 17)"
  | .notDirectory => "Not a directory (os error 20)"
  | .isDirectory => "Is a directory (os error 21)"
  | .notText => "stream did not contain valid UTF-8"
  | .other reason => reason

end FixtureMatrix
