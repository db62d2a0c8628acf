import FixtureMatrix.Disk.Basic
import FixtureMatrix.Path

/-!
# Reading and changing a disk by path

A path is walked piece by piece: every piece but the last has to name a
directory, two dots lead to the directory above, and a slash at the end asks
for a directory.
-/

namespace FixtureMatrix.Disk

/-- The key a path leads to.  Its last name need not exist; the flag says
whether a slash or dots follow it, so that only a directory will do. -/
def walk (d : Disk) : List String → List String → Except OsError (List String)
  | key, [] => .ok key
  | key, piece :: rest =>
    if piece = "" ∨ piece = "." then d.walk key rest
    else if piece = ".." then d.walk key.dropLast rest
    else
      let next := key ++ [piece]
      if rest = [] then .ok next
      else
        match d.lookup next with
        | some .directory => d.walk next rest
        | some (.file _) => .error .notDirectory
        | none => .error .notFound

/-- Where a path starts. -/
def start (d : Disk) (path : String) : List String :=
  if Path.isAbsolute path then [] else d.workingDirectory

/-- The key a path leads to. -/
def resolve (d : Disk) (path : String) : Except OsError (List String) :=
  if path = "" then .error .notFound
  else d.walk (d.start path) (Path.segments path)

/-- The path without slashes at its end, unless it is nothing but slashes. -/
def withoutTrailing (path : String) : String :=
  let kept := (path.toList.reverse.dropWhile (· == '/')).reverse
  if kept = [] then path else String.ofList kept

/-- Whether a path ends in a slash behind a name. -/
def hasTrailing (path : String) : Bool :=
  withoutTrailing path ≠ path

/-- What a path leads to. -/
def stat (d : Disk) (path : String) : Except OsError Entry := do
  let key ← d.resolve path
  match d.lookup key with
  | some e => return e
  | none => .error .notFound

def isFile (d : Disk) (path : String) : Bool :=
  match d.stat path with
  | .ok (.file _) => true
  | _ => false

def isDirectory (d : Disk) (path : String) : Bool :=
  match d.stat path with
  | .ok .directory => true
  | _ => false

/-- The content of a file. -/
def readFile (d : Disk) (path : String) : Except OsError ByteArray := do
  match ← d.stat path with
  | .file content => return content
  | .directory => .error .isDirectory

/-- The content of a file as text. -/
def readText (d : Disk) (path : String) : Except OsError String := do
  let content ← d.readFile path
  match String.fromUTF8? content with
  | some s => return s
  | none => .error .notText

/-- The key of a file to be written. -/
def fileKey (d : Disk) (path : String) : Except OsError (List String) :=
  if hasTrailing path then do
    let key ← d.resolve (withoutTrailing path)
    match d.lookup key with
    | some (.file _) => .error .notDirectory
    | _ => .error .isDirectory
  else do
    let key ← d.resolve path
    match d.lookup key with
    | some .directory => .error .isDirectory
    | _ => return key

/-- Writes a file, in place of an earlier one. -/
def writeFile (d : Disk) (path : String) (content : ByteArray) : Except OsError Disk := do
  let key ← d.fileKey path
  return d.put key (.file content)

/-- Creates one directory. -/
def createDirectory (d : Disk) (path : String) : Except OsError Disk := do
  let key ← d.resolve (withoutTrailing path)
  match d.lookup key with
  | some _ => .error .exists
  | none => return d.put key .directory

/-- Creates one directory, or finds it there. -/
def ensureDirectory (d : Disk) (path : String) : Except OsError Disk :=
  match d.createDirectory path with
  | .ok d => .ok d
  | .error e => if d.isDirectory path then .ok d else .error e

/-- Creates a directory and the ones above it where they are missing.  The
number bounds how far up the path is followed. -/
def createDirectoriesUpTo (d : Disk) (path : String) : Nat → Except OsError Disk
  | 0 => .ok d
  | n + 1 =>
    if path = "" then .ok d
    else
      match d.createDirectory path with
      | .error .notFound =>
        match Path.parent? path with
        | none => .error (.other "failed to create whole tree")
        | some above => do
          let d ← d.createDirectoriesUpTo above n
          d.ensureDirectory path
      | .error e => if d.isDirectory path then .ok d else .error e
      | .ok d => .ok d

/-- Creates a directory and the ones above it where they are missing. -/
def createDirectories (d : Disk) (path : String) : Except OsError Disk :=
  d.createDirectoriesUpTo path (path.length + 1)

end FixtureMatrix.Disk
