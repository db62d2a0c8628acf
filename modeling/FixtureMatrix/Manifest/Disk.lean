import FixtureMatrix.Digest.Sha256
import FixtureMatrix.Disk.Search
import FixtureMatrix.Document.Manifest
import FixtureMatrix.Error

/-!
# Manifests on a disk

A manifest stands at the output root.  `Manifest.verify` hashes every listed
file again, and looks for files below the root that are not listed.
-/

namespace FixtureMatrix

/-- The digest and the size of a file. -/
def Disk.digest (d : Disk) (path : String) : Except OsError (String × Nat) := do
  let content ← d.readFile path
  return (Sha256.hexDigest content, content.size)

/-- A file whose content is not the recorded one. -/
structure ChecksumMismatch where
  path : String
  expected : String
  actual : String
deriving DecidableEq

/-- What comparing a manifest with a disk shows. -/
structure VerifyReport where
  checked : Nat
  verified : Nat
  missing : List String
  mismatched : List ChecksumMismatch
  /-- Files on the disk that the manifest does not list. -/
  stray : List String

def VerifyReport.isClean (r : VerifyReport) : Bool :=
  r.missing.isEmpty && r.mismatched.isEmpty && r.stray.isEmpty

namespace Manifest

/-- Writes the manifest below a root; its path comes with the new disk. -/
def write (m : Manifest) (root : String) (d : Disk) : Except FixtureError (String × Disk) :=
  let path := Path.join root manifestFile
  match d.writeFile path m.text.toUTF8 with
  | .ok d => .ok (path, d)
  | .error e => .error (.io path e)

/-- Loads the manifest below a root. -/
def load (d : Disk) (root : String) : Except FixtureError Manifest :=
  let path := Path.join root manifestFile
  match d.readText path with
  | .error e => .error (.io path e)
  | .ok text =>
    match parse text with
    | .ok m => .ok m
    | .error message => .error (.config path none (.document message))

/-- What became of one listed file. -/
inductive Finding where
  | verified
  | missing (path : String)
  | mismatched (m : ChecksumMismatch)

/-- Looks for one listed file and hashes it. -/
def inspect (d : Disk) (root : String) (r : ArtifactRecord) : Except FixtureError Finding :=
  let path := Path.join root r.path
  if d.isFile path then
    match d.digest path with
    | .error e => .error (.io path e)
    | .ok (actual, _) =>
      if actual = r.sha256 then .ok .verified else .ok (.mismatched ⟨r.path, r.sha256, actual⟩)
  else .ok (.missing r.path)

/-- The path of a missing file. -/
def Finding.missing? : Finding → Option String
  | .missing path => some path
  | _ => none

def Finding.mismatched? : Finding → Option ChecksumMismatch
  | .mismatched m => some m
  | _ => none

def Finding.isVerified : Finding → Bool
  | .verified => true
  | _ => false

/-- The paths, below the root, of files that are not listed. -/
def strayFiles (m : Manifest) (d : Disk) (root : String) : List String :=
  let relative := (d.parquetFiles root).map (Path.relativeTo root)
  (relative.filter fun path => !m.lists path).mergeSort fun a b => a ≤ b

/-- Compares the manifest below a root with the files there. -/
def verify (d : Disk) (root : String) : Except FixtureError VerifyReport := do
  let m ← load d root
  let findings ← m.artifacts.mapM (inspect d root)
  return {
    checked := m.artifacts.length
    verified := findings.countP Finding.isVerified
    missing := findings.filterMap Finding.missing?
    mismatched := findings.filterMap Finding.mismatched?
    stray := m.strayFiles d root }

end Manifest

end FixtureMatrix
