import FixtureMatrix.Profile

/-!
# Manifests

A manifest lists the files of a run, sorted by path.  Of several records of one
path the last one counts, as the last write replaced the file.
-/

namespace FixtureMatrix

/-- One file that was written. -/
structure ArtifactRecord where
  /-- Relative to the output root, with slashes. -/
  path : String
  case : String
  fileName : String
  profile : Profile
  rows : Nat
  bytes : Nat
  sha256 : String
deriving DecidableEq

/-- The layout that manifests are written in. -/
def manifestVersion : Nat := 1

/-- The name of a manifest's file. -/
def manifestFile : String := "manifest.json"

/-- The files of a run, sorted by path. -/
structure Manifest where
  version : Nat
  artifacts : List ArtifactRecord
deriving DecidableEq

namespace Manifest

/-- Puts a record into a list sorted by path, in place of one of its path. -/
def insert (r : ArtifactRecord) : List ArtifactRecord → List ArtifactRecord
  | [] => [r]
  | x :: xs =>
    if r.path < x.path then r :: x :: xs
    else if r.path = x.path then r :: xs
    else x :: insert r xs

/-- The records sorted by path, each path with its last record. -/
def index (records : List ArtifactRecord) : List ArtifactRecord :=
  records.foldl (fun sorted r => insert r sorted) []

/-- The manifest of some records. -/
def ofRecords (records : List ArtifactRecord) : Manifest :=
  ⟨manifestVersion, index records⟩

/-- Where a path stands among records sorted by path.  Of the `size` records from
`base` on, the half that cannot hold the path is left out until one record remains. -/
def position? (rs : List ArtifactRecord) (path : String) (base size : Nat) : Option Nat :=
  if size ≤ 1 then
    if rs[base]?.any fun r => r.path = path then some base else none
  else
    let middle := base + size / 2
    if rs[middle]?.any fun r => path < r.path then position? rs path base (size - size / 2)
    else position? rs path middle (size - size / 2)
termination_by size

/-- The record of a path. -/
def find? (m : Manifest) (path : String) : Option ArtifactRecord :=
  (position? m.artifacts path 0 m.artifacts.length).bind fun i => m.artifacts[i]?

/-- Whether a record has a path. -/
def lists (m : Manifest) (path : String) : Bool :=
  m.artifacts.any fun r => r.path = path

/-- The size of all files together. -/
def totalBytes (m : Manifest) : Nat :=
  m.artifacts.foldr (fun r bytes => r.bytes + bytes) 0

end Manifest

end FixtureMatrix
