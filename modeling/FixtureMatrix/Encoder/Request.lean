import FixtureMatrix.Case.Basic
import FixtureMatrix.Encoder.Error
import FixtureMatrix.Path
import FixtureMatrix.Tiling

/-!
# Encoders

An encoder takes requests, each for one file, and works on a disk and on what it
remembers itself.  It is a black box to those who use it: it owns all decisions
on layout and writes exactly one file per call, or none.
-/

namespace FixtureMatrix

/-- All that is needed to write one file. -/
structure EncodeRequest where
  schema : Schema
  /-- The columns, in schema order. -/
  columns : List Column
  path : String
  pageVersion : PageVersion
  dictionary : Bool
  compression : Compression
  sizing : PageSizing
  writeStatistics : Bool

/-- The number of rows, taken from the first column. -/
def EncodeRequest.numRows (r : EncodeRequest) : Nat :=
  match r.columns with
  | [] => 0
  | c :: _ => c.values.length

/-- What an encoder works on. -/
structure World (σ : Type) where
  /-- What the encoder remembers. -/
  memory : σ
  disk : Disk

/-- Writes one encoded file per request. -/
structure Encoder where
  /-- What it can remember from one call to the next. -/
  State : Type
  /-- What it remembers before the first call. -/
  memory : State
  /-- Whether a file stands at the request's path after a call. -/
  writesFiles : Bool
  /-- Memory and disk after a call, and why the call failed if it did. -/
  encode : EncodeRequest → World State → World State × Except EncodeError Unit

/-- An encoder that remembers nothing. -/
def Encoder.stateless (writesFiles : Bool)
    (encode : EncodeRequest → Disk → Disk × Except EncodeError Unit) : Encoder where
  State := Unit
  memory := ()
  writesFiles := writesFiles
  encode r w := ({ w with disk := (encode r w.disk).1 }, (encode r w.disk).2)

/-- What an encoder does that remembers nothing is told by the disk alone. -/
theorem Encoder.stateless_eq_iff {writesFiles : Bool}
    {encode : EncodeRequest → Disk → Disk × Except EncodeError Unit} {r : EncodeRequest}
    {w w' : World Unit} {result : Except EncodeError Unit} :
    (Encoder.stateless writesFiles encode).encode r w = (w', result) ↔
      encode r w.disk = (w'.disk, result) := by
  constructor
  · intro h
    cases h
    rfl
  · intro h
    simp only [stateless, h]

/-- What is remembered of a request. -/
structure RecordedCall where
  path : String
  fields : List String
  rows : Nat
  pageVersion : PageVersion
  dictionary : Bool
  compression : Compression
  sizing : PageSizing
  writeStatistics : Bool
deriving DecidableEq

def RecordedCall.ofRequest (r : EncodeRequest) : RecordedCall where
  path := r.path
  fields := r.schema.names
  rows := r.numRows
  pageVersion := r.pageVersion
  dictionary := r.dictionary
  compression := r.compression
  sizing := r.sizing
  writeStatistics := r.writeStatistics

/-- The name of the file that a request is for. -/
def EncodeRequest.fileName (r : EncodeRequest) : String :=
  (Path.fileName? r.path).getD ""

/-- The calls that an encoder was given, and the name of the files that it
refuses, if there is one. -/
structure Recorder where
  calls : List RecordedCall
  failOn : Option String

namespace Recorder

/-- A recorder without calls that refuses nothing. -/
def new : Recorder := ⟨[], none⟩

/-- A recorder without calls that refuses files of one name. -/
def failingOn (fileName : String) : Recorder := ⟨[], some fileName⟩

def callCount (m : Recorder) : Nat :=
  m.calls.length

/-- Remembers a request, unless it is for a file that is refused. -/
def record (m : Recorder) (r : EncodeRequest) : Recorder × Except EncodeError Unit :=
  if m.failOn = some r.fileName then (m, .error (.unsupported (.rejected r.fileName)))
  else ({ m with calls := m.calls ++ [.ofRequest r] }, .ok ())

end Recorder

/-- The encoder that records its calls and writes nothing. -/
abbrev Encoder.recording (m : Recorder) : Encoder where
  State := Recorder
  memory := m
  writesFiles := false
  encode r w := ({ w with memory := (w.memory.record r).1 }, (w.memory.record r).2)

end FixtureMatrix
