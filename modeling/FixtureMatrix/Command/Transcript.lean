import FixtureMatrix.Json.Print
import FixtureMatrix.Panic

/-!
# Transcripts

What a command prints, what it notes on the side, and how it fails.
-/

namespace FixtureMatrix

/-- The lines that a command prints, the lines of its notes, and why it fails or
panics if it does. -/
structure Transcript where
  output : List String := []
  notes : List String := []
  failure : Option (Halt String) := none

namespace Transcript

/-- Lines as one text. -/
def text (lines : List String) : String :=
  String.join (lines.map fun l => l ++ "\n")

/-- A failure without output. -/
def failed (message : String) : Transcript where
  failure := some (.returned message)

/-- A JSON document as the only output. -/
def document (j : Json) : Transcript where
  output := [j.prettyText]

def exitCode (t : Transcript) : Nat :=
  match t.failure with
  | none => 0
  | some (.returned _) => 1
  | some (.panicked _) => 101

end Transcript

/-- Fills a text with blanks on the right. -/
def padRight (width : Nat) (s : String) : String :=
  s ++ String.ofList (List.replicate (width - s.length) ' ')

/-- Fills a text with blanks on the left. -/
def padLeft (width : Nat) (s : String) : String :=
  String.ofList (List.replicate (width - s.length) ' ') ++ s

/-- A quotient with some decimal places; a half goes to the even neighbour. -/
def fixedPoint (places num den : Nat) : String :=
  let scaled := num * Nat.pow 10 places
  let rest := scaled % den
  let down := scaled / den
  let up := den < 2 * rest || (den = 2 * rest && down % 2 = 1)
  let digits := Digits.zeroPad (places + 1) (Digits.ofNat (if up then down + 1 else down))
  let whole := digits.length - places
  String.ofList (digits.take whole ++ '.' :: digits.drop whole)

/-- A duration in nanoseconds with three places in a unit in which it is at
least one. -/
def durationText (nanoseconds : Nat) : String :=
  if 1000000000 ≤ nanoseconds then fixedPoint 3 nanoseconds 1000000000 ++ "s"
  else if 1000000 ≤ nanoseconds then fixedPoint 3 nanoseconds 1000000 ++ "ms"
  else if 1000 ≤ nanoseconds then fixedPoint 3 nanoseconds 1000 ++ "µs"
  else fixedPoint 3 nanoseconds 1 ++ "ns"

end FixtureMatrix
