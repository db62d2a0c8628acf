import FixtureMatrix.Command.Perform

/-!
# The program

One command is performed on an empty disk that lasts as long as the program
runs.
-/

open FixtureMatrix

/-- Prints a transcript and gives the exit code. -/
def finish (t : Transcript) (failureCode : UInt32) : IO UInt32 := do
  IO.print (Transcript.text t.output)
  IO.eprint (Transcript.text t.notes)
  match t.failure with
  | none => return 0
  | some (.returned message) =>
    IO.eprintln message
    return failureCode
  | some (.panicked p) =>
    IO.eprintln p.message
    return 101

/-- Performs the command that the arguments select. -/
def main (args : List String) : IO UInt32 := do
  match Command.ofArguments args with
  | .error e => finish e.transcript 2
  | .ok command =>
    let start ← IO.monoNanosNow
    let (_, report) := command.perform .empty
    let stop ← IO.monoNanosNow
    finish (report (stop - start)) 1
