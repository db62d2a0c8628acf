import FixtureMatrix.Command.Generate
import FixtureMatrix.Command.Inspect
import FixtureMatrix.Command.Shapes

/-!
# Performing commands

A command changes the disk and leaves a transcript.
-/

namespace FixtureMatrix

/-- The name of the program. -/
def programName : String := "parquet-fixtures"

/-- A script that makes a shell complete the names of commands. -/
def Shell.completionScript (shell : Shell) : List String :=
  let names := Command.names ++ [Command.helpName]
  let words := " ".intercalate names
  match shell with
  | .bash => [s!"complete -W '{words}' {programName}"]
  | .zsh => [s!"#compdef {programName}", s!"_arguments '1: :({words})'"]
  | .fish => [s!"complete -c {programName} -n __fish_use_subcommand -f -a '{words}'"]
  | .elvish =>
    [s!"set edit:completion:arg-completer[{programName}] = \x7b|@words| put {words} \x7d"]
  | .powershell =>
    [s!"Register-ArgumentCompleter -Native -CommandName '{programName}' -ScriptBlock \x7b",
      s!"  '{words}'.Split(' ')", "\x7d"]

namespace Command

/-- Performs a command; the transcript depends on how long that took, in
nanoseconds. -/
def perform (c : Command) (d : Disk) : Disk × (Nat → Transcript) :=
  match c with
  | .generate options => options.perform d
  | .list json => (d, fun _ => listCases json)
  | .show id json => (d, fun _ => showCase id json)
  | .verify output json => (d, fun _ => verifyOutput output json d)
  | .schema name => (d, fun _ => OutputSchema.print name)
  | .completions shell => (d, fun _ => { output := shell.completionScript })

end Command

/-! ## Usage -/

/-- The program's version. -/
def programVersion : String := "0.1.0"

/-- How the program is used. -/
def usageLines : List String :=
  [s!"Usage: {programName} <COMMAND>", "",
    "Commands:",
    "  generate     Generate the full fixture matrix and the benchmark files",
    "  list         List the canonical cases and the jobs a default run plans",
    "  show         Print the schema and rows of one canonical case",
    "  verify       Re-hash generated fixtures against manifest.json",
    "  schema       Print JSON Schemas for manifest.json and the --json outputs",
    "  completions  Generate shell completions"]

/-- What to tell someone whose arguments are not a command to perform. -/
def UsageError.transcript : UsageError → Transcript
  | .helpRequested => { output := usageLines }
  | .versionRequested => { output := [s!"{programName} {programVersion}"] }
  | .nothingGiven => .failed (Transcript.text usageLines)
  | .unknownCommand => .failed "error: unrecognized subcommand"
  | .unknownArgument => .failed "error: unexpected argument"
  | .surplusValue => .failed "error: unexpected value for an argument"
  | .givenTwice => .failed "error: an argument cannot be used multiple times"
  | .invalidValue => .failed "error: an argument has no value or an invalid one"
  | .missingArgument => .failed "error: a required argument was not provided"

end FixtureMatrix
