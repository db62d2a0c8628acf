import FixtureMatrix.Command.Arguments
import FixtureMatrix.Matrix.Config

/-!
# Commands

The commands of the program, and how arguments select one.
-/

namespace FixtureMatrix

/-- Settings of `generate`. -/
structure GenerateOptions where
  /-- The output root, in place of the configured one. -/
  output : Option String
  /-- The path of a configuration file. -/
  config : Option String
  skipMatrix : Bool
  skipBench : Bool
  progress : Bool
  verbose : Bool
  dryRun : Bool
  json : Bool

/-- Shells that commands can be completed in. -/
inductive Shell where
  | bash
  | elvish
  | fish
  | powershell
  | zsh
deriving DecidableEq

def Shell.all : List Shell := [.bash, .elvish, .fish, .powershell, .zsh]

def Shell.name : Shell → String
  | .bash => "bash"
  | .elvish => "elvish"
  | .fish => "fish"
  | .powershell => "powershell"
  | .zsh => "zsh"

/-- What the program is asked to do. -/
inductive Command where
  | generate (options : GenerateOptions)
  | list (json : Bool)
  | show (case : String) (json : Bool)
  | verify (output : String) (json : Bool)
  | schema (name : Option String)
  | completions (shell : Shell)

namespace Command

/-! ## Parameters -/

def flag (name : String) (letter : Option Char) : Parameter :=
  ⟨name, letter, .flag⟩

/-- A path, which is not empty. -/
def path (name : String) (letter : Char) : Parameter :=
  ⟨name, some letter, .value fun v => v ≠ ""⟩

def help : Parameter := ⟨"help", some 'h', .help⟩

def json : Parameter := flag "json" none

def case : Parameter := ⟨"case", none, .value fun _ => true⟩

def shell : Parameter :=
  ⟨"shell", none, .value fun v => (Shell.all.map Shell.name).contains v⟩

def generateGrammar : Grammar where
  named := [path "output" 'o', path "config" 'c', flag "skip-matrix" none, flag "skip-bench" none,
    flag "progress" (some 'p'), flag "verbose" (some 'v'), flag "dry-run" none, json, help]
  positional := none

def listGrammar : Grammar := ⟨[json, help], none⟩

def showGrammar : Grammar := ⟨[json, help], some case⟩

def verifyGrammar : Grammar := ⟨[path "output" 'o', json, help], none⟩

def schemaGrammar : Grammar := ⟨[⟨"name", some 'n', .value fun _ => true⟩, help], none⟩

def completionsGrammar : Grammar := ⟨[help], some shell⟩

/-! ## Commands from what was given -/

def ofGenerate (g : Given) : Command :=
  .generate {
    output := g.value? "output"
    config := g.value? "config"
    skipMatrix := g.has "skip-matrix"
    skipBench := g.has "skip-bench"
    progress := g.has "progress"
    verbose := g.has "verbose"
    dryRun := g.has "dry-run"
    json := g.has "json" }

def ofList (g : Given) : Command :=
  .list (g.has "json")

def ofShow (g : Given) : Command :=
  .show ((g.value? "case").getD "") (g.has "json")

def ofVerify (g : Given) : Command :=
  .verify ((g.value? "output").getD ({} : MatrixConfig).output) (g.has "json")

def ofSchema (g : Given) : Command :=
  .schema (g.value? "name")

def ofCompletions (g : Given) : Command :=
  let name := (g.value? "shell").getD ""
  .completions ((Shell.all.find? fun s => s.name = name).getD .bash)

/-- The commands by name: their grammar, and what was given as a command. -/
def table : List (String × Grammar × (Given → Command)) := [
  ("generate", generateGrammar, ofGenerate),
  ("list", listGrammar, ofList),
  ("show", showGrammar, ofShow),
  ("verify", verifyGrammar, ofVerify),
  ("schema", schemaGrammar, ofSchema),
  ("completions", completionsGrammar, ofCompletions)]

def names : List String := table.map Prod.fst

/-- The name under which help is asked for. -/
def helpName : String := "help"

/-- Help on a command, or on the program. -/
def readHelp : List String → UsageError
  | [] => .helpRequested
  | [name] => if (helpName :: names).contains name then .helpRequested else .unknownCommand
  | _ => .unknownCommand

/-- Reads arguments in front of which two hyphens stand alone. -/
def readEscaped : List String → UsageError
  | [] => .nothingGiven
  | name :: _ => if (helpName :: names).contains name then .unknownArgument else .unknownCommand

/-- The parameters of the program itself. -/
def programGrammar : Grammar := ⟨[help, ⟨"version", some 'V', .version⟩], none⟩

/-- The command that arguments select. -/
def ofArguments : List String → Except UsageError Command
  | [] => .error .nothingGiven
  | first :: rest =>
    match table.find? fun c => c.1 = first with
    | some (_, grammar, make) => (grammar.read rest).map make
    | none =>
      if first = helpName then .error (readHelp rest)
      else if first = "--" then .error (readEscaped rest)
      else
        match programGrammar.read [first] with
        | .error .unknownArgument =>
          if first.toList.head? = some '-' ∧ first ≠ "-" then .error .unknownArgument
          else .error .unknownCommand
        | .error e => .error e
        | .ok _ => .error .nothingGiven

end Command

end FixtureMatrix
