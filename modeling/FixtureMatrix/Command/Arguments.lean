/-!
# Command line arguments

A command takes named parameters, with a value or without one, and at most one
argument without a name.  A parameter whose value is still to come is settled
as soon as another parameter or the end is met, so of two faults the one that
is settled first is told.
-/

namespace FixtureMatrix

/-- Why arguments are not a command to perform. -/
inductive UsageError where
  | nothingGiven
  | unknownCommand
  | unknownArgument
  | surplusValue
  | givenTwice
  | invalidValue
  | missingArgument
  | helpRequested
  | versionRequested
deriving DecidableEq

/-- What giving a parameter does. -/
inductive ParameterKind where
  | flag
  /-- It has a value that passes a test. -/
  | value (accepts : String → Bool)
  | help
  | version

structure Parameter where
  /-- The name behind two hyphens. -/
  name : String
  /-- The letter behind one hyphen. -/
  letter : Option Char
  kind : ParameterKind

/-- The parameters of a command, and its argument without a name. -/
structure Grammar where
  named : List Parameter
  positional : Option Parameter

/-- The values given so far, and the parameter that is not settled yet. -/
structure Given where
  values : List (String × String)
  pending : Option (Parameter × Option String)
  /-- Whether the pending parameter waits for the next argument. -/
  awaiting : Bool
  positionalUsed : Bool

namespace Given

def empty : Given := ⟨[], none, false, false⟩

def has (g : Given) (name : String) : Bool :=
  g.values.any fun v => v.1 = name

def value? (g : Given) (name : String) : Option String :=
  (g.values.find? fun v => v.1 = name).map Prod.snd

/-- Notes the value of a parameter. -/
def record (g : Given) (p : Parameter) (value : String) : Except UsageError Given :=
  if g.has p.name then .error .givenTwice
  else
    match p.kind with
    | .value accepts =>
      if accepts value then .ok { g with values := (p.name, value) :: g.values }
      else .error .invalidValue
    | .flag => .ok { g with values := (p.name, value) :: g.values }
    | .help => .error .helpRequested
    | .version => .error .versionRequested

/-- Settles the pending parameter. -/
def settle (g : Given) : Except UsageError Given :=
  match g.pending with
  | none => .ok { g with awaiting := false }
  | some (_, none) => .error .invalidValue
  | some (p, some value) => { g with pending := none, awaiting := false }.record p value

/-- A parameter without a value. -/
def giveFlag (g : Given) (p : Parameter) : Except UsageError Given := do
  let g ← g.settle
  g.record p "true"

/-- A parameter with its value. -/
def giveValue (g : Given) (p : Parameter) (value : String) : Except UsageError Given := do
  let g ← g.settle
  g.record p value

/-- A parameter whose value is the next argument. -/
def await (g : Given) (p : Parameter) : Except UsageError Given := do
  let g ← g.settle
  return { g with pending := some (p, none), awaiting := true }

end Given

namespace Parameter

def takesValue (p : Parameter) : Bool :=
  match p.kind with
  | .value _ => true
  | _ => false

end Parameter

namespace Grammar

def named? (g : Grammar) (name : String) : Option Parameter :=
  g.named.find? fun p => p.name = name

def lettered? (g : Grammar) (letter : Char) : Option Parameter :=
  g.named.find? fun p => p.letter = some letter

/-- The text up to the first equals sign, and the text behind it. -/
def splitValue (cs : List Char) : String × Option String :=
  let name := cs.takeWhile (· ≠ '=')
  match cs.dropWhile (· ≠ '=') with
  | _ :: value => (String.ofList name, some (String.ofList value))
  | [] => (String.ofList name, none)

/-- Reads what stands behind two hyphens. -/
def readName (g : Grammar) (cs : List Char) (s : Given) : Except UsageError Given :=
  let (name, value) := splitValue cs
  match g.named? name with
  | none => .error .unknownArgument
  | some p =>
    match p.takesValue, value with
    | true, some value => s.giveValue p value
    | true, none => s.await p
    | false, some _ => .error .surplusValue
    | false, none => s.giveFlag p

/-- Reads letters behind one hyphen.  What follows the letter of a parameter
with a value is its value, without a leading equals sign. -/
def readLetters (g : Grammar) : List Char → Given → Except UsageError Given
  | [], s => .ok s
  | c :: rest, s =>
    match g.lettered? c with
    | none => .error .unknownArgument
    | some p =>
      if p.takesValue then
        match rest with
        | [] => s.await p
        | '=' :: value => s.giveValue p (String.ofList value)
        | value => s.giveValue p (String.ofList value)
      else
        match s.giveFlag p with
        | .error e => .error e
        | .ok s => readLetters g rest s

/-- Reads an argument without a name. -/
def readPositional (g : Grammar) (arg : String) (s : Given) : Except UsageError Given :=
  match g.positional, s.positionalUsed with
  | some p, false => do
    let s ← s.settle
    return { s with pending := some (p, some arg), positionalUsed := true }
  | _, _ => .error .unknownArgument

/-- Reads arguments in order.  Behind two hyphens alone, none has a name. -/
def readAll (g : Grammar) : Bool → List String → Given → Except UsageError Given
  | _, [], s => s.settle
  | true, arg :: rest, s => do
    let s ← g.readPositional arg s
    readAll g true rest s
  | false, arg :: rest, s =>
    match arg.toList with
    | ['-', '-'] => readAll g true rest s
    | '-' :: '-' :: name => do
      let s ← g.readName name s
      readAll g false rest s
    | '-' :: c :: letters => do
      let s ← g.readLetters (c :: letters) s
      readAll g false rest s
    | _ => do
      let s ← match s.awaiting, s.pending with
        | true, some (p, _) => Except.ok { s with pending := some (p, some arg), awaiting := false }
        | _, _ => g.readPositional arg s
      readAll g false rest s

/-- Reads all arguments of a command; one without a name must not be missing. -/
def read (g : Grammar) (args : List String) : Except UsageError Given := do
  let s ← g.readAll false args .empty
  match g.positional with
  | some p => if s.has p.name then return s else .error .missingArgument
  | none => return s

end Grammar

end FixtureMatrix
