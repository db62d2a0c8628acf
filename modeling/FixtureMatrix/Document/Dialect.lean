import FixtureMatrix.Json.Basic

/-!
# Documents of records

A document is read into records by decoders that are written once for every
notation.  A `Dialect` says how one notation shows the few things decoders ask
for: booleans, numbers, strings, choices, lists and records.  Faults are met in
the order of the document; a fault without a place gets the place of the
list or record around it.
-/

namespace FixtureMatrix

/-- Why a document cannot be decoded, before or after its place is known. -/
inductive Fault (P : Type) where
  | bare (message : String)
  | placed (message : String) (place : P)

/-- A bare fault at a place. -/
def Fault.locate (place : P) : Fault P → Fault P
  | .bare message => .placed message place
  | .placed message p => .placed message p

/-- The outcome of decoding. -/
abbrev Decoded (P α : Type) := Except (Fault P) α

/-- The fields of a record: how each is decoded into a state in which fields
may be missing. -/
structure RecordShape (N P σ : Type) where
  /-- What a document should hold here. -/
  expected : String
  fields : List (String × (N → σ → Decoded P σ))
  /-- The first field, in declared order, that is missing. -/
  missing : σ → Option String
  /-- Whether fields at the end of a record written as a list may be left out. -/
  shortListAllowed : Bool

/-- How one notation shows what decoders ask for. -/
structure Dialect (N P : Type) where
  bool : N → Decoded P Bool
  /-- A whole number from 0 to below a limit, under the name of its range. -/
  unsigned : (limit : Nat) → (range : String) → N → Decoded P Nat
  string : (expected : String) → N → Decoded P String
  /-- One of several names. -/
  choice : {α : Type} → List (String × α) → N → Decoded P α
  list : {α : Type} → (N → Decoded P α) → N → Decoded P (List α)
  record : {σ : Type} → RecordShape N P σ → σ → N → Decoded P σ

namespace Document

def invalidType (found expected : String) : String :=
  s!"invalid type: {found}, expected {expected}"

def invalidValue (found expected : String) : String :=
  s!"invalid value: {found}, expected {expected}"

def missingField (name : String) : String :=
  s!"missing field `{name}`"

def duplicateField (name : String) : String :=
  s!"duplicate field `{name}`"

def integerText (n : Int) : String :=
  s!"integer `{n}`"

/-- A list of names as an alternative. -/
def alternatives (names : List String) : String :=
  match names.map fun n => s!"`{n}`" with
  | [a] => a
  | [a, b] => a ++ " or " ++ b
  | all => "one of " ++ ", ".intercalate all

def unknownVariant (found : String) (names : List String) : String :=
  s!"unknown variant `{found}`, expected {alternatives names}"

/-- The message for a list that holds too few fields of a record. -/
def shortRecord (found : Nat) (expected : String) (fields : Nat) : String :=
  s!"invalid length {found}, expected {expected} with {fields} " ++
    (if fields = 1 then "element" else "elements")

/-- The choice of a name. -/
def chosen? (options : List (String × α)) (name : String) : Option α :=
  (options.find? fun o => o.1 = name).map Prod.snd

/-- An entry of a record: its key, and what reading it does. -/
structure Entry (N P : Type) where
  key : String
  node : N
  /-- The fault of a repeated key. -/
  repeated : Fault P
  /-- Gives a place to a bare fault of the value. -/
  settle : Fault P → Fault P
  /-- Reads past the value of an unknown key. -/
  skip : Decoded P Unit

/-- Decodes entries in order.  Unknown keys are read past, and no known key may
be repeated. -/
def readEntries (shape : RecordShape N P σ) :
    List (Entry N P) → List String → σ → Decoded P σ
  | [], _, s => .ok s
  | e :: rest, seen, s =>
    match chosen? shape.fields e.key with
    | none =>
      match e.skip with
      | .ok () => readEntries shape rest seen s
      | .error fault => .error fault
    | some decode =>
      if seen.contains e.key then .error e.repeated
      else
        match decode e.node s with
        | .ok s => readEntries shape rest (e.key :: seen) s
        | .error fault => .error (e.settle fault)

end Document

end FixtureMatrix
