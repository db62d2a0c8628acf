import FixtureMatrix.Document.Dialect
import FixtureMatrix.Json.Print
import FixtureMatrix.Text.Quoted

/-!
# Records in JSON values

A value has no places, and an object its keys in order with the last entry of
a repeated key.
-/

namespace FixtureMatrix.Document.JsonValue

/-- A fault of a value. -/
def fail (message : String) : Decoded Unit α :=
  .error (.bare message)

/-- What a value is called in a message. -/
def describe : Json → String
  | .null => "null"
  | .bool b => s!"boolean `{b}`"
  | .int n => integerText n
  | .float x => "floating point `" ++ String.ofList (Json.floatText x) ++ "`"
  | .str s => "string " ++ Text.quoted s
  | .arr _ => "sequence"
  | .obj _ => "map"

def wrongKind (expected : String) (v : Json) : Decoded Unit α :=
  fail (invalidType (describe v) expected)

def bool : Json → Decoded Unit Bool
  | .bool b => .ok b
  | v => wrongKind "a boolean" v

def unsigned (limit : Nat) (range : String) : Json → Decoded Unit Nat
  | .int n =>
    if 0 ≤ n ∧ n < limit then .ok n.toNat else fail (invalidValue (integerText n) range)
  | v => wrongKind range v

def string (expected : String) : Json → Decoded Unit String
  | .str s => .ok s
  | v => wrongKind expected v

/-- The entries in key order, each key once with its last value. -/
def sortedEntries (entries : List (String × Json)) : List (String × Json) :=
  entries.foldl insert []
where
  insert (sorted : List (String × Json)) (e : String × Json) : List (String × Json) :=
    match sorted with
    | [] => [e]
    | x :: rest =>
      if e.1 < x.1 then e :: x :: rest
      else if e.1 = x.1 then e :: rest
      else x :: insert rest e

/-- A name, or an object with a name for its only key and null for its value. -/
def choice (options : List (String × α)) : Json → Decoded Unit α
  | .str s => pick s
  | .obj entries =>
    match sortedEntries entries with
    | [(key, v)] => do
      let a ← pick key
      match v with
      | .null => return a
      | v => wrongKind "unit" v
    | _ => fail (invalidValue "map" "map with a single key")
  | v => wrongKind "string or map" v
where
  pick (name : String) : Decoded Unit α :=
    match chosen? options name with
    | some a => .ok a
    | none => fail (unknownVariant name (options.map Prod.fst))

def list (item : Json → Decoded Unit α) : Json → Decoded Unit (List α)
  | .arr items => items.mapM item
  | v => wrongKind "a sequence" v

/-- Decodes the fields of a record written as an array of `total` items. -/
def readFields (shape : RecordShape Json Unit σ) (total : Nat) :
    List (String × (Json → σ → Decoded Unit σ)) → List Json → σ → Decoded Unit σ
  | [], [], s => .ok s
  | [], _ :: _, _ => fail s!"invalid length {total}, expected fewer elements in array"
  | _ :: _, [], s =>
    if shape.shortListAllowed then .ok s
    else fail (shortRecord total shape.expected shape.fields.length)
  | (_, decode) :: fields, v :: rest, s => do
    let s ← decode v s
    readFields shape total fields rest s

/-- An entry of an object. -/
def entry (e : String × Json) : Entry Json Unit where
  key := e.1
  node := e.2
  repeated := .bare (duplicateField e.1)
  settle := id
  skip := .ok ()

/-- A record is an object, or an array of its fields in order. -/
def record (shape : RecordShape Json Unit σ) (init : σ) : Json → Decoded Unit σ
  | .arr items => readFields shape items.length shape.fields items init
  | .obj entries => do
    let s ← readEntries shape ((sortedEntries entries).map entry) [] init
    match shape.missing s with
    | none => return s
    | some name => fail (missingField name)
  | v => wrongKind shape.expected v

/-- How JSON values show records. -/
def dialect : Dialect Json Unit where
  bool := bool
  unsigned := unsigned
  string := string
  choice := choice
  list := list
  record := record

/-- Decodes a value. -/
def decode (decoder : Json → Decoded Unit α) (v : Json) : Except String α :=
  match decoder v with
  | .ok a => .ok a
  | .error (.bare message) | .error (.placed message _) => .error message

end FixtureMatrix.Document.JsonValue
