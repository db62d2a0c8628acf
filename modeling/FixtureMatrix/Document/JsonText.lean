import FixtureMatrix.Document.Dialect
import FixtureMatrix.Json.Print
import FixtureMatrix.Json.Read
import FixtureMatrix.Text.Quoted

/-!
# Records in JSON text

Faults carry the byte offset up to which the text was read; the final message
gives its line and column.
-/

namespace FixtureMatrix.Document.JsonText

open Json (Located Atom Fail)

/-- What a value is called in a message. -/
def describe : Atom → String
  | .null => "null"
  | .bool b => s!"boolean `{b}`"
  | .int n => integerText n
  | .float x => "floating point `" ++ String.ofList (Json.floatText x) ++ "`"
  | .str s => "string " ++ Text.quoted s

def broken (fail : Fail) : Fault Nat :=
  .placed fail.message fail.offset

/-- The fault of a value of the wrong kind: behind an atom, and in front of a
bracket. -/
def wrongKind (expected : String) : Located → Fault Nat
  | .atom _ stop value => .placed (invalidType (describe value) expected) stop
  | .array start _ _ => .placed (invalidType "sequence" expected) start
  | .object start _ _ => .placed (invalidType "map" expected) start
  | .broken _ fail => broken fail

def bool : Located → Decoded Nat Bool
  | .atom _ _ (.bool b) => .ok b
  | node => .error (wrongKind "a boolean" node)

def unsigned (limit : Nat) (range : String) : Located → Decoded Nat Nat
  | .atom _ stop (.int n) =>
    if 0 ≤ n ∧ n < limit then .ok n.toNat
    else .error (.placed (invalidValue (integerText n) range) stop)
  | node => .error (wrongKind range node)

def string (expected : String) : Located → Decoded Nat String
  | .atom _ _ (.str s) => .ok s
  | node => .error (wrongKind expected node)

mutual

/-- The first broken place in a value. -/
def skip : Located → Decoded Nat Unit
  | .atom _ _ _ => .ok ()
  | .array _ items tail => skipItems items tail
  | .object _ entries tail => skipEntries entries tail
  | .broken _ fail => .error (broken fail)

def skipItems : List (Located × Nat) → Json.ArrayEnd → Decoded Nat Unit
  | [], tail => arrayEnd tail
  | (v, _) :: rest, tail =>
    match skip v with
    | .ok () => skipItems rest tail
    | .error fault => .error fault
where
  /-- The fault of an array that does not end. -/
  arrayEnd : Json.ArrayEnd → Decoded Nat Unit
    | .closed _ => .ok ()
    | .unclosed offset => .error (.placed Located.eofInArray offset)
    | .openComma offset => .error (.placed Json.eofInValue offset)
    | .trailingComma offset => .error (.placed "trailing comma" offset)
    | .stray offset => .error (.placed "expected `,` or `]`" offset)

def skipEntries : List ((String × Nat) × (Located × Nat)) → Json.ObjectEnd → Decoded Nat Unit
  | [], .closed _ => .ok ()
  | [], .broken fail => .error (broken fail)
  | (_, (v, _)) :: rest, tail =>
    match skip v with
    | .ok () => skipEntries rest tail
    | .error fault => .error fault

end

/-- A name, or an object with a name for its only key and null for its value. -/
def choice (options : List (String × α)) : Located → Decoded Nat α
  | .atom _ stop (.str s) => pick s stop
  | .object _ [] (.closed stop) => .error (.placed "expected value" stop)
  | .object _ [] (.broken fail) => .error (broken fail)
  | .object _ (((key, place), (v, after)) :: more) tail =>
    match chosen? options key with
    | none => pick key place
    | some a =>
      match v with
      | .atom _ _ .null =>
        match more, tail with
        | [], .closed _ => .ok a
        | [], .broken fail =>
          if fail.message = Located.eofInObject then .error (broken fail)
          else .error (.placed "expected value" after)
        | _ :: _, _ => .error (.placed "expected value" after)
      | v => .error (wrongKind "unit" v)
  | .array start _ _ => .error (.placed "expected value" (start + 1))
  | .atom start _ _ => .error (.placed "expected value" (start + 1))
  | .broken _ fail => .error (broken fail)
where
  /-- The option of a name that ends at an offset. -/
  pick (name : String) (stop : Nat) : Decoded Nat α :=
    match chosen? options name with
    | some a => .ok a
    | none => .error (.placed (unknownVariant name (options.map Prod.fst)) stop)

/-- Decodes items in order; a bare fault is placed where reading stands after
an attempt to close the array. -/
def readItems (item : Located → Decoded Nat α) :
    List (Located × Nat) → Json.ArrayEnd → Decoded Nat (List α)
  | [], tail => do
    skipItems.arrayEnd tail
    return []
  | (v, after) :: rest, tail =>
    match item v with
    | .error fault => .error (fault.locate after)
    | .ok a => do
      let as ← readItems item rest tail
      return a :: as

def list (item : Located → Decoded Nat α) : Located → Decoded Nat (List α)
  | .array _ items tail => readItems item items tail
  | node => .error (wrongKind "a sequence" node)

/-- Decodes the fields of a record written as an array, in order. -/
def readFields (shape : RecordShape Located Nat σ) (tail : Json.ArrayEnd) :
    List (String × (Located → σ → Decoded Nat σ)) → List (Located × Nat) → Nat → σ → Decoded Nat σ
  | [], [], _, s =>
    match tail with
    | .closed _ => .ok s
    | .unclosed offset => .error (.placed Located.eofInArray offset)
    | .openComma offset => .error (.placed "trailing characters" offset)
    | .trailingComma offset => .error (.placed "trailing comma" offset)
    | .stray offset => .error (.placed "trailing characters" offset)
  | [], (v, _) :: _, _, _ => .error (.placed "trailing characters" (v.start + 1))
  | _ :: _, [], count, s =>
    match tail with
    | .closed stop =>
      if shape.shortListAllowed then .ok s
      else .error (.placed (shortRecord count shape.expected shape.fields.length) stop)
    | tail => (skipItems.arrayEnd tail).map fun () => s
  | (_, decode) :: fields, (v, after) :: rest, count, s =>
    match decode v s with
    | .error fault => .error (fault.locate after)
    | .ok s => readFields shape tail fields rest (count + 1) s

/-- An entry of an object. -/
def entry (e : (String × Nat) × (Located × Nat)) : Entry Located Nat where
  key := e.1.1
  node := e.2.1
  repeated := .placed (duplicateField e.1.1) e.1.2
  settle fault := fault.locate e.2.2
  skip := skip e.2.1

/-- A record is an object, or an array of its fields in order. -/
def record (shape : RecordShape Located Nat σ) (init : σ) : Located → Decoded Nat σ
  | .array _ items tail => readFields shape tail shape.fields items 0 init
  | .object _ entries tail => do
    let s ← readEntries shape (entries.map entry) [] init
    match tail with
    | .broken fail => .error (broken fail)
    | .closed stop =>
      match shape.missing s with
      | none => return s
      | some name => .error (.placed (missingField name) stop)
  | node => .error (wrongKind shape.expected node)

/-- How JSON text shows records. -/
def dialect : Dialect Located Nat where
  bool := bool
  unsigned := unsigned
  string := string
  choice := choice
  list := list
  record := record

/-- The line of a byte offset, from 1, and the bytes before it on that line. -/
def lineColumn : List Char → Nat → Nat × Nat
  | [], offset => (1, offset)
  | c :: cs, offset =>
    if offset < c.utf8Size then (1, offset)
    else
      let (line, column) := lineColumn cs (offset - c.utf8Size)
      if c = '\n' then (line + 1, column)
      else if line = 1 then (1, column + c.utf8Size)
      else (line, column)

/-- A fault as it is shown to people. -/
def message (text : List Char) : Fault Nat → String
  | .bare message => message
  | .placed message offset =>
    let (line, column) := lineColumn text offset
    s!"{message} at line {line} column {column}"

/-- Decodes a whole text. -/
def decode (decoder : Located → Decoded Nat α) (text : List Char) : Except String α :=
  let source := Located.read text
  match decoder source.root with
  | .error fault => .error (message text fault)
  | .ok a =>
    match source.surplus with
    | none => .ok a
    | some start => .error (message text (.placed "trailing characters" (start + 1)))

end FixtureMatrix.Document.JsonText
