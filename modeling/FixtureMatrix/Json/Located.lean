import FixtureMatrix.Json.Token

/-!
# JSON values with their places

Reading never fails as a whole: where the text is not JSON, the tree ends in a
broken place that keeps the reason.  Whoever reads the tree in the order of
the text meets the first fault first, be it a broken place or a value of the
wrong kind.
-/

namespace FixtureMatrix.Json

/-- How the items of an array end. -/
inductive ArrayEnd where
  | closed (stop : Nat)
  /-- The text ends. -/
  | unclosed (offset : Nat)
  /-- The text ends behind a comma. -/
  | openComma (offset : Nat)
  /-- A bracket follows a comma. -/
  | trailingComma (offset : Nat)
  /-- Neither comma nor bracket follows. -/
  | stray (offset : Nat)

/-- How the entries of an object end. -/
inductive ObjectEnd where
  | closed (stop : Nat)
  | broken (fail : Fail)

/-- A JSON value and its place in the text.  The offset beside an item or an
entry is where reading stands after an attempt to close the container there. -/
inductive Located where
  | atom (start stop : Nat) (value : Atom)
  | array (start : Nat) (items : List (Located × Nat)) (tail : ArrayEnd)
  | object (start : Nat) (entries : List ((String × Nat) × (Located × Nat))) (tail : ObjectEnd)
  | broken (start : Nat) (fail : Fail)

namespace Located

/-- Where the value starts. -/
def start : Located → Nat
  | atom s _ _ | array s _ _ | object s _ _ | broken s _ => s

/-- Where the next token starts; the end of the text if there is none. -/
def nextStart (size : Nat) : List Token → Nat
  | [] => size
  | t :: _ => t.start

/-- Where reading stands after an attempt to close an array. -/
def afterArray (size : Nat) : List Token → Nat
  | [] => size
  | t :: rest =>
    match t.kind with
    | .closeArray => t.stop
    | .comma => nextStart size rest
    | _ => t.start

/-- Where reading stands after an attempt to close an object. -/
def afterObject (size : Nat) : List Token → Nat
  | [] => size
  | t :: _ =>
    match t.kind with
    | .closeObject => t.stop
    | _ => t.start

def eofInArray : String := "EOF while parsing a list"

def eofInObject : String := "EOF while parsing an object"

mutual

/-- Reads one value.  The number bounds the depth of the recursion. -/
def readValue (size : Nat) : Nat → List Token → Located × List Token
  | 0, _ => (.broken size ⟨eofInValue, size⟩, [])
  | _ + 1, [] => (.broken size ⟨eofInValue, size⟩, [])
  | fuel + 1, t :: rest =>
    match t.kind with
    | .atom (.ok value) => (.atom t.start t.stop value, rest)
    | .atom (.error fail) => (.broken t.start fail, [])
    | .string (.ok s) => (.atom t.start t.stop (.str s), rest)
    | .string (.error fail) => (.broken t.start fail, [])
    | .openArray =>
      let (items, tail, rest) := readItems size fuel true rest
      (.array t.start items tail, rest)
    | .openObject =>
      let (entries, tail, rest) := readEntries size fuel true rest
      (.object t.start entries tail, rest)
    | _ => (.broken t.start ⟨"expected value", t.start + 1⟩, [])

/-- Reads the items of an array up to its bracket. -/
def readItems (size : Nat) :
    Nat → Bool → List Token → List (Located × Nat) × ArrayEnd × List Token
  | 0, _, _ => ([], .unclosed size, [])
  | _ + 1, _, [] => ([], .unclosed size, [])
  | fuel + 1, first, t :: rest =>
    match t.kind, first with
    | .closeArray, _ => ([], .closed t.stop, rest)
    | _, true =>
      let (v, rest) := readValue size fuel (t :: rest)
      let (items, tail, after) := readItems size fuel false rest
      ((v, afterArray size rest) :: items, tail, after)
    | .comma, false =>
      match rest with
      | [] => ([], .openComma size, [])
      | next :: _ =>
        match next.kind with
        | .closeArray => ([], .trailingComma (next.start + 1), [])
        | _ =>
          let (v, rest) := readValue size fuel rest
          let (items, tail, after) := readItems size fuel false rest
          ((v, afterArray size rest) :: items, tail, after)
    | _, false => ([], .stray (t.start + 1), [])

/-- Reads the entries of an object up to its brace. -/
def readEntries (size : Nat) : Nat → Bool → List Token →
    List ((String × Nat) × (Located × Nat)) × ObjectEnd × List Token
  | 0, _, _ => ([], .broken ⟨eofInObject, size⟩, [])
  | _ + 1, _, [] => ([], .broken ⟨eofInObject, size⟩, [])
  | fuel + 1, first, t :: rest =>
    match t.kind, first with
    | .closeObject, _ => ([], .closed t.stop, rest)
    | .comma, false =>
      match rest with
      | [] => ([], .broken ⟨eofInValue, size⟩, [])
      | key :: rest =>
        match key.kind with
        | .closeObject => ([], .broken ⟨"trailing comma", key.start + 1⟩, [])
        | _ => readEntry size fuel key rest
    | _, true => readEntry size fuel t rest
    | _, false => ([], .broken ⟨"expected `,` or `\x7d`", t.start + 1⟩, [])

/-- Reads the entry that starts with a token, and those after it. -/
def readEntry (size : Nat) : Nat → Token → List Token →
    List ((String × Nat) × (Located × Nat)) × ObjectEnd × List Token
  | 0, _, _ => ([], .broken ⟨eofInObject, size⟩, [])
  | fuel + 1, key, rest =>
    match key.kind with
    | .string (.ok name) =>
      let place := (name, afterObject size rest)
      match rest with
      | [] => ([(place, (.broken size ⟨eofInObject, size⟩, size))], .broken ⟨eofInObject, size⟩, [])
      | colon :: rest =>
        match colon.kind with
        | .colon =>
          let (v, rest) := readValue size fuel rest
          let (entries, tail, after) := readEntries size fuel false rest
          ((place, (v, afterObject size rest)) :: entries, tail, after)
        | _ =>
          let fail : Fail := ⟨"expected `:`", colon.start + 1⟩
          ([(place, (.broken colon.start fail, colon.start))], .broken fail, [])
    | .string (.error fail) => ([], .broken fail, [])
    | _ => ([], .broken ⟨"key must be a string", key.start + 1⟩, [])

end

end Located

end FixtureMatrix.Json
