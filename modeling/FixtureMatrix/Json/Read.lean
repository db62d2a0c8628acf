import FixtureMatrix.Json.Located

/-!
# Reading JSON

`Located.read` reads a whole text with its places, and `Located.toJson?` is the
value alone, if no part of it is broken.
-/

namespace FixtureMatrix.Json

/-- The value without its places, if no part of it is broken. -/
def Atom.toJson : Atom → Json
  | .null => .null
  | .bool b => .bool b
  | .int n => .int n
  | .float x => .float x
  | .str s => .str s

namespace Located

/-- A text as a tree, and the place of a token behind the value, if there is one. -/
structure Source where
  text : List Char
  root : Located
  surplus : Option Nat

/-- Reads a whole text. -/
def read (text : List Char) : Source :=
  let ts := tokens text
  let (root, rest) := readValue (byteSize text) (2 * ts.length + 2) ts
  ⟨text, root, rest.head?.map Token.start⟩

mutual

/-- The value without its places, if no part of it is broken. -/
def toJson? : Located → Option Json
  | .atom _ _ value => some value.toJson
  | .array _ items (.closed _) => (itemsToJson? items).map .arr
  | .object _ entries (.closed _) => (entriesToJson? entries).map .obj
  | _ => none

def itemsToJson? : List (Located × Nat) → Option (List Json)
  | [] => some []
  | (v, _) :: rest => do
    let v ← v.toJson?
    let rest ← itemsToJson? rest
    return v :: rest

def entriesToJson? : List ((String × Nat) × (Located × Nat)) → Option (List (String × Json))
  | [] => some []
  | ((key, _), (v, _)) :: rest => do
    let v ← v.toJson?
    let rest ← entriesToJson? rest
    return (key, v) :: rest

end

end Located

end FixtureMatrix.Json
