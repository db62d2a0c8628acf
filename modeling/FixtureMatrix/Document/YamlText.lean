import FixtureMatrix.Document.Dialect
import FixtureMatrix.Text.Quoted
import FixtureMatrix.Yaml.Reader
import FixtureMatrix.Yaml.Plain

/-!
# Records in YAML text

A fault has the line and column of the node it is about and the path of keys
and indexes to it.  What is wrong with the text itself already says where, so
its place is left out.
-/

namespace FixtureMatrix.Document.YamlText

open Yaml (Mark ScalarStyle PlainValue)

/-- Where a fault is: the node's start, and the path to it. -/
abbrev Place := Option (Mark × String)

/-- A node with its path, and what aliases stand for. -/
structure Spot where
  node : Yaml.Node
  path : String
  target : Nat → Yaml.Node

/-- The path of the root. -/
def rootPath : String := "."

/-- The path of an entry of a record. -/
def entryPath (parent key : String) : String :=
  if parent = rootPath then key else s!"{parent}.{key}"

def itemPath (parent : String) (index : Nat) : String :=
  s!"{parent}[{index}]"

/-- A fault of the text itself. -/
def broken (fault : String) : Fault Place :=
  .placed fault none

/-! ## Naming what was found -/

/-- The tags of the four kinds of plain values. -/
inductive CoreTag where
  | bool
  | int
  | float
  | null
deriving DecidableEq

def CoreTag.text : CoreTag → String
  | .bool => "tag:yaml.org,2002:bool"
  | .int => "tag:yaml.org,2002:int"
  | .float => "tag:yaml.org,2002:float"
  | .null => "tag:yaml.org,2002:null"

/-- The name of a tag that belongs to the document alone. -/
def localName? (tag : Option String) : Option String :=
  match tag.map String.toList with
  | some ('!' :: name) => some (String.ofList name)
  | _ => none

def floatName (x : Binary64) : String :=
  "floating point `" ++ String.ofList (PlainValue.numberStyle.text x) ++ "`"

/-- What a text that is read as a plain value is called. -/
def plainName (text : String) : String :=
  match PlainValue.ofText text.toList with
  | .null => "unit value"
  | .bool b => s!"boolean `{b}`"
  | .int n => integerText n
  | .wide n => s!"integer `{n}` as " ++ (if n < 0 then "i128" else "u128")
  | .float x => floatName x
  | .text => "string " ++ Text.quoted text

/-- The message for a scalar of the wrong kind.  A text that does not fit its
own tag is a fault of its own. -/
def scalarMismatch (tag : Option String) (style : ScalarStyle) (text expected : String) : String :=
  let found (name : String) : String := invalidType name expected
  let unfit (kind : String) : String := invalidValue ("string " ++ Text.quoted text) kind
  let cs := text.toList
  if tag = some CoreTag.bool.text then
    match PlainValue.bool? cs with
    | some b => found s!"boolean `{b}`"
    | none => unfit "a boolean"
  else if tag = some CoreTag.int.text then
    if (PlainValue.integer? cs).isSome then found (plainName text) else unfit "an integer"
  else if tag = some CoreTag.float.text then
    match PlainValue.float? cs with
    | some x => found (floatName x)
    | none => unfit "a float"
  else if tag = some CoreTag.null.text then
    if PlainValue.isNullWord cs then found "unit value" else unfit "null"
  else if style = .plain && (tag.isNone || (localName? tag).isSome) then found (plainName text)
  else found ("string " ++ Text.quoted text)

/-- The fault of a node of the wrong kind. -/
def wrongKind (expected : String) (spot : Spot) : Fault Place :=
  match spot.node with
  | .scalar mark _ tag style text =>
    .placed (scalarMismatch tag style text expected) (some (mark, spot.path))
  | .sequence mark _ _ _ _ => .placed (invalidType "sequence" expected) (some (mark, spot.path))
  | .mapping mark _ _ _ _ => .placed (invalidType "map" expected) (some (mark, spot.path))
  | .alias mark _ => .placed (invalidType "alias" expected) (some (mark, spot.path))
  | .absent => .placed "EOF while parsing a value" none
  | .broken fault => broken fault

/-! ## Aliases -/

/-- The place with an alias replaced by what it stands for. -/
def Spot.resolve (spot : Spot) : Spot :=
  match spot.node with
  | .alias _ anchor => { spot with node := spot.target anchor }
  | _ => spot

/-- Whether a scalar is read by the rules of plain ones: it is plain, or a
literal block with the tag of its kind. -/
def isPlainOrTagged (kind : CoreTag) (tag : Option String) (style : ScalarStyle) : Bool :=
  style = .plain || (style = .literal && tag = some kind.text)

/-! ## Scalars -/

def bool (at_ : Spot) : Decoded Place Bool :=
  let spot := at_.resolve
  match spot.node with
  | .scalar _ _ tag style text =>
    match PlainValue.bool? text.toList with
    | some b =>
      if isPlainOrTagged .bool tag style then .ok b else .error (wrongKind "a boolean" spot)
    | none => .error (wrongKind "a boolean" spot)
  | _ => .error (wrongKind "a boolean" spot)

def unsigned (limit : Nat) (range : String) (at_ : Spot) : Decoded Place Nat :=
  let spot := at_.resolve
  match spot.node with
  | .scalar mark _ tag style text =>
    match PlainValue.unsigned? (Nat.pow 2 64) text.toList with
    | some n =>
      if !isPlainOrTagged .int tag style then .error (wrongKind range spot)
      else if n < limit then .ok n
      else .error (.placed (invalidValue (integerText n) range) (some (mark, spot.path)))
    | none => .error (wrongKind range spot)
  | _ => .error (wrongKind range spot)

/-- The text of any scalar. -/
def string (expected : String) (at_ : Spot) : Decoded Place String :=
  let spot := at_.resolve
  match spot.node with
  | .scalar _ _ _ _ text => .ok text
  | _ => .error (wrongKind expected spot)

/-! ## Choices -/

/-- Nothing but null may stand behind the name of an option. -/
def unit (spot : Spot) : Decoded Place Unit :=
  match spot.node with
  | .scalar _ _ _ .plain text =>
    if text = "" || PlainValue.isNullWord text.toList then .ok ()
    else .error (wrongKind "unit" spot)
  | _ => .error (wrongKind "unit" spot)

/-- The option that a tag names. -/
def taggedChoice (options : List (String × α)) (name : String) (spot : Spot) : Decoded Place α :=
  match chosen? options name with
  | none => .error (.bare (unknownVariant name (options.map Prod.fst)))
  | some a => (unit spot).map fun () => a

/-- An option is named by a tag of the document, or by the text of a scalar. -/
def nodeChoice (options : List (String × α)) (spot : Spot) : Decoded Place α :=
  let untagged (mark : Mark) (found : String) : Decoded Place α :=
    .error (.placed (invalidType found "a YAML tag starting with '!'") (some (mark, spot.path)))
  match spot.node with
  | .scalar mark _ tag _ text =>
    match localName? tag, chosen? options text with
    | some name, _ => taggedChoice options name spot
    | none, some a => .ok a
    | none, none =>
      .error (.placed (unknownVariant text (options.map Prod.fst)) (some (mark, spot.path)))
  | .sequence mark _ tag _ _ =>
    match localName? tag with
    | some name => taggedChoice options name spot
    | none => untagged mark "sequence"
  | .mapping mark _ tag _ _ =>
    match localName? tag with
    | some name => taggedChoice options name spot
    | none => untagged mark "map"
  | _ => .error (wrongKind "a YAML tag starting with '!'" spot)

def choice (options : List (String × α)) (spot : Spot) : Decoded Place α :=
  match spot.node with
  | .alias mark _ => (nodeChoice options spot.resolve).mapError (·.locate (some (mark, spot.path)))
  | _ => nodeChoice options spot

/-! ## Collections -/

/-- Decodes items in order up to a fault. -/
def readItems (item : Spot → Decoded Place α) (spot : Spot) (fault : Option String) :
    Nat → List Yaml.Node → Decoded Place (List α)
  | _, [] =>
    match fault with
    | none => .ok []
    | some fault => .error (broken fault)
  | index, node :: rest => do
    let a ← item { spot with node := node, path := itemPath spot.path index }
    let as ← readItems item spot fault (index + 1) rest
    return a :: as

/-- A sequence, or an empty plain scalar for one without items. -/
def list (item : Spot → Decoded Place α) (at_ : Spot) : Decoded Place (List α) :=
  let spot := at_.resolve
  match spot.node with
  | .sequence mark _ _ items fault =>
    (readItems item spot fault 0 items).mapError (·.locate (some (mark, spot.path)))
  | .scalar _ _ _ .plain "" | .absent => .ok []
  | _ => .error (wrongKind "a sequence" spot)

mutual

/-- The first broken place in a node; aliases are not followed. -/
def skip : Yaml.Node → Decoded Place Unit
  | .scalar _ _ _ _ _ => .ok ()
  | .sequence _ _ _ items fault => do
    skipItems items
    ending fault
  | .mapping _ _ _ entries fault => do
    skipEntries entries
    ending fault
  | .alias _ _ => .ok ()
  | .absent => .ok ()
  | .broken fault => .error (broken fault)
where
  /-- The fault that cut a collection off. -/
  ending : Option String → Decoded Place Unit
    | none => .ok ()
    | some fault => .error (broken fault)

def skipItems : List Yaml.Node → Decoded Place Unit
  | [] => .ok ()
  | n :: rest => do
    skip n
    skipItems rest

def skipEntries : List (Yaml.Node × Yaml.Node) → Decoded Place Unit
  | [] => .ok ()
  | (k, v) :: rest => do
    skip k
    skip v
    skipEntries rest

end

/-- The path of a value; what its key is called is not known behind an alias. -/
def valuePath (parent : String) : Yaml.Node → String
  | .scalar _ _ _ _ key => entryPath parent key
  | _ => entryPath parent "?"

/-- The entries of a mapping up to a key that cannot be read, and the fault
behind them. -/
def readKeys (spot : Spot) (fault : Option String) :
    List (Yaml.Node × Yaml.Node) → List (Entry Spot Place) × Decoded Place Unit
  | [] => ([], skip.ending fault)
  | (k, v) :: rest =>
    match string "field identifier" { spot with node := k } with
    | .error fault => ([], .error fault)
    | .ok key =>
      let entry : Entry Spot Place :=
        { key := key
          node := { spot with node := v, path := valuePath spot.path k }
          repeated := .bare (duplicateField key)
          settle := id
          skip := skip v }
      let (entries, ending) := readKeys spot fault rest
      (entry :: entries, ending)

/-- A record is a mapping, or an empty plain scalar for one without entries. -/
def record (shape : RecordShape Spot Place σ) (init : σ) (at_ : Spot) : Decoded Place σ :=
  let spot := at_.resolve
  let finish (s : σ) : Decoded Place σ :=
    match shape.missing s with
    | none => .ok s
    | some name => .error (.bare (missingField name))
  match spot.node with
  | .mapping mark _ _ entries fault =>
    let (entries, ending) := readKeys spot fault entries
    let read : Decoded Place σ := do
      let s ← readEntries shape entries [] init
      ending
      finish s
    read.mapError (·.locate (some (mark, spot.path)))
  | .scalar mark _ _ .plain "" => (finish init).mapError (·.locate (some (mark, spot.path)))
  | .absent => finish init
  | _ => .error (wrongKind shape.expected spot)

/-- How YAML text shows records. -/
def dialect : Dialect Spot Place where
  bool := bool
  unsigned := unsigned
  string := string
  choice := choice
  list := list
  record := record

/-! ## Whole texts -/

/-- A fault as it is shown to people. -/
def message : Fault Place → String
  | .bare message | .placed message none => message
  | .placed message (some (mark, path)) =>
    let text := if path = rootPath then message else s!"{path}: {message}"
    if mark.isStart then text else s!"{text} at {mark.text}"

/-- Decodes the one document of a text. -/
def decode (decoder : Spot → Decoded Place α) (text : List Char) : Except String α :=
  let source := Yaml.Source.read text
  match decoder ⟨source.root, rootPath, source.target⟩ with
  | .error fault => .error (message fault)
  | .ok a =>
    match source.fault with
    | some fault => .error fault
    | none =>
      if source.hasMore then
        .error "deserializing from YAML containing more than one document is not supported"
      else .ok a

end FixtureMatrix.Document.YamlText
