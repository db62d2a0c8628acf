import FixtureMatrix.Yaml.Node
import FixtureMatrix.Yaml.Scanner

/-!
# From tokens to nodes

The first document of a text is read into a tree.  What follows it is only
asked whether it is empty.
-/

namespace FixtureMatrix.Yaml

/-- The tokens not read yet, and what the document has said so far. -/
structure Reader where
  tokens : List Token
  /-- What is wrong behind the last token. -/
  fault : String
  /-- The numbers of anchor names; a name that is used again gets another one. -/
  anchors : List (String × Nat)
  /-- What the handles of tags stand for. -/
  handles : List (String × String)

/-- Entries that were read, and the fault that cut them off. -/
abbrev Entries (α : Type) := List α × Option String

namespace Reader

def peek (r : Reader) : Option TokenKind := r.tokens.head?.map Token.kind

def drop (r : Reader) : Reader := { r with tokens := r.tokens.tail }

/-- Whether the next token is one of some kinds. -/
def isAt (r : Reader) (kinds : List TokenKind) : Bool :=
  match r.peek with
  | some k => kinds.contains k
  | none => false

/-- Nothing is read behind a fault. -/
def halt (r : Reader) (fault : String) : Reader :=
  { r with tokens := [], fault := fault }

/-- The reader at a fault, and a node that tells it. -/
def brokenOff (r : Reader) : Node × Reader := (.broken r.fault, r)

/-- Gives an anchor name its number: how many names are in use. -/
def addAnchor (r : Reader) : Option String → Option Nat × Reader
  | none => (none, r)
  | some name =>
    let number := r.anchors.length
    (some number,
      { r with anchors := (name, number) :: r.anchors.filter fun a => a.1 ≠ name })

/-- A plain scalar that is not there. -/
def emptyScalar (mark : Mark) : Node :=
  .scalar mark none none .plain ""

/-! ## Properties -/

/-- An anchor and a tag in front of a node. -/
structure Properties where
  anchor : Option String
  /-- The tag's handle and suffix, and where it starts. -/
  tag : Option (String × String × Mark)
  start : Mark

/-- Reads an anchor and a tag, in either order. -/
def properties (r : Reader) (start : Mark) : Properties × Reader :=
  match r.tokens with
  | ⟨.anchor name, at_, _⟩ :: ⟨.tag handle suffix, tagAt, _⟩ :: rest =>
    (⟨some name, some (handle, suffix, tagAt), at_⟩, { r with tokens := rest })
  | ⟨.tag handle suffix, at_, _⟩ :: ⟨.anchor name, _, _⟩ :: rest =>
    (⟨some name, some (handle, suffix, at_), at_⟩, { r with tokens := rest })
  | ⟨.anchor name, at_, _⟩ :: rest => (⟨some name, none, at_⟩, { r with tokens := rest })
  | ⟨.tag handle suffix, at_, _⟩ :: rest =>
    (⟨none, some (handle, suffix, at_), at_⟩, { r with tokens := rest })
  | _ => (⟨none, none, start⟩, r)

/-- A tag with its handle replaced by what it stands for. -/
def resolveTag (r : Reader) (p : Properties) : Except String (Option String) :=
  match p.tag with
  | none => .ok none
  | some (handle, suffix, mark) =>
    if handle = "" then .ok (some suffix)
    else
      match r.handles.find? fun h => h.1 = handle with
      | some (_, text) => .ok (some (text ++ suffix))
      | none =>
        .error (faultText "found undefined tag handle" mark
          (some ("while parsing a node", p.start)))

/-! ## Nodes -/

mutual

/-- Reads a node.  The flags say whether blocks may start here, and whether a
sequence may start without being indented. -/
def node : Nat → Bool → Bool → Reader → Node × Reader
  | 0, _, _, r => r.brokenOff
  | fuel + 1, inBlock, indentless, r =>
    match r.tokens with
    | [] => r.brokenOff
    | ⟨.alias name, mark, _⟩ :: _ =>
      match r.anchors.find? fun a => a.1 = name with
      | some (_, number) => (.alias mark number, r.drop)
      | none =>
        (r.halt (if mark.isStart then "unknown anchor" else s!"unknown anchor at {mark.text}"))
          |>.brokenOff
    | first :: _ =>
      let (p, r) := r.properties first.start
      match r.tokens with
      | [] => r.brokenOff
      | token :: _ =>
        match r.resolveTag p with
        | .error fault => (r.halt fault).brokenOff
        | .ok tag =>
          let (anchor, marked) := r.addAnchor p.anchor
          let sequence (entries : Entries Node × Reader) : Node × Reader :=
            (.sequence p.start anchor tag entries.1.1 entries.1.2, entries.2)
          let mapping (entries : Entries (Node × Node) × Reader) : Node × Reader :=
            (.mapping p.start anchor tag entries.1.1 entries.1.2, entries.2)
          match token.kind, inBlock with
          | .blockEntry, _ =>
            if indentless then sequence (indentlessItems fuel marked)
            else absentContent r p tag inBlock token.start
          | .scalar text style, _ =>
            let tag := if tag = some "!" then none else tag
            (.scalar p.start anchor tag style text, marked.drop)
          | .flowSequenceStart, _ =>
            sequence (flowItems fuel token.start true marked.drop)
          | .flowMappingStart, _ =>
            mapping (flowEntries fuel token.start true marked.drop)
          | .blockSequenceStart, true => sequence (blockItems fuel token.start marked.drop)
          | .blockMappingStart, true => mapping (blockEntries fuel token.start marked.drop)
          | _, _ => absentContent r p tag inBlock token.start
where
  /-- A node of which only properties are there. -/
  absentContent (r : Reader) (p : Properties) (tag : Option String) (inBlock : Bool)
      (mark : Mark) : Node × Reader :=
    if p.anchor.isSome || tag.isSome then
      let (anchor, marked) := r.addAnchor p.anchor
      (.scalar p.start anchor tag .plain "", marked)
    else
      let what := if inBlock then "while parsing a block node" else "while parsing a flow node"
      (r.halt (faultText "did not find expected node content" mark (some (what, p.start))))
        |>.brokenOff

/-- Reads a key or a value of a block mapping, which may be left out. -/
def blockPart : Nat → Mark → Reader → Node × Reader
  | 0, _, r => r.brokenOff
  | fuel + 1, mark, r =>
    if r.isAt [.key, .value, .blockEnd] then (emptyScalar mark, r) else node fuel true true r

/-- Reads the items of a block sequence. -/
def blockItems : Nat → Mark → Reader → Entries Node × Reader
  | 0, _, r => (([], some r.fault), r)
  | fuel + 1, start, r =>
    match r.tokens with
    | [] => (([], some r.fault), r)
    | ⟨.blockEntry, _, stop⟩ :: _ =>
      let r := r.drop
      let (item, r) :=
        if r.isAt [.blockEntry, .blockEnd] then (emptyScalar stop, r)
        else node fuel true false r
      let ((items, fault), r) := blockItems fuel start r
      ((item :: items, fault), r)
    | ⟨.blockEnd, _, _⟩ :: _ => (([], none), r.drop)
    | ⟨_, mark, _⟩ :: _ =>
      let fault := faultText "did not find expected '-' indicator" mark
        (some ("while parsing a block collection", start))
      (([], some fault), r.halt fault)

/-- Reads the items of a sequence that is not indented. -/
def indentlessItems : Nat → Reader → Entries Node × Reader
  | 0, r => (([], some r.fault), r)
  | fuel + 1, r =>
    match r.tokens with
    | [] => (([], some r.fault), r)
    | ⟨.blockEntry, _, stop⟩ :: _ =>
      let r := r.drop
      let (item, r) :=
        if r.isAt [.blockEntry, .key, .value, .blockEnd] then (emptyScalar stop, r)
        else node fuel true false r
      let ((items, fault), r) := indentlessItems fuel r
      ((item :: items, fault), r)
    | _ => (([], none), r)

/-- Reads the entries of a block mapping. -/
def blockEntries : Nat → Mark → Reader → Entries (Node × Node) × Reader
  | 0, _, r => (([], some r.fault), r)
  | fuel + 1, start, r =>
    match r.tokens with
    | [] => (([], some r.fault), r)
    | ⟨.key, _, stop⟩ :: _ =>
      let (key, r) := blockPart fuel stop r.drop
      let (value, r) := blockValue fuel r
      let ((entries, fault), r) := blockEntries fuel start r
      (((key, value) :: entries, fault), r)
    | ⟨.blockEnd, _, _⟩ :: _ => (([], none), r.drop)
    | ⟨_, mark, _⟩ :: _ =>
      let fault := faultText "did not find expected key" mark
        (some ("while parsing a block mapping", start))
      (([], some fault), r.halt fault)

/-- Reads the value of an entry of a block mapping. -/
def blockValue : Nat → Reader → Node × Reader
  | 0, r => r.brokenOff
  | fuel + 1, r =>
    match r.tokens with
    | [] => r.brokenOff
    | ⟨.value, _, stop⟩ :: _ => blockPart fuel stop r.drop
    | ⟨_, mark, _⟩ :: _ => (emptyScalar mark, r)

/-- Reads the items of a flow sequence. -/
def flowItems : Nat → Mark → Bool → Reader → Entries Node × Reader
  | 0, _, _, r => (([], some r.fault), r)
  | fuel + 1, start, isFirst, r =>
    match r.tokens with
    | [] => (([], some r.fault), r)
    | ⟨.flowSequenceEnd, _, _⟩ :: _ => (([], none), r.drop)
    | ⟨kind, mark, _⟩ :: _ =>
      if !isFirst && kind ≠ .flowEntry then
        let fault := faultText "did not find expected ',' or ']'" mark
          (some ("while parsing a flow sequence", start))
        (([], some fault), r.halt fault)
      else
        let r := if isFirst then r else r.drop
        match r.tokens with
        | [] => (([], some r.fault), r)
        | ⟨.flowSequenceEnd, _, _⟩ :: _ => (([], none), r.drop)
        | token :: _ =>
          let (item, r) :=
            if token.kind = .key then flowPair fuel token.start r.drop
            else node fuel false false r
          let ((items, fault), r) := flowItems fuel start false r
          ((item :: items, fault), r)

/-- Reads a mapping of one entry inside a flow sequence. -/
def flowPair : Nat → Mark → Reader → Node × Reader
  | 0, _, r => r.brokenOff
  | fuel + 1, start, r =>
    let (key, r) :=
      match r.tokens with
      | [] => r.brokenOff
      | token :: _ =>
        if [TokenKind.value, .flowEntry, .flowSequenceEnd].contains token.kind then
          (emptyScalar token.stop, r.drop)
        else node fuel false false r
    let (value, r) := flowValue fuel .flowSequenceEnd r
    let fault := if r.tokens.isEmpty then some r.fault else none
    (.mapping start none none [(key, value)] fault, r)

/-- Reads the value of an entry in a flow collection with some last token. -/
def flowValue : Nat → TokenKind → Reader → Node × Reader
  | 0, _, r => r.brokenOff
  | fuel + 1, last, r =>
    let r := if r.isAt [.value] then (true, r.drop) else (false, r)
    match r.2.tokens with
    | [] => r.2.brokenOff
    | token :: _ =>
      if !r.1 || token.kind = .flowEntry || token.kind = last then
        (emptyScalar token.start, r.2)
      else node fuel false false r.2

/-- Reads the entries of a flow mapping. -/
def flowEntries : Nat → Mark → Bool → Reader → Entries (Node × Node) × Reader
  | 0, _, _, r => (([], some r.fault), r)
  | fuel + 1, start, isFirst, r =>
    match r.tokens with
    | [] => (([], some r.fault), r)
    | ⟨.flowMappingEnd, _, _⟩ :: _ => (([], none), r.drop)
    | ⟨kind, mark, _⟩ :: _ =>
      if !isFirst && kind ≠ .flowEntry then
        let fault := faultText "did not find expected ',' or '\x7d'" mark
          (some ("while parsing a flow mapping", start))
        (([], some fault), r.halt fault)
      else
        let r := if isFirst then r else r.drop
        match r.tokens with
        | [] => (([], some r.fault), r)
        | ⟨.flowMappingEnd, _, _⟩ :: _ => (([], none), r.drop)
        | ⟨.key, _, _⟩ :: _ =>
          let r := r.drop
          let (key, r) :=
            match r.tokens with
            | [] => r.brokenOff
            | token :: _ =>
              if [TokenKind.value, .flowEntry, .flowMappingEnd].contains token.kind then
                (emptyScalar token.start, r)
              else node fuel false false r
          let (value, r) := flowValue fuel .flowMappingEnd r
          let ((entries, fault), r) := flowEntries fuel start false r
          (((key, value) :: entries, fault), r)
        | _ =>
          let (key, r) := node fuel false false r
          let (value, r) :=
            match r.tokens with
            | [] => r.brokenOff
            | token :: _ => (emptyScalar token.start, r)
          let ((entries, fault), r) := flowEntries fuel start false r
          (((key, value) :: entries, fault), r)

end

/-! ## Documents -/

/-- The handles that need no declaration. -/
def defaultHandles : List (String × String) :=
  [("!", "!"), ("!!", "tag:yaml.org,2002:")]

/-- Reads the directives in front of a document. -/
def directives (hasVersion : Bool) (handles : List (String × String)) :
    List Token → Except String (List (String × String) × List Token)
  | ⟨.versionDirective major minor, mark, _⟩ :: rest =>
    if hasVersion then .error (faultText "found duplicate %YAML directive" mark none)
    else if major ≠ 1 || (minor ≠ 1 && minor ≠ 2) then
      .error (faultText "found incompatible YAML document" mark none)
    else directives true handles rest
  | ⟨.tagDirective handle text, mark, _⟩ :: rest =>
    if handles.any fun h => h.1 = handle then
      .error (faultText "found duplicate %TAG directive" mark none)
    else directives hasVersion (handles ++ [(handle, text)]) rest
  | rest => .ok (handles ++ defaultHandles, rest)

/-- Reads the content of a document behind its start mark. -/
def content (fuel : Nat) (r : Reader) : Node × Reader :=
  match r.tokens with
  | [] => r.brokenOff
  | token :: _ =>
    match token.kind with
    | .versionDirective _ _ | .tagDirective _ _ | .documentStart | .documentEnd | .streamEnd =>
      (emptyScalar token.start, r)
    | _ => node fuel true false r

/-- Reads the first document. -/
def document (r : Reader) : Node × Reader :=
  let fuel := 4 * r.tokens.length + 8
  let r := if r.isAt [.streamStart] then r.drop else r
  match r.tokens with
  | [] => r.brokenOff
  | ⟨.streamEnd, _, _⟩ :: _ => (.absent, r)
  | token :: _ =>
    let explicit := match token.kind with
      | .versionDirective _ _ | .tagDirective _ _ | .documentStart => true
      | _ => false
    if explicit then
      match directives false [] r.tokens with
      | .error fault => (r.halt fault).brokenOff
      | .ok (handles, rest) =>
        let r := { r with tokens := rest, handles := handles }
        match rest with
        | [] => r.brokenOff
        | ⟨.documentStart, _, _⟩ :: _ => content fuel r.drop
        | ⟨_, mark, _⟩ :: _ =>
          (r.halt (faultText "did not find expected <document start>" mark none)).brokenOff
    else node fuel true false { r with handles := defaultHandles }

/-- Whether only marks of the document's end and the end of the text follow. -/
def onlyEndFollows : List Token → Bool
  | ⟨.documentEnd, _, _⟩ :: rest => onlyEndFollows rest
  | [⟨.streamEnd, _, _⟩] => true
  | _ => false

end Reader

/-! ## Texts -/

/-- What is read of a text. -/
structure Source where
  root : Node
  /-- What is wrong at or behind the end of the first document. -/
  fault : Option String
  /-- Whether another document follows, or anything that cannot be read. -/
  hasMore : Bool

/-- Reads a text up to the end of its first document. -/
def Source.read (text : List Char) : Source :=
  let (tokens, fault) := tokens text
  let (root, r) := Reader.document ⟨tokens, fault, [], []⟩
  match r.tokens with
  | [] => ⟨root, some r.fault, false⟩
  | rest => ⟨root, none, !Reader.onlyEndFollows rest⟩

/-- The node that an alias stands for: the last one with its number. -/
def Source.target (s : Source) (anchor : Nat) : Node :=
  match s.root.anchored.reverse.find? fun a => a.1 = anchor with
  | some (_, n) => n
  | none => .absent

end FixtureMatrix.Yaml
