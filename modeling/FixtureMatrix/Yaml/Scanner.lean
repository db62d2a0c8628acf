import FixtureMatrix.Yaml.Tag

/-!
# From text to tokens

Indentation and keys that are not marked as such are made explicit: blocks get
a start and an end, and a key token is put in front of what turns out to be a
key once its colon is met.  Tokens are handed out one at a time, and a token
that may still become a key is held back until that is decided.
-/

namespace FixtureMatrix.Yaml

/-- What may turn out to be a key: the number of its first token, and where it
starts. -/
structure KeyCandidate where
  possible : Bool
  required : Bool
  token : Nat
  mark : Mark

/-- No key. -/
def KeyCandidate.none : KeyCandidate := ⟨false, false, 0, ⟨0, 0, 0⟩⟩

/-- The state of reading tokens. -/
structure Scanner where
  cursor : Cursor
  /-- How many flow collections are open. -/
  flow : Nat
  /-- The column of the innermost block; -1 outside of all. -/
  indent : Int
  /-- The columns of the blocks around it. -/
  outer : List Int
  keyAllowed : Bool
  /-- One candidate for each open flow collection and one outside of them,
  innermost first. -/
  candidates : List KeyCandidate
  /-- Tokens that were read but not handed out. -/
  queue : List Token
  /-- How many tokens were handed out. -/
  taken : Nat
  started : Bool

namespace Scanner

def init (text : List Char) : Scanner where
  cursor := ⟨text, ⟨0, 0, 0⟩⟩
  flow := 0
  indent := -1
  outer := []
  keyAllowed := true
  candidates := [.none]
  queue := []
  taken := 0
  started := false

def mark (s : Scanner) : Mark := s.cursor.mark

def enqueue (s : Scanner) (t : Token) : Scanner :=
  { s with queue := s.queue ++ [t] }

/-- Puts a token in front of the one with a number. -/
def insertAt (s : Scanner) (number : Nat) (t : Token) : Scanner :=
  let i := number - s.taken
  { s with queue := s.queue.take i ++ t :: s.queue.drop i }

/-! ## Keys -/

def missingColon (k : KeyCandidate) (s : Scanner) : Except String α :=
  s.cursor.fault "could not find expected ':'" "while scanning a simple key" k.mark

/-- A key must end on its line and within 1024 characters. -/
def isStale (s : Scanner) (k : KeyCandidate) : Bool :=
  k.possible && (k.mark.line < s.mark.line || k.mark.index + 1024 < s.mark.index)

/-- Drops the candidates that can be keys no more. -/
def dropStale (s : Scanner) : Except String Scanner :=
  match s.candidates.reverse.find? fun k => s.isStale k && k.required with
  | some k => missingColon k s
  | none =>
    .ok { s with
      candidates := s.candidates.map fun k => if s.isStale k then { k with possible := false } else k }

/-- Drops the innermost candidate. -/
def dropCandidate (s : Scanner) : Except String Scanner :=
  match s.candidates with
  | [] => .ok s
  | k :: rest =>
    if k.possible && k.required then missingColon k s
    else .ok { s with candidates := { k with possible := false } :: rest }

/-- Notes that the next token may start a key. -/
def saveCandidate (s : Scanner) : Except String Scanner := do
  let required := s.flow = 0 && s.indent = Int.ofNat s.mark.column
  if s.keyAllowed then
    let number := s.taken + s.queue.length
    let s ← s.dropCandidate
    return { s with candidates := ⟨true, required, number, s.mark⟩ :: s.candidates.tail }
  else return s

/-! ## Indentation -/

/-- Opens a block at a column further right; its token comes last, or in front
of the one with a number. -/
def openBlock (s : Scanner) (column : Nat) (number : Option Nat) (kind : TokenKind) (at_ : Mark) :
    Scanner :=
  if s.flow ≠ 0 then s
  else if s.indent < column then
    let s := { s with outer := s.indent :: s.outer, indent := column }
    let t : Token := ⟨kind, at_, at_⟩
    match number with
    | none => s.enqueue t
    | some n => s.insertAt n t
  else s

/-- Closes the blocks that start right of a column, innermost first. -/
def closeBlocksFrom (column : Int) (s : Scanner) : List Int → Scanner
  | [] => s
  | parent :: outer =>
    if column < s.indent then
      closeBlocksFrom column
        { s.enqueue ⟨.blockEnd, s.mark, s.mark⟩ with indent := parent, outer := outer } outer
    else s

def closeBlocks (s : Scanner) (column : Int) : Scanner :=
  if s.flow ≠ 0 then s else closeBlocksFrom column s s.outer

/-! ## Tokens of one kind each -/

/-- Takes `n` characters as a token. -/
def takeToken (s : Scanner) (n : Nat) (kind : TokenKind) : Scanner :=
  let after := s.cursor.skip n
  enqueue { s with cursor := after } ⟨kind, s.mark, after.mark⟩

def streamEnd (s : Scanner) : Except String Scanner := do
  let m := s.mark
  let m : Mark := if m.column = 0 then m else ⟨m.index, m.line + 1, 0⟩
  let s := { s with cursor := ⟨s.cursor.rest, m⟩ }
  let s ← (s.closeBlocks (-1)).dropCandidate
  return enqueue { s with keyAllowed := false } ⟨.streamEnd, m, m⟩

def documentMark (s : Scanner) (kind : TokenKind) : Except String Scanner := do
  let s ← (s.closeBlocks (-1)).dropCandidate
  return takeToken { s with keyAllowed := false } 3 kind

def openFlow (s : Scanner) (kind : TokenKind) : Except String Scanner := do
  let s ← s.saveCandidate
  let candidates := KeyCandidate.none :: s.candidates
  return takeToken { s with candidates := candidates, flow := s.flow + 1, keyAllowed := true } 1 kind

def closeFlow (s : Scanner) (kind : TokenKind) : Except String Scanner := do
  let s ← s.dropCandidate
  let s : Scanner :=
    if s.flow = 0 then s else { s with flow := s.flow - 1, candidates := s.candidates.tail }
  return takeToken { s with keyAllowed := false } 1 kind

def flowEntry (s : Scanner) : Except String Scanner := do
  let s ← s.dropCandidate
  return takeToken { s with keyAllowed := true } 1 .flowEntry

def blockEntry (s : Scanner) : Except String Scanner := do
  if s.flow = 0 && !s.keyAllowed then
    .error (faultText "block sequence entries are not allowed in this context" s.mark none)
  let s := s.openBlock s.mark.column none .blockSequenceStart s.mark
  let s ← s.dropCandidate
  return takeToken { s with keyAllowed := true } 1 .blockEntry

def explicitKey (s : Scanner) : Except String Scanner := do
  if s.flow = 0 && !s.keyAllowed then
    .error (faultText "mapping keys are not allowed in this context" s.mark none)
  let s := s.openBlock s.mark.column none .blockMappingStart s.mark
  let s ← s.dropCandidate
  return takeToken { s with keyAllowed := decide (s.flow = 0) } 1 .key

def mappingValue (s : Scanner) : Except String Scanner := do
  match s.candidates with
  | k :: rest =>
    if k.possible then
      let s := s.insertAt k.token ⟨.key, k.mark, k.mark⟩
      let s := s.openBlock k.mark.column (some k.token) .blockMappingStart k.mark
      let candidates := { k with possible := false } :: rest
      return takeToken { s with candidates := candidates, keyAllowed := false } 1 .value
    else plainValue s
  | [] => plainValue s
where
  /-- A value whose key was marked or is left out. -/
  plainValue (s : Scanner) : Except String Scanner := do
    if s.flow = 0 && !s.keyAllowed then
      .error (faultText "mapping values are not allowed in this context" s.mark none)
    let s := s.openBlock s.mark.column none .blockMappingStart s.mark
    return takeToken { s with keyAllowed := decide (s.flow = 0) } 1 .value

/-- Whether a character may follow the name of an anchor or an alias. -/
def endsName (c : Cursor) : Bool :=
  c.blankOrEndAt 0 || c.check fun x => "?:,]\x7d%@`".toList.contains x

def anchorOrAlias (s : Scanner) (isAlias : Bool) : Except String Scanner := do
  let s ← s.saveCandidate
  let start := s.mark
  let (name, after) := (s.cursor.skip 1).spanWhile isWord
  if name.isEmpty || !endsName after then
    after.fault "did not find expected alphabetic or numeric character"
      (if isAlias then "while scanning an alias" else "while scanning an anchor") start
  let text := String.ofList name
  let kind := if isAlias then TokenKind.alias text else TokenKind.anchor text
  return enqueue { s with keyAllowed := false, cursor := after }
    ⟨kind, start, after.mark⟩

def tag (s : Scanner) : Except String Scanner := do
  let s ← s.saveCandidate
  let start := s.mark
  let (handle, suffix, after) ← tagParts start s.cursor
  if !after.blankOrEndAt 0 && !(s.flow ≠ 0 && after.isAt 0 ',') then
    after.fault "did not find expected whitespace or line break" "while scanning a tag" start
  return enqueue { s with keyAllowed := false, cursor := after }
    ⟨.tag handle suffix, start, after.mark⟩

def block (s : Scanner) (isLiteral : Bool) : Except String Scanner := do
  let s ← s.dropCandidate
  let (text, stop, after) ← scanBlock isLiteral s.indent s.cursor
  let style := if isLiteral then ScalarStyle.literal else ScalarStyle.folded
  return enqueue { s with keyAllowed := true, cursor := after }
    ⟨.scalar (String.ofList text) style, s.mark, stop⟩

def quoted (s : Scanner) (single : Bool) : Except String Scanner := do
  let s ← s.saveCandidate
  let (text, after) ← scanQuoted single s.cursor
  let style := if single then ScalarStyle.singleQuoted else ScalarStyle.doubleQuoted
  return enqueue { s with keyAllowed := false, cursor := after }
    ⟨.scalar (String.ofList text) style, s.mark, after.mark⟩

def plain (s : Scanner) : Except String Scanner := do
  let s ← s.saveCandidate
  let (text, stop, passedBreak, after) ← scanPlain (s.flow ≠ 0) (s.indent + 1) s.cursor
  return enqueue { s with keyAllowed := passedBreak, cursor := after }
    ⟨.scalar (String.ofList text) .plain, s.mark, stop⟩

def directiveLine (s : Scanner) : Except String Scanner := do
  let s ← (s.closeBlocks (-1)).dropCandidate
  let start := s.mark
  let (kind, after) ← directive start (s.cursor.skip 1)
  let c := (after.skipWhile isBlank).skipComment
  if !c.atBreakOrEnd then
    c.fault "did not find expected comment or line break" "while scanning a directive" start
  return enqueue { s with keyAllowed := false, cursor := c.readBreak.2 }
    ⟨kind, start, after.mark⟩

/-! ## The next token -/

/-- Past white space and comments.  A line end outside of flow collections
allows a key. -/
def toNextToken : Nat → Scanner → Scanner
  | 0, s => s
  | fuel + 1, s =>
    let tabs := s.flow ≠ 0 || !s.keyAllowed
    let c := (s.cursor.skipWhile fun x => x == ' ' || (tabs && x == '\t')).skipComment
    if c.check isBreak then
      toNextToken fuel { s with cursor := c.readBreak.2, keyAllowed := s.keyAllowed || s.flow = 0 }
    else { s with cursor := c }

/-- Characters that cannot start a plain scalar, unless a character follows
that is no blank. -/
def isIndicator (c : Char) : Bool :=
  "-?:,[]\x7b\x7d#&*!|>'\"%@`".toList.contains c

/-- Whether a plain scalar starts here. -/
def startsPlain (s : Scanner) : Bool :=
  let c := s.cursor
  c.check fun x =>
    (!isBlank x && !isBreak x && !isIndicator x) ||
      (x == '-' && !((c.at? 1).any isBlank)) ||
      (s.flow = 0 && (x == '?' || x == ':') && !c.blankOrEndAt 1)

/-- Reads the token at the cursor. -/
def readToken (s : Scanner) : Except String Scanner :=
  let c := s.cursor
  let inFlow := s.flow ≠ 0
  match c.at? 0 with
  | none => s.streamEnd
  | some x =>
    if c.mark.column = 0 && x == '%' then s.directiveLine
    else if c.atDocumentMark '-' then s.documentMark .documentStart
    else if c.atDocumentMark '.' then s.documentMark .documentEnd
    else if x == '[' then s.openFlow .flowSequenceStart
    else if x == '\x7b' then s.openFlow .flowMappingStart
    else if x == ']' then s.closeFlow .flowSequenceEnd
    else if x == '\x7d' then s.closeFlow .flowMappingEnd
    else if x == ',' then s.flowEntry
    else if x == '-' && c.blankOrEndAt 1 then s.blockEntry
    else if x == '?' && (inFlow || c.blankOrEndAt 1) then s.explicitKey
    else if x == ':' && (inFlow || c.blankOrEndAt 1) then s.mappingValue
    else if x == '*' then s.anchorOrAlias true
    else if x == '&' then s.anchorOrAlias false
    else if x == '!' then s.tag
    else if x == '|' && !inFlow then s.block true
    else if x == '>' && !inFlow then s.block false
    else if x == '\'' then s.quoted true
    else if x == '"' then s.quoted false
    else if s.startsPlain then s.plain
    else
      c.fault "found character that cannot start any token" "while scanning for the next token"
        c.mark

/-- Reads at least one more token, or ends the stream. -/
def step (s : Scanner) : Except String Scanner := do
  if !s.started then
    return enqueue { s with started := true } ⟨.streamStart, s.mark, s.mark⟩
  let s := s.toNextToken (s.cursor.rest.length + 1)
  let s ← s.dropStale
  (s.closeBlocks (Int.ofNat s.mark.column)).readToken

/-- Whether the first token of the queue may still become a key. -/
def isHeld (s : Scanner) : Bool :=
  s.candidates.any fun k => k.possible && k.token = s.taken

/-- Reads until the first token of the queue can be handed out. -/
def fill : Nat → Scanner → Except String Scanner
  | 0, s => .ok s
  | fuel + 1, s => do
    let s ← if s.queue.isEmpty then .ok s else s.dropStale
    if s.queue.isEmpty || s.isHeld then
      let s ← s.step
      fill fuel s
    else return s

/-- All tokens up to the end of the stream or up to a fault. -/
def drain : Nat → Scanner → List Token × String
  | 0, _ => ([], "")
  | fuel + 1, s =>
    match s.fill (s.cursor.rest.length + 3) with
    | .error e => ([], e)
    | .ok s =>
      match s.queue with
      | [] => ([], "")
      | t :: queue =>
        if t.kind = .streamEnd then ([t], "")
        else
          let (ts, e) := drain fuel { s with queue := queue, taken := s.taken + 1 }
          (t :: ts, e)

end Scanner

/-- The byte offset of the first character that a text may not hold. -/
def disallowed? : Nat → List Char → Option Nat
  | _, [] => none
  | offset, c :: cs => if isAllowed c then disallowed? (offset + c.utf8Size) cs else some offset

/-- The tokens of a text, and the fault behind the last one if there is one.
A byte order mark at the start is passed over. -/
def tokens (text : List Char) : List Token × String :=
  let (skipped, body) := match text with
    | c :: cs => if c.toNat = 0xFEFF then (3, cs) else (0, text)
    | [] => (0, [])
  match disallowed? skipped body with
  | some offset =>
    let problem := "control characters are not allowed"
    ([], if offset = 0 then problem else s!"{problem} at position {offset}")
  | none => Scanner.drain (4 * body.length + 8) (Scanner.init body)

end FixtureMatrix.Yaml
