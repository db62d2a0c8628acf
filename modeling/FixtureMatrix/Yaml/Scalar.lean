import FixtureMatrix.Yaml.Cursor

/-!
# Scalars in YAML text

Plain scalars, scalars between quotes, and block scalars.  A single break
inside a scalar is read as a space, and further breaks are kept; a literal
block scalar keeps all its breaks.
-/

namespace FixtureMatrix.Yaml

/-- How a scalar is written. -/
inductive ScalarStyle where
  | plain
  | singleQuoted
  | doubleQuoted
  | literal
  | folded
deriving DecidableEq

/-- White space between two parts of a scalar. -/
structure Gap where
  /-- The blanks before the first break. -/
  blanks : List Char
  /-- The first break, and the breaks after it. -/
  breaks : Option (List Char × List Char)

/-- What a gap is read as. -/
def Gap.text (g : Gap) : List Char :=
  match g.breaks with
  | none => g.blanks
  | some (first, more) =>
    if first = ['\n'] then (if more = [] then [' '] else more) else first ++ more

/-! ## Plain scalars -/

/-- Whether a character ends a plain scalar in a flow collection. -/
def isFlowEnd (c : Char) : Bool :=
  c == ',' || c == '[' || c == ']' || c == '\x7b' || c == '\x7d'

/-- The characters of a plain scalar up to a blank, a break or an end. -/
def plainRun (flow : Bool) (start : Mark) : Nat → Cursor → List Char →
    Except String (List Char × Cursor)
  | 0, c, read => .ok (read.reverse, c)
  | fuel + 1, c, read =>
    match c.rest with
    | [] => .ok (read.reverse, c)
    | x :: _ =>
      if isBlank x || isBreak x then .ok (read.reverse, c)
      else if flow && x == ':' && (c.at? 1).any (fun y => isFlowEnd y || y == '?') then
        c.fault "found unexpected ':'" "while scanning a plain scalar" start
      else if (x == ':' && c.blankOrEndAt 1) || (flow && isFlowEnd x) then .ok (read.reverse, c)
      else plainRun flow start fuel (c.skip 1) (x :: read)

/-- The blanks and breaks between parts of a plain scalar. -/
def plainGap (indent : Int) (start : Mark) : Nat → Cursor → Gap → Except String (Gap × Cursor)
  | 0, c, g => .ok (g, c)
  | fuel + 1, c, g =>
    match c.rest with
    | [] => .ok (g, c)
    | x :: _ =>
      if isBlank x then
        match g.breaks with
        | none => plainGap indent start fuel (c.skip 1) { g with blanks := g.blanks ++ [x] }
        | some _ =>
          if c.mark.column < indent && x == '\t' then
            c.fault "found a tab character that violates indentation"
              "while scanning a plain scalar" start
          else plainGap indent start fuel (c.skip 1) g
      else if isBreak x then
        let (b, after) := c.readBreak
        match g.breaks with
        | none => plainGap indent start fuel after { g with breaks := some (b, []) }
        | some (first, more) =>
          plainGap indent start fuel after { g with breaks := some (first, more ++ b) }
      else .ok (g, c)

/-- What is read of a plain scalar. -/
structure PlainState where
  text : List Char
  gap : Gap
  cursor : Cursor
  stop : Mark

/-- Reads the parts of a plain scalar. -/
def plainParts (flow : Bool) (indent : Int) (start : Mark) :
    Nat → PlainState → Except String PlainState
  | 0, s => .ok s
  | fuel + 1, s => do
    let c := s.cursor
    if c.atDocumentMark '-' || c.atDocumentMark '.' || c.isAt 0 '#' then return s
    let (run, after) ← plainRun flow start c.rest.length c []
    let s : PlainState :=
      if run.isEmpty then s
      else ⟨s.text ++ s.gap.text ++ run, ⟨[], none⟩, after, after.mark⟩
    if !after.check (fun x => isBlank x || isBreak x) then return s
    let (gap, next) ← plainGap indent start after.rest.length after s.gap
    let s : PlainState := { s with gap := gap, cursor := next }
    if !flow && next.mark.column < indent then return s
    plainParts flow indent start fuel s

/-- Reads a plain scalar.  The flag says whether a line end was passed, the
mark where the scalar itself ends. -/
def scanPlain (flow : Bool) (indent : Int) (c : Cursor) :
    Except String (List Char × Mark × Bool × Cursor) := do
  let s ← plainParts flow indent c.mark (c.rest.length + 1) ⟨[], ⟨[], none⟩, c, c.mark⟩
  return (s.text, s.stop, s.gap.breaks.isSome, s.cursor)

/-! ## Quoted scalars -/

/-- The character of a short escape. -/
def escape? : Char → Option Char
  | '0' => some '\x00'
  | 'a' => some '\x07'
  | 'b' => some '\x08'
  | 't' | '\t' => some '\t'
  | 'n' => some '\n'
  | 'v' => some '\x0b'
  | 'f' => some '\x0c'
  | 'r' => some '\r'
  | 'e' => some '\x1b'
  | ' ' => some ' '
  | '"' => some '"'
  | '/' => some '/'
  | '\\' => some '\\'
  | 'N' => some '\u0085'
  | '_' => some '\u00a0'
  | 'L' => some '\u2028'
  | 'P' => some '\u2029'
  | _ => none

/-- How many hexadecimal digits follow an escape. -/
def escapeLength? : Char → Option Nat
  | 'x' => some 2
  | 'u' => some 4
  | 'U' => some 8
  | _ => none

def hexDigit? (c : Char) : Option Nat :=
  if c.isDigit then some (c.toNat - '0'.toNat)
  else if 'a' ≤ c ∧ c ≤ 'f' then some (c.toNat - 'a'.toNat + 10)
  else if 'A' ≤ c ∧ c ≤ 'F' then some (c.toNat - 'A'.toNat + 10)
  else none

/-- The number that exactly `n` hexadecimal digits stand for. -/
def hexNumber? (n : Nat) (cs : List Char) : Option Nat :=
  let ds := (cs.take n).filterMap hexDigit?
  if ds.length = n then some (ds.foldl (fun v d => v * 16 + d) 0) else none

/-- The character of an escape behind its backslash. -/
def scanEscape (start : Mark) (c : Cursor) : Except String (Char × Cursor) :=
  let what := "while parsing a quoted scalar"
  match c.at? 1 with
  | none => c.fault "found unknown escape character" what start
  | some x =>
    match escape? x, escapeLength? x with
    | some y, _ => .ok (y, c.skip 2)
    | none, none => c.fault "found unknown escape character" what start
    | none, some n =>
      let c := c.skip 2
      match hexNumber? n c.rest with
      | none => c.fault "did not find expected hexdecimal number" what start
      | some v =>
        if h : v.isValidChar then .ok (Char.ofNatAux v h, c.skip n)
        else c.fault "found invalid Unicode character escape code" what start

/-- The characters of a quoted scalar up to a blank, a break, its end or an
escaped break.  The flag says whether a break was escaped. -/
def quotedRun (single : Bool) (start : Mark) : Nat → Cursor → List Char →
    Except String (List Char × Bool × Cursor)
  | 0, c, read => .ok (read.reverse, false, c)
  | fuel + 1, c, read =>
    match c.rest with
    | [] => .ok (read.reverse, false, c)
    | x :: _ =>
      if isBlank x || isBreak x then .ok (read.reverse, false, c)
      else if single then
        if x == '\'' then
          if c.isAt 1 '\'' then quotedRun single start fuel (c.skip 2) ('\'' :: read)
          else .ok (read.reverse, false, c)
        else quotedRun single start fuel (c.skip 1) (x :: read)
      else if x == '"' then .ok (read.reverse, false, c)
      else if x == '\\' then
        if (c.at? 1).any isBreak then .ok (read.reverse, true, (c.skip 1).readBreak.2)
        else
          match scanEscape start c with
          | .error e => .error e
          | .ok (y, after) => quotedRun single start fuel after (y :: read)
      else quotedRun single start fuel (c.skip 1) (x :: read)

/-- The blanks and breaks inside a quoted scalar. -/
def quotedGap : Nat → Cursor → Gap → Gap × Cursor
  | 0, c, g => (g, c)
  | fuel + 1, c, g =>
    match c.rest with
    | [] => (g, c)
    | x :: _ =>
      if isBlank x then
        match g.breaks with
        | none => quotedGap fuel (c.skip 1) { g with blanks := g.blanks ++ [x] }
        | some _ => quotedGap fuel (c.skip 1) g
      else if isBreak x then
        let (b, after) := c.readBreak
        match g.breaks with
        | none => quotedGap fuel after { g with breaks := some (b, []) }
        | some (first, more) => quotedGap fuel after { g with breaks := some (first, more ++ b) }
      else (g, c)

/-- Reads the parts of a quoted scalar up to its closing quote. -/
def quotedParts (single : Bool) (start : Mark) : Nat → Cursor → List Char →
    Except String (List Char × Cursor)
  | 0, c, read => .ok (read, c)
  | fuel + 1, c, read => do
    let what := "while scanning a quoted scalar"
    if c.atDocumentMark '-' || c.atDocumentMark '.' then
      c.fault "found unexpected document indicator" what start
    if c.isEnd then c.fault "found unexpected end of stream" what start
    let (run, escapedBreak, after) ← quotedRun single start c.rest.length c []
    let read := read ++ run
    if after.isAt 0 (if single then '\'' else '"') then return (read, after.skip 1)
    let gap : Gap := ⟨[], if escapedBreak then some ([], []) else none⟩
    let (gap, next) := quotedGap after.rest.length after gap
    quotedParts single start fuel next (read ++ gap.text)

/-- Reads a quoted scalar, from its opening quote on. -/
def scanQuoted (single : Bool) (c : Cursor) : Except String (List Char × Cursor) :=
  quotedParts single c.mark (c.rest.length + 1) (c.skip 1) []

/-! ## Block scalars -/

/-- What becomes of the breaks at the end of a block scalar. -/
inductive Chomping where
  | strip
  | clip
  | keep
deriving DecidableEq

/-- The breaks and the indentation in front of a line of a block scalar. -/
structure BlockBreaks where
  breaks : List Char
  widest : Nat
  stop : Mark
  cursor : Cursor

/-- Reads indentation and empty lines.  An indentation of zero is one that is
not known yet. -/
def blockBreaks (indent : Nat) (start : Mark) : Nat → BlockBreaks → Except String BlockBreaks
  | 0, s => .ok s
  | fuel + 1, s =>
    let c := s.cursor
    let room := if indent = 0 then c.rest.length else indent - c.mark.column
    let c := c.skip ((c.rest.take room).takeWhile (· == ' ')).length
    let s := { s with cursor := c, widest := max s.widest c.mark.column }
    if (indent = 0 || c.mark.column < indent) && c.isAt 0 '\t' then
      c.fault "found a tab character where an indentation space is expected"
        "while scanning a block scalar" start
    else if c.check isBreak then
      let (b, after) := c.readBreak
      blockBreaks indent start fuel
        { s with breaks := s.breaks ++ b, stop := after.mark, cursor := after }
    else .ok s

/-- What is read of a block scalar. -/
structure BlockState where
  text : List Char
  leadingBreak : List Char
  leadingBlank : Bool
  breaks : List Char
  cursor : Cursor

/-- Reads the lines of a block scalar that have its indentation. -/
def blockLines (isLiteral : Bool) (indent : Nat) (start : Mark) :
    Nat → BlockState → Except String BlockState
  | 0, s => .ok s
  | fuel + 1, s =>
    let c := s.cursor
    if c.mark.column ≠ indent || c.isEnd then .ok s
    else
      let blank := c.check isBlank
      let joined :=
        if !isLiteral && s.leadingBreak = ['\n'] && !s.leadingBlank && !blank then
          (if s.breaks = [] then [' '] else [])
        else s.leadingBreak
      let (line, after) := c.spanWhile fun x => !isBreak x
      let (b, next) := after.readBreak
      match blockBreaks indent start (next.rest.length + 1) ⟨[], 0, next.mark, next⟩ with
      | .error e => .error e
      | .ok more =>
        blockLines isLiteral indent start fuel
          ⟨s.text ++ joined ++ s.breaks ++ line, b, blank, more.breaks, more.cursor⟩

/-- The chomping and indentation marks of a block scalar, in either order. -/
def blockHeader (start : Mark) (c : Cursor) : Except String (Chomping × Nat × Cursor) :=
  let chomping (c : Cursor) : Chomping × Cursor :=
    if c.isAt 0 '+' then (.keep, c.skip 1)
    else if c.isAt 0 '-' then (.strip, c.skip 1)
    else (.clip, c)
  let increment (c : Cursor) : Except String (Nat × Cursor) :=
    match c.at? 0 with
    | some '0' =>
      c.fault "found an indentation indicator equal to 0" "while scanning a block scalar" start
    | some x => .ok (if x.isDigit then (x.toNat - '0'.toNat, c.skip 1) else (0, c))
    | none => .ok (0, c)
  if c.isAt 0 '+' || c.isAt 0 '-' then do
    let (kind, c) := chomping c
    let (n, c) ← increment c
    return (kind, n, c)
  else do
    let (n, c) ← increment c
    let (kind, c) := if n = 0 then (Chomping.clip, c) else chomping c
    return (kind, n, c)

/-- Reads a block scalar, from its indicator on, below a parent indentation. -/
def scanBlock (isLiteral : Bool) (parent : Int) (c : Cursor) :
    Except String (List Char × Mark × Cursor) := do
  let start := c.mark
  let (chomping, increment, c) ← blockHeader start (c.skip 1)
  let c := (c.skipWhile isBlank).skipComment
  if !c.atBreakOrEnd then
    c.fault "did not find expected comment or line break" "while scanning a block scalar" start
  let c := c.readBreak.2
  let fixed := if increment = 0 then 0 else (max parent 0).toNat + increment
  let head ← blockBreaks fixed start (c.rest.length + 1) ⟨[], 0, c.mark, c⟩
  let indent :=
    if fixed = 0 then max (max head.widest (parent + 1).toNat) 1 else fixed
  let s ← blockLines isLiteral indent start (head.cursor.rest.length + 1)
    ⟨[], [], false, head.breaks, head.cursor⟩
  let text := s.text ++ (if chomping = .strip then [] else s.leadingBreak) ++
    (if chomping = .keep then s.breaks else [])
  return (text, s.cursor.mark, s.cursor)

end FixtureMatrix.Yaml
