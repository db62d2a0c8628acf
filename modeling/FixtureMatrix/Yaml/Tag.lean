import FixtureMatrix.Yaml.Token

/-!
# Tags and directives

A tag is a handle and a suffix, with percent escapes for bytes.  A directive
gives the version of a document, or what a handle stands for.
-/

namespace FixtureMatrix.Yaml

/-! ## Tags -/

/-- Characters of a tag; some only inside angle brackets. -/
def isTagChar (verbatim : Bool) (c : Char) : Bool :=
  isWord c || ";/?:@&=+$.%!~*'()".toList.contains c || (verbatim && ",[]".toList.contains c)

/-- The bytes of a tag with its percent escapes resolved. -/
def tagBytes : List Char → Option (List UInt8)
  | [] => some []
  | '%' :: a :: b :: rest => do
    let v ← hexNumber? 2 [a, b]
    let more ← tagBytes rest
    return UInt8.ofNat v :: more
  | '%' :: _ => none
  | c :: rest => do
    let more ← tagBytes rest
    return (String.singleton c).toUTF8.toList ++ more

/-- Reads the characters of a tag after a head that was read already. -/
def tagText (directive verbatim : Bool) (head : List Char) (start : Mark) (c : Cursor) :
    Except String (String × Cursor) :=
  let what := if directive then "while parsing a %TAG directive" else "while parsing a tag"
  let (cs, after) := c.spanWhile (isTagChar verbatim)
  if head.isEmpty && cs.isEmpty then after.fault "did not find expected tag URI" what start
  else
    match tagBytes cs with
    | none => c.fault "did not find URI escaped octet" what start
    | some bytes =>
      match String.fromUTF8? (ByteArray.mk bytes.toArray) with
      | none => c.fault "found an incorrect leading UTF-8 octet" what start
      | some text => .ok (String.ofList (head.drop 1) ++ text, after)

/-- Reads a tag handle: an exclamation mark, and word characters that may end
in another one. -/
def tagHandle (directive : Bool) (start : Mark) (c : Cursor) :
    Except String (List Char × Cursor) :=
  let what := if directive then "while scanning a tag directive" else "while scanning a tag"
  if !c.isAt 0 '!' then c.fault "did not find expected '!'" what start
  else
    let (name, after) := (c.skip 1).spanWhile isWord
    if after.isAt 0 '!' then .ok ('!' :: name ++ ['!'], after.skip 1)
    else if directive && !name.isEmpty then
      after.fault "did not find expected '!'" "while parsing a tag directive" start
    else .ok ('!' :: name, after)

/-- Reads a tag's handle and suffix. -/
def tagParts (start : Mark) (c : Cursor) : Except String (String × String × Cursor) :=
  if c.isAt 1 '<' then do
    let (text, after) ← tagText false true [] start (c.skip 2)
    if !after.isAt 0 '>' then
      after.fault "did not find the expected '>'" "while scanning a tag" start
    return ("", text, after.skip 1)
  else do
    let (handle, after) ← tagHandle false start c
    if 1 < handle.length && handle.getLast? == some '!' then
      let (text, after) ← tagText false false [] start after
      return (String.ofList handle, text, after)
    else
      let (text, after) ← tagText false false handle start after
      return if text = "" then ("", "!", after) else ("!", text, after)

/-! ## Directives -/

/-- Reads a number of at most nine digits. -/
def versionNumber (start : Mark) (c : Cursor) : Except String (Nat × Cursor) :=
  let what := "while scanning a %YAML directive"
  let (ds, after) := c.spanWhile Char.isDigit
  if 9 < ds.length then (c.skip 9).fault "found extremely long version number" what start
  else if ds.isEmpty then c.fault "did not find expected version number" what start
  else .ok (Nat.ofDigitChars 10 ds 0, after)

/-- Reads the two numbers of a version. -/
def version (start : Mark) (c : Cursor) : Except String (TokenKind × Cursor) := do
  let (major, c) ← versionNumber start (c.skipWhile isBlank)
  if !c.isAt 0 '.' then
    c.fault "did not find expected digit or '.' character" "while scanning a %YAML directive" start
  let (minor, c) ← versionNumber start (c.skip 1)
  return (.versionDirective major minor, c)

/-- Reads the handle and the text it stands for. -/
def tagDefinition (start : Mark) (c : Cursor) : Except String (TokenKind × Cursor) := do
  let what := "while scanning a %TAG directive"
  let (handle, c) ← tagHandle true start (c.skipWhile isBlank)
  if !c.check isBlank then c.fault "did not find expected whitespace" what start
  let (text, c) ← tagText true true [] start (c.skipWhile isBlank)
  if !c.blankOrEndAt 0 then c.fault "did not find expected whitespace or line break" what start
  return (.tagDirective (String.ofList handle) text, c)

/-- Reads a directive behind its percent sign. -/
def directive (start : Mark) (c : Cursor) : Except String (TokenKind × Cursor) := do
  let what := "while scanning a directive"
  let (name, c) := c.spanWhile isWord
  if name.isEmpty then c.fault "could not find expected directive name" what start
  if !c.blankOrEndAt 0 then c.fault "found unexpected non-alphabetical character" what start
  if name = "YAML".toList then version start c
  else if name = "TAG".toList then tagDefinition start c
  else c.fault "found unknown directive name" what start

end FixtureMatrix.Yaml
