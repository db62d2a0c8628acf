import FixtureMatrix.Json.Basic

/-!
# JSON tokens

A JSON text is cut into tokens, each with the byte offsets at which it starts
and ends.  A token whose spelling is wrong keeps the reason and is the last
one: nothing behind it is ever read.
-/

namespace FixtureMatrix.Json

/-- Why a JSON text cannot be read, and the byte offset where that shows. -/
structure Fail where
  message : String
  offset : Nat

/-- A JSON value without parts. -/
inductive Atom where
  | null
  | bool (b : Bool)
  | int (n : Int)
  | float (x : Binary64)
  | str (s : String)

inductive TokenKind where
  | openArray
  | closeArray
  | openObject
  | closeObject
  | comma
  | colon
  | string (value : Except Fail String)
  /-- Any other value without parts. -/
  | atom (value : Except Fail Atom)
  /-- A character that starts no token. -/
  | stray

/-- A token and where it starts and ends. -/
structure Token where
  start : Nat
  stop : Nat
  kind : TokenKind

def eofInValue : String := "EOF while parsing a value"

def eofInString : String := "EOF while parsing a string"

/-- The part of a text not read yet, and the byte offset at which it starts. -/
structure Cursor where
  rest : List Char
  offset : Nat

/-- Past the first character. -/
def Cursor.next (c : Cursor) : Cursor :=
  match c.rest with
  | [] => c
  | x :: rest => ⟨rest, c.offset + x.utf8Size⟩

/-- The offset behind a peeked character, or the end of the text. -/
def Cursor.peeked (c : Cursor) : Nat :=
  if c.rest.isEmpty then c.offset else c.offset + 1

/-! ## Strings -/

def hexValue? (c : Char) : Option Nat :=
  if '0' ≤ c ∧ c ≤ '9' then some (c.toNat - '0'.toNat)
  else if 'a' ≤ c ∧ c ≤ 'f' then some (c.toNat - 'a'.toNat + 10)
  else if 'A' ≤ c ∧ c ≤ 'F' then some (c.toNat - 'A'.toNat + 10)
  else none

/-- The number four hexadecimal digits stand for. -/
def hexFour? (a b c d : Char) : Option Nat := do
  let a ← hexValue? a
  let b ← hexValue? b
  let c ← hexValue? c
  let d ← hexValue? d
  return a * 4096 + b * 256 + c * 16 + d

/-- The byte size of a text. -/
def byteSize (cs : List Char) : Nat :=
  cs.foldr (fun c size => c.utf8Size + size) 0

/-- Why four hexadecimal digits cannot be read here. -/
def hexFail (cs : List Char) (offset : Nat) : Fail :=
  let size := byteSize cs
  if size < 4 then ⟨eofInString, offset + size⟩ else ⟨"invalid escape", offset + 4⟩

/-- The character of a short escape. -/
def shortEscape? (c : Char) : Option Char :=
  match c with
  | '"' => some '"'
  | '\\' => some '\\'
  | '/' => some '/'
  | 'b' => some '\x08'
  | 'f' => some '\x0c'
  | 'n' => some '\n'
  | 'r' => some '\r'
  | 't' => some '\t'
  | _ => none

def isHighSurrogate (n : Nat) : Bool := 0xD800 ≤ n && n ≤ 0xDBFF

def isLowSurrogate (n : Nat) : Bool := 0xDC00 ≤ n && n ≤ 0xDFFF

def loneSurrogate : String := "lone leading surrogate in hex escape"

/-- A string's content and what follows its closing quote, or why it cannot
be read.  The text starts behind the opening quote; the characters read so far
are in reverse. -/
def scanString : List Char → Nat → List Char → Except Fail (String × Cursor)
  | [], offset, _ => .error ⟨eofInString, offset⟩
  | '"' :: rest, offset, read => .ok (String.ofList read.reverse, ⟨rest, offset + 1⟩)
  | '\\' :: 'u' :: a :: b :: c :: d :: rest, offset, read =>
    match hexFour? a b c d with
    | none => .error (hexFail [a, b, c, d] (offset + 2))
    | some n =>
      if isLowSurrogate n then .error ⟨loneSurrogate, offset + 6⟩
      else if isHighSurrogate n then
        match rest with
        | '\\' :: 'u' :: e :: f :: g :: h :: rest =>
          match hexFour? e f g h with
          | none => .error (hexFail [e, f, g, h] (offset + 8))
          | some m =>
            if isLowSurrogate m then
              let code := 0x10000 + (n - 0xD800) * 1024 + (m - 0xDC00)
              scanString rest (offset + 12) (Char.ofNat code :: read)
            else .error ⟨loneSurrogate, offset + 12⟩
        | rest => .error (unpaired rest (offset + 6))
      else scanString rest (offset + 6) (Char.ofNat n :: read)
  | '\\' :: 'u' :: rest, offset, _ => .error (hexFail rest (offset + 2))
  | '\\' :: c :: rest, offset, read =>
    match shortEscape? c with
    | some x => scanString rest (offset + 1 + c.utf8Size) (x :: read)
    | none => .error ⟨"invalid escape", offset + 2⟩
  | ['\\'], offset, _ => .error ⟨eofInString, offset + 1⟩
  | c :: rest, offset, read =>
    if c.toNat < 0x20 then
      .error ⟨"control character (\\u0000-\\u001F) found while parsing a string", offset + 1⟩
    else scanString rest (offset + c.utf8Size) (c :: read)
where
  /-- Why no second half of a surrogate pair can be read here. -/
  unpaired (cs : List Char) (offset : Nat) : Fail :=
    match cs with
    | [] => ⟨eofInString, offset⟩
    | ['\\'] => ⟨eofInString, offset + 1⟩
    | '\\' :: 'u' :: rest => hexFail rest (offset + 2)
    | '\\' :: _ => ⟨"unexpected end of hex escape", offset + 2⟩
    | _ => ⟨"unexpected end of hex escape", offset + 1⟩

/-! ## Numbers -/

/-- Reads digits into a word of 64 bits while they fit; also how many more
digits there are. -/
def digits64 : Nat → List Char → Nat × Nat
  | n, [] => (n, 0)
  | n, c :: cs =>
    let next := n * 10 + (c.toNat - '0'.toNat)
    if next < Nat.pow 2 64 then digits64 next cs else (n, cs.length + 1)

/-- `significand · 10 ^ exponent` by one rounded multiplication or division,
after as many divisions as bring the exponent into the format's range. -/
def scaled (significand : Binary64) (exponent : Int) : Nat → Option Binary64
  | 0 => some (.zero false)
  | fuel + 1 =>
    if exponent.natAbs ≤ 308 then
      let power := Binary64.ofDecimal false 1 (Int.ofNat exponent.natAbs)
      if 0 ≤ exponent then
        let x := significand.mul power
        if x.isInfinite then none else some x
      else some (significand.div power)
    else if significand.isZero then some significand
    else if 0 ≤ exponent then none
    else scaled (significand.div (Binary64.ofDecimal false 1 308)) (exponent + 308) fuel

/-- The number with a fraction or an exponent, or why it is out of range. -/
def floatAtom (negative : Bool) (significand : Nat) (exponent : Int) (c : Cursor) :
    Except Fail (Atom × Cursor) :=
  match scaled (Binary64.ofInt (Int.ofNat significand)) exponent 4 with
  | none => .error ⟨"number out of range", c.offset⟩
  | some x => .ok (.float (if negative then x.negate else x), c)

/-- The digits at a cursor, and the cursor behind them. -/
def spanDigits (c : Cursor) : List Char × Cursor :=
  let ds := c.rest.takeWhile Char.isDigit
  (ds, ⟨c.rest.dropWhile Char.isDigit, c.offset + ds.length⟩)

/-- How many digits fit into 31 bits, if not all do. -/
def exponentOverflow? : Nat → Nat → List Char → Option Nat
  | _, _, [] => none
  | n, count, c :: cs =>
    let next := n * 10 + (c.toNat - '0'.toNat)
    if next < Nat.pow 2 31 then exponentOverflow? next (count + 1) cs else some count

/-- A number from its exponent mark on. -/
def scanExponent (negative : Bool) (significand : Nat) (exponent : Int) (c : Cursor) :
    Except Fail (Atom × Cursor) :=
  let (negativeExponent, c) := match c.rest with
    | '+' :: _ => (false, c.next)
    | '-' :: _ => (true, c.next)
    | _ => (false, c)
  let (ds, after) := spanDigits c
  if c.rest.isEmpty then .error ⟨eofInValue, c.offset⟩
  else if ds.isEmpty then .error ⟨"invalid number", c.offset + 1⟩
  else
    match exponentOverflow? 0 0 ds with
    | some count =>
      if significand ≠ 0 ∧ negativeExponent = false then
        .error ⟨"number out of range", c.offset + count + 1⟩
      else .ok (.float (.zero negative), after)
    | none =>
      let shift := Int.ofNat (Nat.ofDigitChars 10 ds 0)
      floatAtom negative significand
        (if negativeExponent then exponent - shift else exponent + shift) after

/-- A number from behind its whole part on. -/
def scanFraction (negative : Bool) (significand : Nat) (dropped : Nat) (c : Cursor) :
    Except Fail (Atom × Cursor) :=
  match c.rest with
  | '.' :: _ =>
    let (ds, after) := spanDigits c.next
    if ds.isEmpty then
      .error ⟨if after.rest.isEmpty then eofInValue else "invalid number", after.peeked⟩
    else
      let (significand, unread) := digits64 significand ds
      let exponent := Int.ofNat dropped - Int.ofNat (ds.length - unread)
      match after.rest with
      | 'e' :: _ | 'E' :: _ => scanExponent negative significand exponent after.next
      | _ => floatAtom negative significand exponent after
  | 'e' :: _ | 'E' :: _ => scanExponent negative significand (Int.ofNat dropped) c.next
  | _ =>
    if dropped ≠ 0 then floatAtom negative significand (Int.ofNat dropped) c
    else if negative = false then .ok (.int (Int.ofNat significand), c)
    else if significand = 0 ∨ Nat.pow 2 63 < significand then
      .ok (.float (Binary64.ofInt (Int.ofNat significand)).negate, c)
    else .ok (.int (-Int.ofNat significand), c)

/-- A number, from behind its sign on.  Whole numbers that fit neither 64-bit
range, and minus zero, become binary64 numbers. -/
def scanNumber (negative : Bool) (c : Cursor) : Except Fail (Atom × Cursor) :=
  match c.rest with
  | [] => .error ⟨eofInValue, c.offset⟩
  | '0' :: rest =>
    match rest with
    | d :: _ =>
      if d.isDigit then .error ⟨"invalid number", c.offset + 2⟩
      else scanFraction negative 0 0 c.next
    | [] => scanFraction negative 0 0 c.next
  | d :: _ =>
    if d.isDigit then
      let (ds, after) := spanDigits c
      let (significand, dropped) := digits64 0 ds
      scanFraction negative significand dropped after
    else .error ⟨"invalid number", c.offset + 1⟩

/-! ## Words and the whole text -/

/-- Reads the rest of a word. -/
def scanWord (value : Atom) : List Char → Cursor → Except Fail (Atom × Cursor)
  | [], c => .ok (value, c)
  | w :: ws, c =>
    match c.rest with
    | [] => .error ⟨eofInValue, c.offset⟩
    | x :: _ => if x = w then scanWord value ws c.next else .error ⟨"expected ident", c.offset + 1⟩

/-- The white space of JSON. -/
def isSpace (c : Char) : Bool :=
  c == ' ' || c == '\n' || c == '\t' || c == '\r'

/-- Reads a number or a word whose first character is at the cursor. -/
def scanAtom? (first : Char) (c : Cursor) : Option (Except Fail (Atom × Cursor)) :=
  match first with
  | 'n' => some (scanWord .null "ull".toList c.next)
  | 't' => some (scanWord (.bool true) "rue".toList c.next)
  | 'f' => some (scanWord (.bool false) "alse".toList c.next)
  | '-' => some (scanNumber true c.next)
  | _ => if first.isDigit then some (scanNumber false c) else none

/-- The kind of a token of one character. -/
def punctuation? : Char → Option TokenKind
  | '[' => some .openArray
  | ']' => some .closeArray
  | '\x7b' => some .openObject
  | '\x7d' => some .closeObject
  | ',' => some .comma
  | ':' => some .colon
  | _ => none

/-- The tokens of a text.  The number bounds how many characters are looked at. -/
def tokensFrom : Nat → Cursor → List Token
  | 0, _ => []
  | fuel + 1, c =>
    match c.rest with
    | [] => []
    | x :: _ =>
      if isSpace x then tokensFrom fuel c.next
      else
        match punctuation? x with
        | some kind => ⟨c.offset, c.offset + 1, kind⟩ :: tokensFrom fuel c.next
        | none =>
          if x = '"' then
            match scanString c.next.rest c.next.offset [] with
            | .ok (value, after) =>
              ⟨c.offset, after.offset, .string (.ok value)⟩ :: tokensFrom fuel after
            | .error e => [⟨c.offset, c.offset, .string (.error e)⟩]
          else
            match scanAtom? x c with
            | some (.ok (value, after)) =>
              ⟨c.offset, after.offset, .atom (.ok value)⟩ :: tokensFrom fuel after
            | some (.error e) => [⟨c.offset, c.offset, .atom (.error e)⟩]
            | none => [⟨c.offset, c.offset, .stray⟩]

/-- The tokens of a text. -/
def tokens (cs : List Char) : List Token :=
  tokensFrom cs.length ⟨cs, 0⟩

end FixtureMatrix.Json
