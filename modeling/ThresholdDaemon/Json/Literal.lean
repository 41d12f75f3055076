import ThresholdDaemon.Json.Cursor
import ThresholdDaemon.Text.Utf8

/-!
# Texts of a document

A text stands between quotes. A backslash starts an escape: one character for the common ones, or
four hexadecimal digits of a UTF-16 unit, of which two may form one code point. Control
characters must be escaped. Printing escapes only what must be escaped.
-/
namespace ThresholdDaemon.Json

/-- The value of a hexadecimal digit of either case. -/
def hexDigit? (c : Char) : Option Nat :=
  if '0' ≤ c ∧ c ≤ '9' then some (c.toNat - '0'.toNat)
  else if 'a' ≤ c ∧ c ≤ 'f' then some (c.toNat - 'a'.toNat + 10)
  else if 'A' ≤ c ∧ c ≤ 'F' then some (c.toNat - 'A'.toNat + 10)
  else none

/-- The lower-case hexadecimal digit of a value below sixteen. -/
def hexChar (n : Nat) : Char := Nat.digitChar n

/-- What a character after a backslash stands for, unless more digits follow it. -/
def simpleEscape? : Char → Option Char
  | '"' => some '"'
  | '\\' => some '\\'
  | '/' => some '/'
  | 'b' => some '\x08'
  | 'f' => some '\x0c'
  | 'n' => some '\n'
  | 'r' => some '\r'
  | 't' => some '\t'
  | _ => none

namespace Literal

/-- The first half of a surrogate pair. -/
def isHighSurrogate (unit : Nat) : Bool := 0xD800 ≤ unit && unit ≤ 0xDBFF

/-- The second half of a surrogate pair. -/
def isLowSurrogate (unit : Nat) : Bool := 0xDC00 ≤ unit && unit ≤ 0xDFFF

/-- The place behind four more bytes, or none if there are fewer. -/
def positionAfterFour? (cursor : Cursor) : Option Position :=
  let bytes := (Utf8.encode (cursor.rest.take 4)).take 4
  if bytes.length = 4 then some (bytes.foldl Position.afterByte cursor.position) else none

/-- The place behind the whole text. -/
def endPosition (cursor : Cursor) : Position := cursor.rest.foldl Position.after cursor.position

/-- The UTF-16 unit of four hexadecimal digits. -/
def unit : Reader Nat := fun cursor =>
  match positionAfterFour? cursor with
  | none => .error (.placed .endInString (endPosition cursor))
  | some behind =>
    match cursor.rest with
    | a :: b :: c :: d :: rest =>
      match hexDigit? a, hexDigit? b, hexDigit? c, hexDigit? d with
      | some a, some b, some c, some d => .ok (((a * 16 + b) * 16 + c) * 16 + d, ⟨rest, behind⟩)
      | _, _, _, _ => .error (.placed .invalidEscape behind)
    | _ => .error (.placed .invalidEscape behind)

/-- A character that must follow the first half of a surrogate pair. -/
def pairing (expected : Char) : Reader Unit := do
  match ← Reader.next? with
  | none => Reader.fail .endInString
  | some c => if c = expected then Reader.advance else Reader.failNext .endOfHexEscape

/-- The code point of an escape whose `u` is taken. -/
def codePoint : Reader Char := do
  let first ← unit
  if isLowSurrogate first then Reader.fail .loneSurrogate
  else if isHighSurrogate first then
    pairing '\\'
    pairing 'u'
    let second ← unit
    if isLowSurrogate second then
      pure (Char.ofNat (0x10000 + (first - 0xD800) * 0x400 + (second - 0xDC00)))
    else Reader.fail .loneSurrogate
  else pure (Char.ofNat first)

/-- The character of an escape whose backslash is taken. -/
def escape : Reader Char := do
  match ← Reader.next? with
  | none => Reader.fail .endInString
  | some c =>
    match simpleEscape? c with
    | some meant => Reader.advance; pure meant
    | none =>
      if c = 'u' then Reader.advance; codePoint
      else Reader.failNext .invalidEscape

/-- A character that must be escaped. -/
def isControl (c : Char) : Bool := c.toNat < 0x20

/-- The characters up to the closing quote, behind those found so far in reverse. The fuel is
more than the characters left. -/
def body : (fuel : Nat) → List Char → Reader (List Char)
  | 0, _ => Reader.fail .endInString
  | fuel + 1, found => do
    match ← Reader.next? with
    | none => Reader.fail .endInString
    | some c =>
      if c = '"' then Reader.advance; pure found.reverse
      else if c = '\\' then
        Reader.advance
        let meant ← escape
        body fuel (meant :: found)
      else if isControl c then Reader.failNext .controlCharacter
      else Reader.advance; body fuel (c :: found)

/-- The text whose opening quote is taken. -/
def read : Reader String := do
  let left ← Reader.remaining
  let found ← body (left + 1) []
  pure (String.ofList found)

/-- Pass over an escape whose backslash is taken; halves of surrogate pairs are not matched. -/
def skipEscape : Reader Unit := do
  match ← Reader.next? with
  | none => Reader.fail .endInString
  | some c =>
    if (simpleEscape? c).isSome then Reader.advance
    else if c = 'u' then
      Reader.advance
      let _ ← unit
    else Reader.failNext .invalidEscape

/-- Pass over the characters up to the closing quote. The fuel is more than the characters
left. -/
def skipBody : (fuel : Nat) → Reader Unit
  | 0 => Reader.fail .endInString
  | fuel + 1 => do
    match ← Reader.next? with
    | none => Reader.fail .endInString
    | some c =>
      if c = '"' then Reader.advance
      else if c = '\\' then
        Reader.advance
        skipEscape
        skipBody fuel
      else if isControl c then Reader.fail .controlCharacter
      else Reader.advance; skipBody fuel

/-- Pass over the text whose opening quote is taken. -/
def skip : Reader Unit := do
  let left ← Reader.remaining
  skipBody (left + 1)

/-- A character between quotes. -/
def escapeChar (c : Char) : List Char :=
  if c = '"' then ['\\', '"']
  else if c = '\\' then ['\\', '\\']
  else if c = '\x08' then ['\\', 'b']
  else if c = '\x0c' then ['\\', 'f']
  else if c = '\n' then ['\\', 'n']
  else if c = '\r' then ['\\', 'r']
  else if c = '\t' then ['\\', 't']
  else if isControl c then
    ['\\', 'u', '0', '0', hexChar (c.toNat / 16), hexChar (c.toNat % 16)]
  else [c]

/-- The characters of a text as they stand between quotes. -/
def escaped (text : List Char) : List Char := text.flatMap escapeChar

/-- The characters of a text with its quotes. -/
def print (text : String) : List Char := '"' :: escaped text.toList ++ ['"']

end Literal

end ThresholdDaemon.Json
