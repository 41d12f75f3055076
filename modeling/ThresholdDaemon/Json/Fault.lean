import ThresholdDaemon.Text.Quoted

/-!
# Faults of a document

A read of a document stops at its first fault: a cause and the place where it was noticed. Causes
fall into three kinds: the text is not a document, the document is not of the wanted shape, or
the text ends too early. Places count lines from one and bytes in the line from zero, and stand
behind the byte that was looked at.
-/
namespace ThresholdDaemon.Json

/-- A place in a text. -/
structure Position where
  /-- The line, from one. -/
  line : Nat
  /-- The bytes of the line that are behind. -/
  column : Nat
  deriving DecidableEq, Repr

namespace Position

/-- The place at the start of a text. -/
def start : Position := ⟨1, 0⟩

/-- The place after one more byte. -/
def afterByte (position : Position) (byte : UInt8) : Position :=
  if byte = 0x0A then ⟨position.line + 1, 0⟩ else ⟨position.line, position.column + 1⟩

/-- The place after one more character. -/
def after (position : Position) (c : Char) : Position :=
  if c = '\n' then ⟨position.line + 1, 0⟩ else ⟨position.line, position.column + c.utf8Size⟩

end Position

/-- What stands where something else is wanted. -/
inductive Unexpected where
  /-- The null value. -/
  | null
  /-- A truth value. -/
  | boolean (value : Bool)
  /-- An integer. -/
  | integer (value : Int)
  /-- A number with a fraction, by its text. -/
  | fraction (text : String)
  /-- A text. -/
  | text (value : String)
  /-- An array. -/
  | sequence
  /-- An object. -/
  | map
  deriving DecidableEq, Repr

/-- The text of what stands there. -/
def Unexpected.message : Unexpected → String
  | .null => "null"
  | .boolean value => "boolean `" ++ (if value then "true" else "false") ++ "`"
  | .integer value => "integer `" ++ toString value ++ "`"
  | .fraction digits => "floating point `" ++ digits ++ "`"
  | .text value => "string " ++ Text.quote value
  | .sequence => "sequence"
  | .map => "map"

/-- Why a read stopped. -/
inductive Cause where
  /-- The text ends inside an array. -/
  | endInList
  /-- The text ends inside an object. -/
  | endInObject
  /-- The text ends inside a string. -/
  | endInString
  /-- The text ends where a value is wanted. -/
  | endInValue
  /-- No colon after a key. -/
  | expectedColon
  /-- Neither a comma nor the end of an array. -/
  | expectedListCommaOrEnd
  /-- Neither a comma nor the end of an object. -/
  | expectedObjectCommaOrEnd
  /-- A word that is none of the three. -/
  | expectedWord
  /-- Nothing that starts a value. -/
  | expectedValue
  /-- A backslash before a character that has no escape. -/
  | invalidEscape
  /-- A number that breaks off. -/
  | invalidNumber
  /-- A number too large for a double. -/
  | numberOutOfRange
  /-- A bare control character in a string. -/
  | controlCharacter
  /-- A key that is no string. -/
  | keyMustBeString
  /-- A second half of a surrogate pair without its first. -/
  | loneSurrogate
  /-- A comma before the end of an array or object. -/
  | trailingComma
  /-- More text after the value. -/
  | trailingCharacters
  /-- A first half of a surrogate pair without its second. -/
  | endOfHexEscape
  /-- Too many arrays and objects inside one another. -/
  | recursionLimit
  /-- A value of another kind. -/
  | invalidType (found : Unexpected) (expected : String)
  /-- A value outside the wanted range. -/
  | invalidValue (found : Unexpected) (expected : String)
  /-- An array of another length. -/
  | invalidLength (length : Nat) (expected : String)
  /-- A name that is none of the wanted ones. -/
  | unknownVariant (name : String) (expected : String)
  /-- A member that is not there. -/
  | missingField (name : String)
  /-- A member that is there twice. -/
  | duplicateField (name : String)
  /-- A value that its type refuses, in its own words. -/
  | refused (text : String)
  deriving DecidableEq, Repr

/-- The kinds of causes. -/
inductive Category where
  /-- The text is not a document. -/
  | syntactic
  /-- The document has another shape. -/
  | data
  /-- The text ends too early. -/
  | truncated
  deriving DecidableEq, Repr

namespace Cause

/-- The text of a cause. -/
def message : Cause → String
  | endInList => "EOF while parsing a list"
  | endInObject => "EOF while parsing an object"
  | endInString => "EOF while parsing a string"
  | endInValue => "EOF while parsing a value"
  | expectedColon => "expected `:`"
  | expectedListCommaOrEnd => "expected `,` or `]`"
  | expectedObjectCommaOrEnd => "expected `,` or `\x7d`"
  | expectedWord => "expected ident"
  | expectedValue => "expected value"
  | invalidEscape => "invalid escape"
  | invalidNumber => "invalid number"
  | numberOutOfRange => "number out of range"
  | controlCharacter => "control character (\\u0000-\\u001F) found while parsing a string"
  | keyMustBeString => "key must be a string"
  | loneSurrogate => "lone leading surrogate in hex escape"
  | trailingComma => "trailing comma"
  | trailingCharacters => "trailing characters"
  | endOfHexEscape => "unexpected end of hex escape"
  | recursionLimit => "recursion limit exceeded"
  | invalidType found expected => "invalid type: " ++ found.message ++ ", expected " ++ expected
  | invalidValue found expected => "invalid value: " ++ found.message ++ ", expected " ++ expected
  | invalidLength length expected =>
    "invalid length " ++ toString length ++ ", expected " ++ expected
  | unknownVariant name expected => "unknown variant `" ++ name ++ "`, expected " ++ expected
  | missingField name => "missing field `" ++ name ++ "`"
  | duplicateField name => "duplicate field `" ++ name ++ "`"
  | refused text => text

/-- The kind of a cause. -/
def category : Cause → Category
  | endInList | endInObject | endInString | endInValue => .truncated
  | expectedColon | expectedListCommaOrEnd | expectedObjectCommaOrEnd | expectedWord
  | expectedValue | invalidEscape | invalidNumber | numberOutOfRange | controlCharacter
  | keyMustBeString | loneSurrogate | trailingComma | trailingCharacters | endOfHexEscape
  | recursionLimit => .syntactic
  | invalidType .. | invalidValue .. | invalidLength .. | unknownVariant .. | missingField ..
  | duplicateField .. | refused .. => .data

end Cause

/-- A fault: its cause and, when a text was read, its place. -/
structure Fault where
  /-- Why the read stopped. -/
  cause : Cause
  /-- Where it stopped. -/
  position : Option Position
  deriving DecidableEq, Repr

namespace Fault

/-- A fault at a place of a text. -/
def placed (cause : Cause) (position : Position) : Fault := ⟨cause, some position⟩

/-- A fault of a value that no text is known of. -/
def unplaced (cause : Cause) : Fault := ⟨cause, none⟩

/-- The text of a fault. -/
def message (fault : Fault) : String :=
  match fault.position with
  | none => fault.cause.message
  | some position =>
    fault.cause.message ++ " at line " ++ toString position.line ++ " column " ++
      toString position.column

end Fault

end ThresholdDaemon.Json
