import ThresholdDaemon.Json.Fault

/-!
# Reading a document

A reader looks at what is left of a text, takes characters off its front and keeps count of the
place it has come to. A fault is placed either at the characters taken or at the byte that was
only looked at.
-/
namespace ThresholdDaemon.Json

/-- What is left of a text and the place where it starts. -/
structure Cursor where
  /-- The characters not taken yet. -/
  rest : List Char
  /-- The place behind the characters taken. -/
  position : Position

namespace Cursor

/-- The start of a text. -/
def start (text : List Char) : Cursor := ⟨text, .start⟩

/-- The first byte of a character's UTF-8 form is a line feed only if the character is one. -/
def firstByteEndsLine (c : Char) : Bool := c = '\n'

/-- The place behind the next byte, or the place itself at the end of the text. -/
def peekPosition (cursor : Cursor) : Position :=
  match cursor.rest with
  | [] => cursor.position
  | c :: _ =>
    if firstByteEndsLine c then ⟨cursor.position.line + 1, 0⟩
    else ⟨cursor.position.line, cursor.position.column + 1⟩

/-- Take one character. -/
def advance (cursor : Cursor) : Cursor :=
  match cursor.rest with
  | [] => cursor
  | c :: rest => ⟨rest, cursor.position.after c⟩

/-- A character between the parts of a document. -/
def isBlank (c : Char) : Bool := c = ' ' || c = '\n' || c = '\t' || c = '\r'

/-- Skip blanks from a place. -/
def skipBlanksFrom (position : Position) : List Char → Cursor
  | [] => ⟨[], position⟩
  | c :: rest =>
    if isBlank c then skipBlanksFrom (position.after c) rest else ⟨c :: rest, position⟩

/-- Skip blanks. -/
def skipBlanks (cursor : Cursor) : Cursor := skipBlanksFrom cursor.position cursor.rest

end Cursor

/-- A step of a read: it takes characters and gives a result, or meets a fault. -/
abbrev Reader := StateT Cursor (Except Fault)

namespace Reader

variable {α : Type}

/-- A fault behind the characters taken. -/
def fail (cause : Cause) : Reader α := fun cursor => .error (.placed cause cursor.position)

/-- A fault at the byte that comes next. -/
def failNext (cause : Cause) : Reader α := fun cursor => .error (.placed cause cursor.peekPosition)

/-- The next character, not taken. -/
def next? : Reader (Option Char) := fun cursor => .ok (cursor.rest.head?, cursor)

/-- The next character after blanks, not taken. -/
def nextAfterBlanks? : Reader (Option Char) := fun cursor =>
  let cursor := cursor.skipBlanks
  .ok (cursor.rest.head?, cursor)

/-- Take one character. -/
def advance : Reader Unit := fun cursor => .ok ((), cursor.advance)

/-- The number of characters left. -/
def remaining : Reader Nat := fun cursor => .ok (cursor.rest.length, cursor)

/-- The rest of a word whose first character is taken. -/
def word : List Char → Reader Unit
  | [] => pure ()
  | expected :: more => do
    match ← next? with
    | none => fail .endInValue
    | some c => if c = expected then advance; word more else failNext .expectedWord

/-- Whatever is behind the value must be blank. -/
def finish (value : α) : Reader α := do
  match ← nextAfterBlanks? with
  | none => pure value
  | some _ => failNext .trailingCharacters

/-- Read a whole text. -/
def run (reader : Reader α) (text : String) : Except Fault α := do
  let value ← StateT.run (do let value ← reader; finish value) (.start text.toList)
  pure value.1

end Reader

end ThresholdDaemon.Json
