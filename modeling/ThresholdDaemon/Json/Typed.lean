import ThresholdDaemon.Allocation
import ThresholdDaemon.Json.Read

/-!
# Reads of a wanted type

A reader that wants a certain type of value names it when something else stands there, which it
reads as far as needed to name it too. A record is read from an object, whose unknown members are
passed over, or from an array of its fields in order. A fault of a record as a whole is placed
where the reader stands once it has tried to close the record.
-/
namespace ThresholdDaemon.Json

/-- A value as a message names it. -/
def Value.unexpected : Value → Unexpected
  | .null => .null
  | .bool value => .boolean value
  | .number value => value.unexpected
  | .text value => .text value
  | .array _ => .sequence
  | .object _ => .map

namespace Reader

variable {α ρ : Type}

/-- Another type of value stands where one is wanted. -/
def mistyped (expected : String) : Reader α := do
  let found ← (do
    match ← next? with
    | some 'n' => advance; word ['u', 'l', 'l']; pure .null
    | some 't' => advance; word ['r', 'u', 'e']; pure (.boolean true)
    | some 'f' => advance; word ['a', 'l', 's', 'e']; pure (.boolean false)
    | some '"' => advance; .text <$> Literal.read
    | some '[' => pure .sequence
    | some '\x7b' => pure .map
    | some c =>
      if c = '-' || c.isDigit then Number.unexpected <$> Numeral.read
      else failNext .expectedValue
    | none => fail .endInValue : Reader Unexpected)
  fail (.invalidType found expected)

/-- An integer from zero up to a bound that is not reached. -/
def natural (bound : Nat) (expected : String) : Reader Nat := do
  match ← nextAfterBlanks? with
  | none => fail .endInValue
  | some c =>
    if c = '-' || c.isDigit then
      let number ← Numeral.read
      match number with
      | .natural value =>
        if value.toNat < bound then pure value.toNat
        else fail (.invalidValue number.unexpected expected)
      | .negative _ => fail (.invalidValue number.unexpected expected)
      | .double _ => fail (.invalidType number.unexpected expected)
    else mistyped expected

/-- An unsigned integer of 32 bits. -/
def word32 : Reader UInt32 := UInt32.ofNat <$> natural 4294967296 "u32"

/-- An unsigned integer of 64 bits. -/
def word64 : Reader UInt64 := UInt64.ofNat <$> natural wordCount "u64"

/-- A count of things. -/
def count : Reader UInt64 := UInt64.ofNat <$> natural wordCount "usize"

/-- A truth value. -/
def bool : Reader Bool := do
  match ← nextAfterBlanks? with
  | none => fail .endInValue
  | some 't' => advance; word ['r', 'u', 'e']; pure true
  | some 'f' => advance; word ['a', 'l', 's', 'e']; pure false
  | some _ => mistyped "a boolean"

/-- A text, under the name that messages give it. -/
def textNamed (expected : String) : Reader String := do
  match ← nextAfterBlanks? with
  | none => fail .endInValue
  | some '"' => advance; Literal.read
  | some _ => mistyped expected

/-- A text. -/
def text : Reader String := textNamed "a string"

/-- Go one level of nesting deeper. -/
def deeper (depth : Nat) (inner : Nat → Reader α) : Reader α :=
  match depth with
  | 0 => failNext .recursionLimit
  | depth + 1 => inner depth

/-- Elements of one type; the reader of an element is given the levels of nesting left to it. -/
def list (item : Nat → Reader α) (depth : Nat) : Reader (List α) := do
  match ← nextAfterBlanks? with
  | none => fail .endInValue
  | some '[' => deeper depth fun depth => array (item depth)
  | some _ => mistyped "a sequence"

/-- Close an object if it can be closed here, and fail. -/
def closeAndFail (cause : Cause) : Reader α := do
  if (← nextAfterBlanks?) = some '\x7d' then advance
  fail cause

end Reader

/-- A field of a record whose fields are gathered in `ρ`. -/
structure Field (ρ : Type) where
  /-- The key of the field. -/
  name : String
  /-- Whether the field has been gathered. -/
  present : ρ → Bool
  /-- Read the field, with some levels of nesting left. -/
  read : (depth : Nat) → ρ → Reader ρ

/-- How a record `α` is read. -/
structure Shape (ρ α : Type) where
  /-- The name of the record in messages. -/
  name : String
  /-- The fields in order. -/
  fields : List (Field ρ)
  /-- No field gathered. -/
  start : ρ
  /-- The record of its fields, or the first one that is missing. -/
  finish : ρ → Except Cause α

namespace Shape

variable {α ρ : Type}

/-- What a message calls an array of the fields. -/
def arrayText (shape : Shape ρ α) : String :=
  "struct " ++ shape.name ++ " with " ++ toString shape.fields.length ++
    (if shape.fields.length = 1 then " element" else " elements")

/-- The fields as elements of an array, `index` of them behind. -/
def elements (shape : Shape ρ α) (depth : Nat) :
    (index : Nat) → List (Field ρ) → ρ → Reader ρ
  | _, [], gathered => pure gathered
  | index, field :: more, gathered => do
    if ← Reader.anotherItem (index = 0) then
      let gathered ← field.read depth gathered
      elements shape depth (index + 1) more gathered
    else
      Reader.endArray
      Reader.fail (.invalidLength index shape.arrayText)

/-- One member of an object, its key taken. -/
def member (shape : Shape ρ α) (depth : Nat) (key : String) (gathered : ρ) : Reader ρ := do
  match shape.fields.find? (·.name = key) with
  | none =>
    Reader.colon
    Reader.skip
    pure gathered
  | some field =>
    if field.present gathered then Reader.closeAndFail (.duplicateField key)
    else
      Reader.colon
      field.read depth gathered

/-- A record with at most this many levels of nesting. -/
def read (shape : Shape ρ α) (depth : Nat) : Reader α := do
  match ← Reader.nextAfterBlanks? with
  | none => Reader.fail .endInValue
  | some '[' =>
    Reader.deeper depth fun depth => do
      Reader.advance
      let gathered ← elements shape depth 0 shape.fields shape.start
      Reader.endArray
      done gathered
  | some '\x7b' =>
    Reader.deeper depth fun depth => do
      let gathered ← Reader.object (shape.member depth) shape.start
      done gathered
  | some _ => Reader.mistyped ("struct " ++ shape.name)
where
  /-- The record of the gathered fields. -/
  done (gathered : ρ) : Reader α :=
    match shape.finish gathered with
    | .ok record => pure record
    | .error cause => Reader.fail cause

end Shape

end ThresholdDaemon.Json
