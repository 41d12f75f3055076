import ThresholdDaemon.Json.Literal
import ThresholdDaemon.Json.Numeral

/-!
# Values read from a text

The reader of a value calls the reader of the values inside it with one level of nesting less;
at the last level an array or an object is refused. Elements and members are read in a loop whose
fuel is more than the characters left, and each round takes at least one. A value that nobody
wants is passed over without any limit on its nesting.
-/
namespace ThresholdDaemon.Json

/-- The levels of nesting that a text may have. -/
def depthLimit : Nat := 127

namespace Reader

variable {α : Type}

/-- Whether an element comes next in an array; a comma stands in front of all but the first. -/
def anotherItem (first : Bool) : Reader Bool := do
  match ← nextAfterBlanks? with
  | none => fail .endInList
  | some ']' => pure false
  | some ',' =>
    if first then pure true
    else
      advance
      match ← nextAfterBlanks? with
      | some ']' => failNext .trailingComma
      | none => fail .endInValue
      | some _ => pure true
  | some _ => if first then pure true else failNext .expectedListCommaOrEnd

/-- The key that comes next in an object, its opening quote taken; a comma stands in front of all
but the first. -/
def anotherKey (first : Bool) : Reader Bool := do
  match ← nextAfterBlanks? with
  | none => fail .endInObject
  | some '\x7d' => pure false
  | some c =>
    if first then
      if c = '"' then advance; pure true else failNext .keyMustBeString
    else if c = ',' then
      advance
      match ← nextAfterBlanks? with
      | some '"' => advance; pure true
      | some '\x7d' => failNext .trailingComma
      | some _ => failNext .keyMustBeString
      | none => fail .endInValue
    else failNext .expectedObjectCommaOrEnd

/-- The colon behind a key. -/
def colon : Reader Unit := do
  match ← nextAfterBlanks? with
  | some ':' => advance
  | some _ => failNext .expectedColon
  | none => fail .endInObject

/-- The end of an array. -/
def endArray : Reader Unit := do
  match ← nextAfterBlanks? with
  | some ']' => advance
  | some ',' =>
    advance
    match ← nextAfterBlanks? with
    | some ']' => failNext .trailingComma
    | _ => failNext .trailingCharacters
  | some _ => failNext .trailingCharacters
  | none => fail .endInList

/-- The end of an object. -/
def endObject : Reader Unit := do
  match ← nextAfterBlanks? with
  | some '\x7d' => advance
  | some ',' => failNext .trailingComma
  | some _ => failNext .trailingCharacters
  | none => fail .endInObject

/-- The elements of an array, behind those found so far in reverse. -/
def items (item : Reader α) : (fuel : Nat) → List α → Reader (List α)
  | 0, _ => fail .endInList
  | fuel + 1, found => do
    if ← anotherItem found.isEmpty then
      let next ← item
      items item fuel (next :: found)
    else pure found.reverse

/-- The members of an object, each folded into what is gathered so far; the reader of a member
starts behind its key. -/
def members (member : String → α → Reader α) : (fuel : Nat) → (first : Bool) → α → Reader α
  | 0, _, _ => fail .endInObject
  | fuel + 1, first, gathered => do
    if ← anotherKey first then
      let key ← Literal.read
      let gathered ← member key gathered
      members member fuel false gathered
    else pure gathered

/-- All elements of the array whose bracket comes next. -/
def array (item : Reader α) : Reader (List α) := do
  advance
  let left ← remaining
  let found ← items item (left + 1) []
  endArray
  pure found

/-- All members of the object whose brace comes next, and its end. -/
def object (member : String → α → Reader α) (start : α) : Reader α := do
  advance
  let left ← remaining
  let found ← members member (left + 1) true start
  endObject
  pure found

/-- Fail if an array or an object may not start here. -/
def nested (inner : Option (Reader α)) (use : Reader α → Reader β) : Reader β :=
  match inner with
  | none => failNext .recursionLimit
  | some inner => use inner

/-- A value, given the reader of the values inside it unless nesting ends here. -/
def valueWithin (inner : Option (Reader Value)) : Reader Value := do
  match ← nextAfterBlanks? with
  | none => fail .endInValue
  | some 'n' => advance; word ['u', 'l', 'l']; pure .null
  | some 't' => advance; word ['r', 'u', 'e']; pure (.bool true)
  | some 'f' => advance; word ['a', 'l', 's', 'e']; pure (.bool false)
  | some '"' => advance; .text <$> Literal.read
  | some '[' => nested inner fun value => .array <$> array value
  | some '\x7b' =>
    nested inner fun value =>
      .object <$> object (fun key found => do
        colon
        let held ← value
        pure (Members.insert key held found)) []
  | some c => if c = '-' || c.isDigit then .number <$> Numeral.read else failNext .expectedValue

/-- A value with at most this many levels of nesting. -/
def value : (depth : Nat) → Reader Value
  | 0 => valueWithin none
  | depth + 1 => valueWithin (some (value depth))

/-- What has been opened around a value that is passed over. -/
inductive Bracket where
  /-- An array. -/
  | array
  /-- An object. -/
  | object
  deriving DecidableEq, Repr

/-- A key and its colon, passed over; its opening quote comes next after blanks. -/
def skipKey : Reader Unit := do
  match ← nextAfterBlanks? with
  | none => fail .endInObject
  | some '"' => advance; Literal.skip
  | some _ => failNext .keyMustBeString
  match ← nextAfterBlanks? with
  | none => fail .endInObject
  | some ':' => advance
  | some _ => failNext .expectedColon

/-- Pass over what follows a value inside some brackets: a comma, which leads on to another value,
or ends of brackets. It tells the brackets around the next value, or that all are closed. -/
def skipEnds (comma : Bool) : List Bracket → Reader (List Bracket)
  | [] => pure []
  | .array :: outer => do
    match ← nextAfterBlanks? with
    | some ',' => if comma then advance; pure (.array :: outer) else pure (.array :: outer)
    | some ']' => advance; skipEnds true outer
    | some _ => if comma then failNext .expectedListCommaOrEnd else pure (.array :: outer)
    | none => fail .endInList
  | .object :: outer => do
    match ← nextAfterBlanks? with
    | some ',' => if comma then advance
    | some '\x7d' => advance; return ← skipEnds true outer
    | some _ => if comma then failNext .expectedObjectCommaOrEnd
    | none => fail .endInObject
    skipKey
    pure (.object :: outer)

/-- Pass over the value that comes next inside some brackets and over all that follows up to the
end of the outermost. -/
def skipWithin : (fuel : Nat) → List Bracket → Reader Unit
  | 0, _ => fail .endInValue
  | fuel + 1, brackets => do
    let (opened, closed) ← (do
      match ← nextAfterBlanks? with
      | none => fail .endInValue
      | some 'n' => advance; word ['u', 'l', 'l']; pure (brackets, true)
      | some 't' => advance; word ['r', 'u', 'e']; pure (brackets, true)
      | some 'f' => advance; word ['a', 'l', 's', 'e']; pure (brackets, true)
      | some '"' => advance; Literal.skip; pure (brackets, true)
      | some '[' => advance; pure (.array :: brackets, false)
      | some '\x7b' => advance; pure (.object :: brackets, false)
      | some c =>
        if c = '-' || c.isDigit then Numeral.skip; pure (brackets, true)
        else failNext .expectedValue : Reader (List Bracket × Bool))
    let left ← skipEnds closed opened
    if left.isEmpty then pure () else skipWithin fuel left

/-- Pass over one value. -/
def skip : Reader Unit := do
  let left ← remaining
  skipWithin (left + 1) []

end Reader

/-- The value of a text. -/
def Value.read (text : String) : Except Fault Value := (Reader.value depthLimit).run text

end ThresholdDaemon.Json
