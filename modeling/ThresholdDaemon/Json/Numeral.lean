import ThresholdDaemon.Allocation
import ThresholdDaemon.Decimal.Shortest
import ThresholdDaemon.Json.Cursor
import ThresholdDaemon.Json.Value

/-!
# Numbers of a document

A number without fraction and exponent that fits a machine word is that integer, zero with a sign
excepted. Every other number is a double: its digits are gathered in an unsigned machine word, of
which digits that no longer fit are dropped, and the word, rounded to a double, is multiplied or
divided by a power of ten. A double is printed with its shortest digits.
-/
namespace ThresholdDaemon.Json

/-- The value of a decimal digit. -/
def digit? (c : Char) : Option Nat :=
  if c.isDigit then some (c.toNat - '0'.toNat) else none

namespace Numeral

/-- The decimal digits at the front of a text, and what is behind them. -/
def splitDigits : List Char → List Nat × List Char
  | [] => ([], [])
  | c :: rest =>
    match digit? c with
    | none => ([], c :: rest)
    | some digit =>
      let (digits, left) := splitDigits rest
      (digit :: digits, left)

/-- Take all decimal digits that come next. -/
def digits : Reader (List Nat) := fun cursor =>
  let (found, left) := splitDigits cursor.rest
  .ok (found, ⟨left, ⟨cursor.position.line, cursor.position.column + found.length⟩⟩)

/-- Append digits to a significand as long as it fits a word; the digits left over come second. -/
def gather (limit significand : Nat) : List Nat → Nat × List Nat
  | [] => (significand, [])
  | digit :: rest =>
    let next := significand * 10 + digit
    if limit < next then (significand, digit :: rest) else gather limit next rest

/-- The largest significand. -/
def significandMax : Nat := wordMax

/-- The largest exponent that is written out. -/
def exponentMax : Nat := 2147483647

/-- The double of a power of ten. -/
def powerOfTen (exponent : Nat) : Float := Float.ofScientific 1 false exponent

/-- The exponent of the largest power of ten among the doubles. -/
def powerMax : Nat := 308

/-- Divide by a power of ten, in steps that are doubles, until nothing is left. -/
def divide (value : Float) (exponent : Nat) : Float :=
  if exponent ≤ powerMax then value / powerOfTen exponent
  else if value == 0 then value
  else divide (value / powerOfTen powerMax) (exponent - powerMax)
termination_by exponent
decreasing_by simp [powerMax] at *; omega

/-- A significand times a power of ten; none beyond the range of doubles. -/
def scale? (significand : Nat) (exponent : Int) : Option Float :=
  let value := (UInt64.ofNat significand).toFloat
  match exponent with
  | .ofNat up =>
    if up ≤ powerMax then
      let product := value * powerOfTen up
      if product.isInf then none else some product
    else if value == 0 then some value
    else none
  | .negSucc below => some (divide value (below + 1))

/-- A double with its sign. -/
def signed (negative : Bool) (value : Float) : Number :=
  .double (if negative then -value else value).toBits

/-- The double of a sign, a significand and an exponent. -/
def assemble (negative : Bool) (significand : Nat) (exponent : Int) : Reader Number :=
  match scale? significand exponent with
  | some value => pure (signed negative value)
  | none => Reader.fail .numberOutOfRange

/-- The number of a sign and a significand. -/
def whole (negative : Bool) (significand : Nat) : Number :=
  if negative then
    match significand with
    | 0 => signed true 0
    | predecessor + 1 =>
      if h : predecessor < halfWordCount then .negative ⟨predecessor, h⟩
      else signed true (UInt64.ofNat significand).toFloat
  else .natural (UInt64.ofNat significand)

/-- The digits of an exponent that is too large to be written out: the place is right behind the
first digit that is too much. -/
def hugeExponent (negative : Bool) (significand : Nat) (down : Bool) (fitting : Nat) :
    Reader Number := fun cursor =>
  if significand = 0 || down then
    (digits cursor).map fun (_, cursor) => (signed negative 0, cursor)
  else
    .error (.placed .numberOutOfRange
      ⟨cursor.position.line, cursor.position.column + fitting + 1⟩)

/-- The exponent whose letter comes next, added to the one so far. -/
def exponent (negative : Bool) (significand : Nat) (so_far : Int) : Reader Number := do
  Reader.advance
  let sign ← Reader.next?
  if sign = some '+' ∨ sign = some '-' then Reader.advance
  let down := sign = some '-'
  match ← Reader.next? with
  | none => Reader.fail .endInValue
  | some c =>
    if c.isDigit then
      let before ← get
      let found ← digits
      match gather exponentMax 0 found with
      | (size, []) => assemble negative significand (if down then so_far - size else so_far + size)
      | (_, dropped) =>
        set before
        hugeExponent negative significand down (found.length - dropped.length)
    else Reader.failNext .invalidNumber

/-- A letter that starts an exponent. -/
def isExponentMark (c : Option Char) : Bool := c = some 'e' || c = some 'E'

/-- What may follow the digits in front of the exponent. -/
def afterDigits (negative : Bool) (significand : Nat) (so_far : Int) : Reader Number := do
  if isExponentMark (← Reader.next?) then exponent negative significand so_far
  else assemble negative significand so_far

/-- The fraction whose point comes next. -/
def fraction (negative : Bool) (significand : Nat) (so_far : Int) : Reader Number := do
  Reader.advance
  match ← digits with
  | [] =>
    match ← Reader.next? with
    | none => Reader.fail .endInValue
    | some _ => Reader.failNext .invalidNumber
  | found =>
    let (gathered, dropped) := gather significandMax significand found
    afterDigits negative gathered (so_far - (found.length - dropped.length : Nat))

/-- The number whose sign is taken. -/
def unsigned (negative : Bool) : Reader Number := do
  match ← Reader.next? with
  | none => Reader.fail .endInValue
  | some '0' =>
    Reader.advance
    match ← Reader.next? with
    | some '.' => fraction negative 0 0
    | some c =>
      if c.isDigit then Reader.failNext .invalidNumber
      else if isExponentMark (some c) then exponent negative 0 0
      else pure (whole negative 0)
    | none => pure (whole negative 0)
  | some c =>
    if c.isDigit then
      let (significand, dropped) := gather significandMax 0 (← digits)
      match ← Reader.next? with
      | some '.' => fraction negative significand dropped.length
      | next =>
        if isExponentMark next then exponent negative significand dropped.length
        else if dropped.isEmpty then pure (whole negative significand)
        else assemble negative significand dropped.length
    else Reader.failNext .invalidNumber

/-- The number that comes next. -/
def read : Reader Number := do
  if (← Reader.next?) = some '-' then
    Reader.advance
    unsigned true
  else unsigned false

/-- At least one digit, passed over. -/
def skipDigits : Reader Unit := do
  match ← digits with
  | [] => Reader.failNext .invalidNumber
  | _ => pure ()

/-- Pass over the exponent whose letter comes next. -/
def skipExponent : Reader Unit := do
  Reader.advance
  let sign ← Reader.next?
  if sign = some '+' ∨ sign = some '-' then Reader.advance
  skipDigits

/-- Pass over the fraction whose point comes next. -/
def skipFraction : Reader Unit := do
  Reader.advance
  skipDigits
  if isExponentMark (← Reader.next?) then skipExponent

/-- Pass over the number that comes next; it may be too large. -/
def skip : Reader Unit := do
  if (← Reader.next?) = some '-' then Reader.advance
  match ← Reader.next? with
  | some '0' =>
    Reader.advance
    match ← Reader.next? with
    | some c => if c.isDigit then Reader.failNext .invalidNumber else pure ()
    | none => pure ()
  | some c => if c.isDigit then let _ ← digits else Reader.failNext .invalidNumber
  | none => Reader.fail .invalidNumber
  let next ← Reader.next?
  if next = some '.' then skipFraction
  else if isExponentMark next then skipExponent

/-- The place of the first digit of a number in scientific form. -/
def leadingExponent (number : Decimal.Scientific) : Int :=
  number.exponent + (Decimal.digitCount number.digits : Int) - 1

/-- Zeros. -/
def zeros (count : Nat) : List Char := List.replicate count '0'

/-- The digits of a number. -/
def decimal (n : Nat) : List Char := Nat.toDigits 10 n

/-- A number of which the first digit is at a place near the point: written out, with at least
one digit behind the point. -/
def positional (number : Decimal.Scientific) : List Char :=
  let digits := decimal number.digits
  let leading := leadingExponent number
  if 0 ≤ number.exponent then digits ++ zeros number.exponent.toNat ++ ['.', '0']
  else if 0 ≤ leading then
    let before := leading.toNat + 1
    digits.take before ++ '.' :: digits.drop before
  else ['0', '.'] ++ zeros (-leading - 1).toNat ++ digits

/-- A number far from one: one digit before the point, and the sign of the exponent always. -/
def scientific (number : Decimal.Scientific) : List Char :=
  let leading := leadingExponent number
  let sign := if leading < 0 then '-' else '+'
  let mantissa :=
    match decimal number.digits with
    | [] => []
    | [digit] => [digit]
    | digit :: more => digit :: '.' :: more
  mantissa ++ 'e' :: sign :: decimal leading.natAbs

/-- A double without its sign: written out when its first digit stands within five places behind
and sixteen before the point. -/
def magnitude (bits : UInt64) : List Char :=
  if bits = 0 then ['0', '.', '0']
  else
    let number := Decimal.shortest bits
    let leading := leadingExponent number
    if -5 ≤ leading ∧ leading ≤ 15 then positional number else scientific number

/-- The bit of the sign. -/
def signBit : UInt64 := 0x8000000000000000

/-- A finite double. -/
def printDouble (bits : UInt64) : List Char :=
  if bits &&& signBit = 0 then magnitude bits else '-' :: magnitude (bits ^^^ signBit)

/-- A number. -/
def print : Number → List Char
  | .natural value => decimal value.toNat
  | .negative predecessor => '-' :: decimal (predecessor.val + 1)
  | .double bits => printDouble bits

end Numeral

/-- A number as a message names it. -/
def Number.unexpected : Number → Unexpected
  | .natural value => .integer value.toNat
  | .negative predecessor => .integer (-(predecessor.val : Int) - 1)
  | .double bits => .fraction (String.ofList (Numeral.printDouble bits))

end ThresholdDaemon.Json
