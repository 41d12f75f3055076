import ThresholdDaemon.Allocation

/-!
# Counts read from text

A count is written in decimal digits, with an optional plus sign in front, and has to fit a
machine word.
-/
namespace ThresholdDaemon

/-- Why a text is no count. -/
inductive CountFault where
  /-- There is nothing. -/
  | empty
  /-- A character is no digit. -/
  | notADigit
  /-- The number does not fit a word. -/
  | tooLarge
  /-- The number is zero. -/
  | zero
  deriving DecidableEq, Repr

/-- The text of the fault. -/
def CountFault.message : CountFault → String
  | empty => "cannot parse integer from empty string"
  | notADigit => "invalid digit found in string"
  | tooLarge => "number too large to fit in target type"
  | zero => "0 is not in 1..18446744073709551615"

/-- The number of some digits behind those of `soFar`, checked digit by digit. -/
def countDigits (soFar : Nat) : List Char → Except CountFault Nat
  | [] => .ok soFar
  | c :: rest =>
    if c.isDigit then
      let next := soFar * 10 + (c.toNat - '0'.toNat)
      if next < wordCount then countDigits next rest else .error .tooLarge
    else .error .notADigit

/-- The number of a text with an optional plus sign. -/
def countText : List Char → Except CountFault Nat
  | [] => .error .empty
  | ['+'] => .error .notADigit
  | '+' :: digits => countDigits 0 digits
  | digits => countDigits 0 digits

/-- A count from one up. -/
def readCount (text : String) : Except CountFault UInt64 := do
  let count ← countText text.toList
  if count = 0 then .error .zero else .ok (UInt64.ofNat count)

end ThresholdDaemon
