import ThresholdDaemon.Json.Literal
import ThresholdDaemon.Json.Numeral

/-!
# Values printed as text

Printing puts nothing between the parts of a document that is not needed to read it back.
-/
namespace ThresholdDaemon.Json

/-- Texts with a comma between every two. -/
def separated : List (List Char) → List Char
  | [] => []
  | [one] => one
  | one :: more => one ++ ',' :: separated more

/-- A member with its value printed. -/
def printMember (key : String) (value : List Char) : List Char :=
  Literal.print key ++ ':' :: value

/-- Printed elements as an array. -/
def printArray (items : List (List Char)) : List Char := '[' :: separated items ++ [']']

/-- Printed members as an object. -/
def printObject (members : List (String × List Char)) : List Char :=
  '\x7b' :: separated (members.map fun (key, value) => printMember key value) ++ ['\x7d']

/-- A truth value. -/
def printBool (value : Bool) : List Char := (if value then "true" else "false").toList

namespace Value

mutual

/-- The characters of a value. -/
def print : Value → List Char
  | null => "null".toList
  | bool value => printBool value
  | number value => Numeral.print value
  | text value => Literal.print value
  | array items => printArray (printItems items)
  | object members => printObject (printMembers members)

/-- The characters of each of some values. -/
def printItems : List Value → List (List Char)
  | [] => []
  | item :: rest => item.print :: printItems rest

/-- The keys and the characters of each of some members. -/
def printMembers : List (String × Value) → List (String × List Char)
  | [] => []
  | (key, value) :: rest => (key, value.print) :: printMembers rest

end

/-- The text of a value. -/
def render (value : Value) : String := String.ofList value.print

end Value

end ThresholdDaemon.Json
