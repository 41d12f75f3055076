import ThresholdDaemon.Allocation

/-!
# Values of a document

A document holds null, truth values, numbers, texts, arrays and objects. An integer that fits a
signed or unsigned machine word is kept exactly; every other number is a double, kept by its
bits. The members of an object stand in the order of their keys, and `Members.insert` keeps it:
of two members with one key the later stays.
-/
namespace ThresholdDaemon.Json

/-- A number of a document. -/
inductive Number where
  /-- An integer that is not negative. -/
  | natural (value : UInt64)
  /-- The integer `-(predecessor + 1)`. -/
  | negative (predecessor : Fin halfWordCount)
  /-- Any other number: a double by its bits. -/
  | double (bits : UInt64)
  deriving DecidableEq, Repr

namespace Number

/-- The integer that a number is, unless it is a double. -/
def toInt? : Number → Option Int
  | natural value => some value.toNat
  | negative predecessor => some (-(predecessor.val : Int) - 1)
  | double _ => none

end Number

/-- A value of a document. -/
inductive Value where
  /-- Nothing. -/
  | null
  /-- A truth value. -/
  | bool (value : Bool)
  /-- A number. -/
  | number (value : Number)
  /-- A text. -/
  | text (value : String)
  /-- Values in order. -/
  | array (items : List Value)
  /-- Values under keys. -/
  | object (members : List (String × Value))
  deriving Repr, Inhabited

namespace Value

/-- The number of a machine word. -/
def ofWord (word : UInt64) : Value := number (.natural word)

/-- The number of a count. -/
def ofNat (n : Nat) : Value := ofWord (UInt64.ofNat n)

end Value

/-- The members of an object. -/
abbrev Members := List (String × Value)

/-- Members in the order of their keys with one more; it takes the place of one with its key. -/
def Members.insert (key : String) (value : Value) : Members → Members
  | [] => [(key, value)]
  | (other, held) :: rest =>
    if key < other then (key, value) :: (other, held) :: rest
    else if key = other then (key, value) :: rest
    else (other, held) :: Members.insert key value rest

/-- The members given in any order, the last of each key. -/
def Members.ofList (members : List (String × Value)) : Members :=
  members.foldl (fun sorted (key, value) => Members.insert key value sorted) []

/-- The value under a key. -/
def Members.get? (key : String) : Members → Option Value
  | [] => none
  | (other, value) :: rest => if key = other then some value else Members.get? key rest

namespace Value

mutual

/-- How deep arrays and objects are nested in a value. -/
def depth : Value → Nat
  | null | bool _ | number _ | text _ => 0
  | array items => depthItems items + 1
  | object members => depthMembers members + 1

/-- The depth of the deepest of some values. -/
def depthItems : List Value → Nat
  | [] => 0
  | item :: rest => max item.depth (depthItems rest)

/-- The depth of the deepest of some members. -/
def depthMembers : List (String × Value) → Nat
  | [] => 0
  | (_, value) :: rest => max value.depth (depthMembers rest)

end

/-- Keys in strictly ascending order. -/
def Ascending : List (String × Value) → Prop
  | [] | [_] => True
  | (first, _) :: (second, value) :: rest => first < second ∧ Ascending ((second, value) :: rest)

mutual

/-- A value whose numbers are integers and whose objects have their keys in order: one that
printing and reading keep exactly. -/
def Exact : Value → Prop
  | null | bool _ | text _ => True
  | number value => value.toInt?.isSome
  | array items => ExactItems items
  | object members => Ascending members ∧ ExactMembers members

/-- All of some values are exact. -/
def ExactItems : List Value → Prop
  | [] => True
  | item :: rest => item.Exact ∧ ExactItems rest

/-- All values of some members are exact. -/
def ExactMembers : List (String × Value) → Prop
  | [] => True
  | (_, value) :: rest => value.Exact ∧ ExactMembers rest

end

end Value

end ThresholdDaemon.Json
