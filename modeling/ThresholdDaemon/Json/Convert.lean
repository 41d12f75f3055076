import ThresholdDaemon.Allocation
import ThresholdDaemon.Json.Typed

/-!
# Values taken apart

A value that is already there is taken apart by the same rules as a text that is read, except that
no place is known of its faults and that an array of fixed length names its whole length when it
is too long.
-/
namespace ThresholdDaemon.Json

namespace Value

variable {α : Type}

/-- A value of another type stands where one is wanted. -/
def mistyped (value : Value) (expected : String) : Except Cause α :=
  .error (.invalidType value.unexpected expected)

/-- The integer from zero up to a bound that is not reached. -/
def toNatural (bound : Nat) (expected : String) : Value → Except Cause Nat
  | .number (.natural word) =>
    if word.toNat < bound then .ok word.toNat
    else .error (.invalidValue (Number.natural word).unexpected expected)
  | .number (.negative below) =>
    .error (.invalidValue (Number.negative below).unexpected expected)
  | other => other.mistyped expected

/-- The unsigned integer of 64 bits. -/
def toWord64 (value : Value) : Except Cause UInt64 :=
  UInt64.ofNat <$> value.toNatural wordCount "u64"

/-- The byte. -/
def toByte (value : Value) : Except Cause UInt8 := UInt8.ofNat <$> value.toNatural 256 "u8"

/-- The values of an array of any length. -/
def toItems (value : Value) (expected : String) : Except Cause (List Value) :=
  match value with
  | .array items => .ok items
  | other => other.mistyped expected

/-- What the elements of an array of fixed length make, each taken apart. Elements that are
missing are noticed before anything is made, and elements that are too many afterwards. -/
def toTuple {β : Type} (item : Value → Except Cause α) (length : Nat) (expected : String)
    (make : List α → Except Cause β) (value : Value) : Except Cause β := do
  let items ← value.toItems expected
  let taken ← (items.take length).mapM item
  if taken.length < length then .error (.invalidLength taken.length expected)
  else
    let made ← make taken
    if length < items.length then
      .error (.invalidLength items.length "fewer elements in array")
    else .ok made

/-- The field of a record that has no other: a member of an object or the element of an array. -/
def toOnlyField (name field : String) (item : Value → Except Cause α) (value : Value) :
    Except Cause α :=
  match value with
  | .object members =>
    match Members.get? field members with
    | some held => item held
    | none => .error (.missingField field)
  | .array [] => .error (.invalidLength 0 ("struct " ++ name ++ " with 1 element"))
  | .array (first :: more) => do
    let held ← item first
    if more.isEmpty then .ok held
    else .error (.invalidLength (more.length + 1) "fewer elements in array")
  | other => other.mistyped ("struct " ++ name)

end Value

end ThresholdDaemon.Json
