import ThresholdDaemon.Allocation
import ThresholdDaemon.Json.Convert
import ThresholdDaemon.Provider
import ThresholdDaemon.Threshold.Suite

/-!
# Keys and signatures as material

A public key is an object that holds the multiples of the generator by the coefficients of the
secret polynomial. A secret share is an array of four words, the least significant first. A share
of a signature is the array of the bytes of its point.
-/
namespace ThresholdDaemon.Threshold

open Curve (Scalar)
open Json (Value Cause)

/-- The bytes of something as an array of numbers. -/
def bytesValue (bytes : Bytes) : Value := .array (bytes.map fun byte => .ofNat byte.toNat)

namespace Group

variable {G : Type}

/-- A group element as an array of its bytes. -/
def toValue (group : Group G) (element : G) : Value := bytesValue (group.encode element)

/-- The group element of an array of bytes. -/
def ofValue (group : Group G) (value : Value) : Except Cause G :=
  value.toTuple Value.toByte group.size ("a tuple of size " ++ toString group.size) fun bytes =>
    match group.decode bytes with
    | some element => .ok element
    | none => .error (.refused "deserialized bytes don't encode a group element")

end Group

/-- The four words of a scalar, the least significant first. -/
def limbs (scalar : Scalar) : List UInt64 :=
  (List.range 4).map fun i => UInt64.ofNat (scalar.val / Nat.pow wordCount i)

/-- The number of some words, the least significant first. -/
def ofLimbs (words : List UInt64) : Nat :=
  words.foldr (fun word number => word.toNat + wordCount * number) 0

/-- A scalar as an array of its words. -/
def scalarValue (scalar : Scalar) : Value := .array ((limbs scalar).map Value.ofWord)

/-- The scalar of an array of words. -/
def scalarOfValue (value : Value) : Except Cause Scalar := do
  let words ← value.toTuple Value.toWord64 4 "an array of length 4" .ok
  if h : ofLimbs words < Curve.groupOrder then .ok ⟨ofLimbs words, h⟩
  else .error (.refused
    "invalid value: Number outside of prime field., expected Valid prime field element.")

/-- The public key of some group elements. -/
def publicKeyValue (suite : Suite) (commitment : List suite.First) : Value :=
  .object [("commit", .object [("coeff", .array (commitment.map suite.first.toValue))])]

/-- The group elements of a public key. -/
def commitmentOfValue (suite : Suite) : Value → Except Cause (List suite.First) :=
  Value.toOnlyField "PublicKeySet" "commit" <|
    Value.toOnlyField "Commitment" "coeff" fun value => do
      (← value.toItems "a sequence").mapM suite.first.ofValue

/-- Take material apart. -/
def readMaterial {α : Type} (what : MaterialKind) (read : Value → Except Cause α)
    (material : Material) : Except ProviderError α :=
  (read material).mapError fun cause => .malformedMaterial what (.unplaced cause)

end ThresholdDaemon.Threshold
