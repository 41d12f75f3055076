import ThresholdDaemon.Allocation
import ThresholdDaemon.Threshold.Material
import ThresholdDaemon.Threshold.Polynomial

/-!
# The threshold provider

Keys are dealt by sharing a random polynomial: the group key holds its coefficients in the group
of public keys, and each key share is one of its values. A signature share is the point of the
message times the key share, which the pairing checks against the value of the public polynomial.
All shares are checked, and then as many as there are coefficients are combined to the signature,
which is checked against the public key.
-/
namespace ThresholdDaemon.Threshold

open Curve (Scalar)

/-- The coins that polynomials are drawn from. -/
abbrev Coins := Nat → Scalar

/-- The next coins. -/
def draw (count : Nat) : StateM Coins (List Scalar) := fun coins =>
  ((List.range count).map coins, fun n => coins (count + n))

/-- The sizes of keys on offer. The curve is always the same; the size is only noted. -/
def keySizes : List UInt32 := [512, 1024, 2048, 3072, 4096]

/-- The most shares that are dealt. -/
def maxShares : UInt64 := 1024

/-- The bytes of a signature share. -/
def signatureSize : Nat := 96

/-- The most bytes of a signature share as text: three digits and a separator for each byte, and
the brackets. -/
def signatureLengthBound : Nat := signatureSize * 4 + 1

variable (suite : Suite)

/-- The keys of a polynomial. -/
def keysOf (keySize : UInt32) (l k : UInt64) (polynomial : List Scalar) : DealtKeys where
  groupKey :=
    { k, l, keySize
      key := publicKeyValue suite
        (polynomial.map fun coefficient => suite.first.scale coefficient suite.generator) }
  shares := (List.range l.toNat).map fun index =>
    let id := UInt64.ofNat index
    ⟨id, scalarValue (evaluate polynomial (sharePoint id))⟩

/-- Deal keys. -/
def deal (keySize : UInt32) (l k : UInt64) : StateM Coins (Outcome DealtKeys) := do
  if ¬ keySizes.contains keySize then return .refuses (.unsupportedKeySize keySize)
  if k = 0 ∨ l < k ∨ maxShares < l then return .refuses (.invalidThreshold k l)
  return .returns (keysOf suite keySize l k (← draw k.toNat))

/-- Sign a message with a key share. -/
def sign (share : KeyShare) (msg : Bytes) : Except ProviderError SignatureShare := do
  let secret ← readMaterial .keyShare scalarOfValue share.share
  return ⟨share.id, suite.second.toValue (suite.second.scale secret (suite.hash msg))⟩

/-- The points of signature shares, by their numbers. The first share that is out of range, there
twice or unreadable is refused. -/
def readShares (l : UInt64) : (seen : List UInt64) → List SignatureShare →
    Except ProviderError (List (UInt64 × suite.Second))
  | _, [] => .ok []
  | seen, share :: rest =>
    if ¬ share.id < l then .error (.shareOutOfRange share.id l)
    else if seen.contains share.id then .error (.duplicateShare share.id)
    else do
      let point ← readMaterial .signatureShare suite.second.ofValue share.signature
      return (share.id, point) :: (← readShares l (share.id :: seen) rest)

/-- A point is the signature, under a public key, of the message with a given point. -/
def signs (publicKey : suite.First) (hashed signature : suite.Second) : Bool :=
  suite.samePairing publicKey hashed suite.generator signature

/-- A point is the share of a signature that belongs to a number. -/
def shareSigns (commitment : List suite.First) (hashed : suite.Second)
    (share : UInt64 × suite.Second) : Bool :=
  signs suite (suite.first.evaluate commitment (sharePoint share.1)) hashed share.2

/-- What is said of too few shares. -/
def tooFewShares : String := "Not enough signature shares"

/-- What is said of shares that are taken at one point. -/
def repeatedPoint : String := "Signature shares contain a duplicated index"

/-- Combine as many shares as are required, unless the differences of their points cannot be
divided by. -/
def combine (required : Nat) (shares : List (UInt64 × suite.Second)) :
    Except ProviderError suite.Second :=
  if shares.length < required then .error (.combine tooFewShares)
  else
    let samples := (shares.take required).map fun (id, point) => (sharePoint id, point)
    let points := samples.map (·.1)
    if points.any fun x => differences points x = 0 then .error (.combine repeatedPoint)
    else .ok (suite.second.interpolate samples)

/-- Verify signature shares under the coefficients of a public key, whose number is that of the
shares it needs. -/
def verifyUnder (commitment : List suite.First) (groupKey : GroupKey)
    (shares : List SignatureShare) (msg : Bytes) : Except ProviderError Bool := do
  let required := UInt64.ofNat commitment.length
  if required ≠ groupKey.k then .error (.thresholdMismatch groupKey.k required)
  let points ← readShares suite groupKey.l [] shares
  let hashed := suite.hash msg
  if ¬ points.all (shareSigns suite commitment hashed) then return false
  let signature ← combine suite commitment.length points
  return signs suite (commitment.headD suite.first.zero) hashed signature

/-- The outcome of a call that does not panic. -/
def settled {α : Type} : Except ProviderError α → Outcome α
  | .ok value => .returns value
  | .error error => .refuses error

/-- The text of the panic at a number that would lie below zero. -/
def underflowPanic : String := "attempt to subtract with overflow"

/-- Verify signature shares. A public key without a coefficient has no degree, which is one less
than the number of coefficients, so that asking for its degree panics. -/
def verify (groupKey : GroupKey) (shares : List SignatureShare) (msg : Bytes) : Outcome Bool :=
  match readMaterial .groupKey (commitmentOfValue suite) groupKey.key with
  | .error error => .refuses error
  | .ok [] => .panics underflowPanic
  | .ok commitment => settled (verifyUnder suite commitment groupKey shares msg)

/-- The provider of a suite. -/
def provider : Provider Coins where
  deal := deal suite
  sign share msg := pure (settled (sign suite share msg))
  verify groupKey shares msg := pure (verify suite groupKey shares msg)
  signatureLengthBound := signatureLengthBound

/-- The provider of the curve. -/
def curveProvider : Provider Coins := provider curveSuite

end ThresholdDaemon.Threshold
