import ThresholdDaemon.Digest.Sha3
import ThresholdDaemon.Threshold.Provider

/-!
# Coins of a seed

Coins are digests of a seed and their place, twice as long as a scalar, so that taking the
remainder favours no scalar by much.
-/
namespace ThresholdDaemon.Threshold

/-- The eight low bytes of a number, least significant first. -/
def placeBytes (place : Nat) : Bytes :=
  (List.range 8).map fun index => UInt8.ofNat (place / Nat.pow 256 index)

/-- The coin of a seed at a place. -/
def coinOf (seed : Bytes) (place : Nat) : Curve.Scalar :=
  let half (mark : UInt8) : Bytes := Digest.sha3 (mark :: placeBytes place ++ seed)
  Curve.Scalar.ofNat ((half 0 ++ half 1).foldl (fun number byte => number * 256 + byte.toNat) 0)

/-- The coins of a seed. -/
def coinsOf (seed : Bytes) : Coins := coinOf seed

end ThresholdDaemon.Threshold
