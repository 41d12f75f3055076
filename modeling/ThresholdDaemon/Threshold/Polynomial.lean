import ThresholdDaemon.Threshold.Suite

/-!
# Shared secrets

A secret is the value at zero of a polynomial whose values elsewhere are the shares. The same
holds of a polynomial whose coefficients are group elements. From as many shares as there are
coefficients the value at zero is found by interpolation.
-/
namespace ThresholdDaemon.Threshold

open Curve (Scalar inverse)

/-- The value of a polynomial, given by its coefficients from the constant term on. -/
def evaluate (coefficients : List Scalar) (x : Scalar) : Scalar :=
  coefficients.foldr (fun coefficient value => coefficient + x * value) 0

/-- Where the share with a number is taken. -/
def sharePoint (id : UInt64) : Scalar := Scalar.ofNat (id.toNat + 1)

/-- The product of the differences between the other points and `x`. -/
def differences (points : List Scalar) (x : Scalar) : Scalar :=
  (points.filter (· ≠ x)).foldr (fun other product => (other - x) * product) 1

/-- The factor of the value at `x` in the value at zero, given all points. -/
def weight (points : List Scalar) (x : Scalar) : Scalar :=
  (points.filter (· ≠ x)).foldr (· * ·) 1 * inverse (differences points x)

namespace Group

variable {G : Type}

/-- The value of a polynomial whose coefficients are group elements. -/
def evaluate (group : Group G) (coefficients : List G) (x : Scalar) : G :=
  coefficients.foldr (fun coefficient value => group.add coefficient (group.scale x value))
    group.zero

/-- The value at zero of the polynomial with given values. -/
def interpolate (group : Group G) (samples : List (Scalar × G)) : G :=
  let points := samples.map (·.1)
  samples.foldr (fun (x, value) sum => group.add (group.scale (weight points x) value) sum)
    group.zero

end Group

end ThresholdDaemon.Threshold
