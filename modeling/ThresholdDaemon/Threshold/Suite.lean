import ThresholdDaemon.Curve.HashToPoint

/-!
# Groups with a pairing

A threshold scheme needs two groups of one order, a pairing of them and a point of the second for
each message. A suite gives these as operations alone; what they have to satisfy is said where it
is used. The suite of the curve has the points of its subgroups as group elements and their
compressed forms as their bytes.
-/
namespace ThresholdDaemon.Threshold

open Curve (Scalar)

/-- The operations of a group and the bytes of its elements. -/
structure Group (G : Type) where
  /-- The neutral element. -/
  zero : G
  /-- The sum of two elements. -/
  add : G → G → G
  /-- The multiple of an element. -/
  scale : Scalar → G → G
  /-- The bytes of an element. -/
  encode : G → Bytes
  /-- The element of some bytes. -/
  decode : Bytes → Option G
  /-- How many bytes an element has. -/
  size : Nat

/-- Two groups with a pairing and a point for each message. -/
structure Suite where
  /-- The elements of the group of public keys. -/
  First : Type
  /-- The elements of the group of signatures. -/
  Second : Type
  /-- The group of public keys. -/
  first : Group First
  /-- The group of signatures. -/
  second : Group Second
  /-- The element that public keys are multiples of. -/
  generator : First
  /-- Whether two pairs have the same pairing. -/
  samePairing : First → Second → First → Second → Bool
  /-- The point of a message. -/
  hash : Bytes → Second

/-- The subgroup of a curve as a group. -/
def pointGroup (F : Type) [Curve.Coordinate F] [DecidableEq F] : Group (Curve.Element F) where
  zero := .infinity
  add := Curve.Element.add
  scale n a := a.scale n.val
  encode := Curve.Element.toBytes
  decode := Curve.Element.ofBytes?
  size := Curve.Coordinate.size F

/-- The point that the public keys of the curve are multiples of. -/
def generatorPoint : Curve.FirstPoint :=
  .affine
    (Curve.Base.ofNat 0x17f1d3a73197d7942695638c4fa9ac0fc3688c4f9774b905a14e3a3f171bac586c55e83ff97a1aeffb3af00adb22c6bb)
    (Curve.Base.ofNat 0x08b3f481e3aaa0f1a09e30ed741d8ae4fcf5e095d5d00af600db18cb2c04b3edd03cc744a2888ae40caa232946c5e7e1)

/-- The element that the public keys of the curve are multiples of. -/
def curveGenerator : Curve.Element Curve.Base :=
  ⟨generatorPoint, .checked (by decide +kernel) (by decide +kernel)⟩

/-- The suite of the curve. -/
def curveSuite : Suite where
  First := Curve.Element Curve.Base
  Second := Curve.Element Curve.Quadratic
  first := pointGroup Curve.Base
  second := pointGroup Curve.Quadratic
  generator := curveGenerator
  samePairing a b c d := Curve.samePairing a.point b.point c.point d.point
  hash := Curve.hashToPoint

end ThresholdDaemon.Threshold
