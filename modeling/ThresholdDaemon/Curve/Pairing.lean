import ThresholdDaemon.Curve.Point

/-!
# The pairing

The pairing of a point of the curve with a point of its twist is a number of the target field. It
is found by following the multiples of the second point up to the parameter of the curve: each
step gives the line through two multiples, whose value at the first point is multiplied in. A
power takes the product into the subgroup whose order is the group order. Factors in smaller
fields do not count, because the power takes them to one, and neither does a fixed power prime to
the group order when pairings are only compared.
-/
namespace ThresholdDaemon.Curve

/-- The points of the curve over the base field. -/
abbrev FirstPoint := Point Base

/-- The points of the twist of the curve over the quadratic field. -/
abbrev SecondPoint := Point Quadratic

/-- The absolute value of the parameter of the curve, which is negative. -/
def curveParameter : Nat := 0xd201000000010000

/-- The value of a line at a point: `at0 + at2 * w ^ 2 + at3 * w ^ 3`. -/
structure LineValue where
  /-- The part without `w`. -/
  at0 : Quadratic
  /-- The factor of `w ^ 2`. -/
  at2 : Quadratic
  /-- The factor of `w ^ 3`. -/
  at3 : Quadratic

/-- The product with a number that has no `v ^ 2`. -/
def Cubic.timesShort (a : Cubic) (b0 b1 : Quadratic) : Cubic :=
  let p0 := a.c0 * b0
  let p1 := a.c1 * b1
  ⟨p0 + (a.c2 * b1).timesTwist, (a.c0 + a.c1) * (b0 + b1) - p0 - p1, a.c2 * b0 + p1⟩

/-- The product with a multiple of `v`. -/
def Cubic.timesMiddle (a : Cubic) (b1 : Quadratic) : Cubic :=
  ⟨(a.c2 * b1).timesTwist, a.c0 * b1, a.c1 * b1⟩

/-- The product with the value of a line. -/
def Target.timesLine (a : Target) (line : LineValue) : Target :=
  let p0 := a.c0.timesShort line.at0 line.at2
  let p1 := a.c1.timesMiddle line.at3
  ⟨p0 + p1.timesV, (a.c0 + a.c1).timesShort line.at0 (line.at2 + line.at3) - p0 - p1⟩

/-- A number of the quadratic field times one of the base field. -/
def Quadratic.timesBase (a : Quadratic) (b : Base) : Quadratic := ⟨a.re * b, a.im * b⟩

/-- Two points that are paired, both not at infinity, and the multiple of the second that has
been reached. -/
structure Strand where
  /-- The first coordinate of the first point. -/
  px : Base
  /-- The second coordinate of the first point. -/
  py : Base
  /-- The first coordinate of the second point. -/
  qx : Quadratic
  /-- The second coordinate of the second point. -/
  qy : Quadratic
  /-- The multiple reached. -/
  multiple : Triple Quadratic

namespace Strand

/-- The strand of two points; none if one of them is at infinity. -/
def ofPoints? : FirstPoint × SecondPoint → Option Strand
  | (.affine px py, .affine qx qy) => some ⟨px, py, qx, qy, ⟨qx, qy, 1⟩⟩
  | _ => none

/-- The value of the tangent at the multiple. -/
def tangent (strand : Strand) : LineValue :=
  let t := strand.multiple
  let xx := t.x * t.x
  let zz := t.z * t.z
  let yy := t.y * t.y
  let slope := xx + xx + xx
  let yz := t.y * t.z
  { at0 := slope * t.x - (yy + yy)
    at2 := -((slope * zz).timesBase strand.px)
    at3 := ((yz + yz) * zz).timesBase strand.py }

/-- The value of the line through the multiple and the point. -/
def chord (strand : Strand) : LineValue :=
  let t := strand.multiple
  let zz := t.z * t.z
  let h := strand.qx * zz - t.x
  let r := strand.qy * (t.z * zz) - t.y
  let z := t.z * h
  { at0 := r * strand.qx - strand.qy * z
    at2 := -(r.timesBase strand.px)
    at3 := z.timesBase strand.py }

/-- The multiple is doubled. -/
def double (strand : Strand) : Strand := { strand with multiple := strand.multiple.double }

/-- The multiple is increased by one. -/
def increase (strand : Strand) : Strand :=
  { strand with multiple := strand.multiple.add (.affine strand.qx strand.qy) }

end Strand

/-- The product of the lines on the way to a multiple, and the strands that have reached it. -/
def lineProduct (strands : List Strand) (n : Nat) : Target × List Strand :=
  if n ≤ 1 then (1, strands)
  else
    let (product, strands) := lineProduct strands (n / 2)
    let product := strands.foldl (fun product strand => product.timesLine strand.tangent)
      product.square
    let strands := strands.map Strand.double
    if n % 2 = 1 then
      (strands.foldl (fun product strand => product.timesLine strand.chord) product,
        strands.map Strand.increase)
    else (product, strands)
termination_by n

/-- The factor by which the power to the field order acts on `w`. -/
def frobeniusFactor : Quadratic := power Quadratic.twist ((fieldOrder - 1) / 6)

/-- The factors by which the power acts on the powers of `w`. -/
def frobeniusFactors : Quadratic × Quadratic × Quadratic × Quadratic × Quadratic :=
  let g := frobeniusFactor
  let g2 := g * g
  (g, g2, g2 * g, g2 * g2, g2 * g2 * g)

/-- A number to the power of the field order. -/
def Target.frobenius (a : Target) : Target :=
  let (g1, g2, g3, g4, g5) := frobeniusFactors
  ⟨⟨a.c0.c0.conjugate, g2 * a.c0.c1.conjugate, g4 * a.c0.c2.conjugate⟩,
    ⟨g1 * a.c1.c0.conjugate, g3 * a.c1.c1.conjugate, g5 * a.c1.c2.conjugate⟩⟩

/-- A number of length one to the power of the parameter of the curve. -/
def Target.raiseParameter (a : Target) : Target := (a.raise curveParameter).conjugate

/-- The power that takes a product of lines into the subgroup. With the parameter `x` and the
field order `q`, the exponent is `(q ^ 6 - 1) * (q ^ 2 + 1)` times
`(x - 1) ^ 2 * (x + q) * (x ^ 2 + q ^ 2 - 1) + 3`, which is three times what is left of
`q ^ 12 - 1` divided by the group order. -/
def finalPower (a : Target) : Target :=
  let unit := a.conjugate * inverse a
  let unit := unit.frobenius.frobenius * unit
  let first := unit.raiseParameter * unit.conjugate
  let second := first.raiseParameter * first.conjugate
  let third := second.raiseParameter * second.frobenius
  let fourth := third.raiseParameter.raiseParameter * third.frobenius.frobenius * third.conjugate
  fourth * unit.square * unit

/-- The product of the pairings of some points. -/
def pairingProduct (pairs : List (FirstPoint × SecondPoint)) : Target :=
  finalPower (lineProduct (pairs.filterMap Strand.ofPoints?) curveParameter).1.conjugate

/-- Two pairs of points have the same pairing: the product of one and the inverse of the other is
one. -/
def samePairing (a : FirstPoint) (b : SecondPoint) (c : FirstPoint) (d : SecondPoint) : Bool :=
  pairingProduct [(a, b), (c.negate, d)] = 1

end ThresholdDaemon.Curve
