import ThresholdDaemon.Curve.Field

/-!
# Points of a curve

A point is given by its coordinates or lies at infinity, so equal points are equal values. Sums
and multiples are computed on triples `(X, Y, Z)` that stand for the coordinates `X / Z ^ 2` and
`Y / Z ^ 3`, which needs one division at the end. The curve has no linear term, so the formulas do
not mention it.
-/
namespace ThresholdDaemon.Curve

/-- A point. -/
inductive Point (F : Type) where
  /-- The point at infinity. -/
  | infinity
  /-- The point with these coordinates. -/
  | affine (x y : F)
  deriving DecidableEq, Repr

/-- A point as a triple; at infinity the last part is zero. -/
structure Triple (F : Type) where
  /-- The first coordinate times `z ^ 2`. -/
  x : F
  /-- The second coordinate times `z ^ 3`. -/
  y : F
  /-- The common part of the denominators. -/
  z : F

variable {F : Type} [FieldOps F] [DecidableEq F]

namespace Triple

/-- The point at infinity. -/
def infinity : Triple F := ⟨1, 1, 0⟩

/-- The triple of a point. -/
def ofPoint : Point F → Triple F
  | .infinity => infinity
  | .affine x y => ⟨x, y, 1⟩

/-- The point of a triple. -/
@[specialize] def toPoint (a : Triple F) : Point F :=
  if a.z = 0 then .infinity
  else
    let scale := inverse a.z
    let square := scale * scale
    .affine (a.x * square) (a.y * (square * scale))

/-- Twice a point. -/
@[specialize] def double (p : Triple F) : Triple F :=
  let a := p.x * p.x
  let b := p.y * p.y
  let c := b * b
  let t := p.x + b
  let d := t * t - a - c
  let d := d + d
  let e := a + a + a
  let x := e * e - (d + d)
  let c := c + c
  let c := c + c
  let yz := p.y * p.z
  ⟨x, e * (d - x) - (c + c), yz + yz⟩

/-- The sum with a point. -/
@[specialize] def add (p : Triple F) : Point F → Triple F
  | .infinity => p
  | .affine x y =>
    if p.z = 0 then ⟨x, y, 1⟩
    else
      let zz := p.z * p.z
      let u := x * zz
      let s := y * (p.z * zz)
      if u = p.x then
        if s = p.y then p.double else infinity
      else
        let h := u - p.x
        let hh := h * h
        let hhh := h * hh
        let r := s - p.y
        let v := p.x * hh
        let x := r * r - hhh - (v + v)
        ⟨x, r * (v - x) - p.y * hhh, p.z * h⟩

/-- A multiple of a point, by repeated doubling. -/
@[specialize] def scale (point : Point F) (n : Nat) : Triple F :=
  if n = 0 then infinity
  else
    let double := (scale point (n / 2)).double
    if n % 2 = 1 then double.add point else double
termination_by n

end Triple

namespace Point

/-- The sum of two points. -/
@[specialize] def add (a b : Point F) : Point F := ((Triple.ofPoint a).add b).toPoint

/-- A multiple of a point. -/
@[specialize] def scale (n : Nat) (point : Point F) : Point F := (Triple.scale point n).toPoint

/-- The point with the other root. -/
def negate : Point F → Point F
  | infinity => infinity
  | affine x y => affine x (-y)

/-- The point is in the subgroup whose order is the group order. -/
@[specialize] def inSubgroup (point : Point F) : Bool := (Triple.scale point groupOrder).z = 0

end Point

end ThresholdDaemon.Curve
