import ThresholdDaemon.Curve.Encoding

/-!
# Elements of the subgroup

Not every pair of coordinates is a point of the curve, and not every point of the curve is in the
subgroup of the group order. An element is a point together with the reason why it is there. Points
that are read are checked, and points of the curve that are drawn are multiplied by the cofactor,
which takes them into the subgroup. Sums and multiples never leave it, so nothing is checked again
behind them.
-/
namespace ThresholdDaemon.Curve

variable {F : Type} [Coordinate F] [DecidableEq F]

/-- Why a point is in the subgroup. -/
inductive Point.Member : Point F → Prop
  /-- It is the point at infinity. -/
  | infinity : Member infinity
  /-- It is on the curve, and its multiple by the group order is at infinity. -/
  | checked {point : Point F} (onCurve : point.onCurve = true)
    (inSubgroup : point.inSubgroup = true) : Member point
  /-- It is the multiple by the cofactor of a point of the curve. -/
  | cleared {point : Point F} (onCurve : point.onCurve = true) :
    Member (point.scale (Coordinate.cofactor F))
  /-- It is the sum of two points of the subgroup. -/
  | add {a b : Point F} (left : Member a) (right : Member b) : Member (a.add b)
  /-- It is a multiple of a point of the subgroup. -/
  | scale {point : Point F} (n : Nat) (member : Member point) : Member (point.scale n)

/-- A point of the subgroup. -/
structure Element (F : Type) [Coordinate F] [DecidableEq F] where
  /-- The point. -/
  point : Point F
  /-- It is in the subgroup. -/
  member : point.Member

namespace Element

/-- The point at infinity. -/
def infinity : Element F := ⟨.infinity, .infinity⟩

/-- The sum of two elements. -/
def add (a b : Element F) : Element F := ⟨a.point.add b.point, a.member.add b.member⟩

/-- A multiple of an element. -/
def scale (n : Nat) (a : Element F) : Element F := ⟨a.point.scale n, a.member.scale n⟩

/-- The multiple of a point of the curve by the cofactor. -/
def clear (found : OnCurve F) : Element F :=
  ⟨found.point.scale (Coordinate.cofactor F), .cleared found.onCurve⟩

/-- The compressed form of an element. -/
def toBytes (a : Element F) : Bytes := a.point.toBytes

/-- The element of a compressed form. -/
def ofBytes? : Bytes → Option (Element F)
  | [] => none
  | first :: rest =>
    if first &&& Point.compressedMark = 0 then none
    else if first &&& Point.infinityMark ≠ 0 then
      if first = (Point.compressedMark ||| Point.infinityMark) ∧ rest.all (· = 0) then some infinity
      else none
    else do
      let x ← Coordinate.ofBytes? ((first &&& Point.coordinateBits) :: rest)
      let found ← OnCurve.withCoordinate? (first &&& Point.greaterMark ≠ 0) x
      if h : found.point.inSubgroup = true then some ⟨found.point, .checked found.onCurve h⟩
      else none

end Element

end ThresholdDaemon.Curve
