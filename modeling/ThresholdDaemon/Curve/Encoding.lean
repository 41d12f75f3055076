import ThresholdDaemon.Curve.Point
import ThresholdDaemon.Text.Utf8

/-!
# Compressed points

A point is written as its first coordinate, most significant byte first, with three marks in the
bits that no coordinate needs: that the form is compressed, that the point is at infinity, and
that the second coordinate is the greater of the two roots.
-/
namespace ThresholdDaemon.Curve

/-- A field with what the compressed form of points over it needs. -/
class Coordinate (F : Type) extends FieldOps F where
  /-- The constant term of the curve. -/
  constant : F
  /-- The number of times that the curve has more points than the subgroup. -/
  cofactor : Nat
  /-- A square root, if there is one. -/
  root? : F → Option F
  /-- The order by which one of two roots is the greater. -/
  less : F → F → Bool
  /-- The bytes of an element, most significant first. -/
  toBytes : F → Bytes
  /-- The element of some bytes, if they are the bytes of one. -/
  ofBytes? : Bytes → Option F
  /-- How many bytes an element has. -/
  size : Nat

/-- The bytes of a number, most significant first. -/
def bigEndian : (count : Nat) → Nat → Bytes
  | 0, _ => []
  | count + 1, n => bigEndian count (n / 256) ++ [UInt8.ofNat n]

/-- The number of some bytes, most significant first. -/
def ofBigEndian (bytes : Bytes) : Nat := bytes.foldl (fun n byte => n * 256 + byte.toNat) 0

/-- How many bytes an element of the base field has. -/
def Base.size : Nat := 48

/-- The element of the base field of some bytes. -/
def Base.ofBytes? (bytes : Bytes) : Option Base :=
  let n := ofBigEndian bytes
  if bytes.length = Base.size then
    if h : n < fieldOrder then some ⟨n, h⟩ else none
  else none

instance : Coordinate Base where
  constant := .ofNat 4
  cofactor := 0x396c8c005555e1568c00aaab0000aaab
  root? := Base.root?
  less a b := a < b
  toBytes a := bigEndian Base.size a.val
  ofBytes? := Base.ofBytes?
  size := Base.size

instance : Coordinate Quadratic where
  constant := ⟨.ofNat 4, .ofNat 4⟩
  cofactor :=
    0x5d543a95414e7f1091d50792876a202cd91de4547085abaa68a205b2e5a7ddfa628f1cb4d9e82ef21537e293a6691ae1616ec6e786f0c70cf1c38e31c7238e5
  root? := Quadratic.root?
  less a b := a.im < b.im || (a.im = b.im && a.re < b.re)
  toBytes a := bigEndian Base.size a.im.val ++ bigEndian Base.size a.re.val
  ofBytes? bytes := do
    let im ← Base.ofBytes? (bytes.take Base.size)
    let re ← Base.ofBytes? (bytes.drop Base.size)
    some ⟨re, im⟩
  size := 2 * Base.size

namespace Point

/-- The mark of the compressed form. -/
def compressedMark : UInt8 := 0x80

/-- The mark of the point at infinity. -/
def infinityMark : UInt8 := 0x40

/-- The mark of the greater root. -/
def greaterMark : UInt8 := 0x20

/-- The bits of the first byte that belong to the coordinate. -/
def coordinateBits : UInt8 := 0x1F

variable {F : Type} [Coordinate F] [DecidableEq F]

/-- The point is on the curve. -/
def onCurve : Point F → Bool
  | infinity => true
  | affine x y => y * y = x * x * x + Coordinate.constant

/-- Put marks on the first byte. -/
def mark (marks : UInt8) : Bytes → Bytes
  | [] => []
  | first :: rest => (first ||| marks) :: rest

/-- The compressed form of a point. -/
def toBytes : Point F → Bytes
  | infinity => mark (compressedMark ||| infinityMark) (List.replicate (Coordinate.size F) 0)
  | affine x y =>
    let greater := if Coordinate.less (-y) y then greaterMark else 0
    mark (compressedMark ||| greater) (Coordinate.toBytes x)

end Point

/-- A point of the curve. -/
structure OnCurve (F : Type) [Coordinate F] [DecidableEq F] where
  /-- The point. -/
  point : Point F
  /-- It is on the curve. -/
  onCurve : point.onCurve = true

/-- The points of the curve with a first coordinate: the one whose second coordinate is the
greater root, or the one whose second coordinate is not. -/
def OnCurve.withCoordinate? {F : Type} [Coordinate F] [DecidableEq F] (greater : Bool) (x : F) :
    Option (OnCurve F) := do
  let y ← Coordinate.root? (x * x * x + Coordinate.constant)
  let point := Point.affine x (if Coordinate.less y (-y) = greater then -y else y)
  if h : point.onCurve = true then some ⟨point, h⟩ else none

end ThresholdDaemon.Curve
