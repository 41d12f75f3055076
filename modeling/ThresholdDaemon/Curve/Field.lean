/-!
# Fields

The curve has its points over the integers modulo one prime, and its groups have another prime
as their order. Both primes leave three when divided by four or are used without roots, so a
root of a number is a power of it, if it has one. The inverse of a number is a power of it too.
-/
namespace ThresholdDaemon.Curve

/-- The operations of a field. -/
class FieldOps (F : Type) extends Zero F, One F, Add F, Sub F, Mul F, Neg F where
  /-- The inverse, zero for zero. -/
  inverse : F → F

export FieldOps (inverse)

/-- A power, by repeated squaring with the given square. -/
@[specialize] def powerBy {F : Type} [One F] [Mul F] (square : F → F) (base : F)
    (exponent : Nat) : F :=
  if exponent = 0 then 1
  else
    let whole := square (powerBy square base (exponent / 2))
    if exponent % 2 = 1 then whole * base else whole
termination_by exponent

/-- A power. -/
@[specialize] def power {F : Type} [One F] [Mul F] (base : F) (exponent : Nat) : F :=
  powerBy (fun a => a * a) base exponent

/-- The number of elements of the base field. -/
def fieldOrder : Nat :=
  0x1a0111ea397fe69a4b1ba7b6434bacd764774b84f38512bf6730d2a0f6b0f6241eabfffeb153ffffb9feffffffffaaab

/-- The number of elements of each group. -/
def groupOrder : Nat := 0x73eda753299d7d483339d80809a1d80553bda402fffe5bfeffffffff00000001

/-- The base field. -/
abbrev Base := Fin fieldOrder

/-- The numbers that points are multiplied by. -/
abbrev Scalar := Fin groupOrder

/-- The element of the base field of a number. -/
def Base.ofNat (n : Nat) : Base := ⟨n % fieldOrder, Nat.mod_lt n (by decide)⟩

/-- The scalar of a number. -/
def Scalar.ofNat (n : Nat) : Scalar := ⟨n % groupOrder, Nat.mod_lt n (by decide)⟩

/-- A sum, without a division. -/
def Base.plus (a b : Base) : Base :=
  if h : a.val + b.val < fieldOrder then ⟨a.val + b.val, h⟩
  else ⟨a.val + b.val - fieldOrder, by omega⟩

/-- A difference, without a division. -/
def Base.minus (a b : Base) : Base :=
  if h : b.val ≤ a.val then ⟨a.val - b.val, by omega⟩
  else ⟨a.val + fieldOrder - b.val, by omega⟩

instance : One Base := ⟨.ofNat 1⟩
instance : Mul Base := ⟨fun a b => .ofNat (a.val * b.val)⟩

instance : FieldOps Base where
  zero := .ofNat 0
  add := Base.plus
  sub := Base.minus
  neg a := .ofNat (fieldOrder - a.val)
  inverse a := power a (fieldOrder - 2)

instance (n : Nat) : OfNat Scalar n := ⟨.ofNat n⟩
instance : One Scalar := ⟨.ofNat 1⟩
instance : Mul Scalar := ⟨fun a b => .ofNat (a.val * b.val)⟩

instance : FieldOps Scalar where
  zero := .ofNat 0
  add a b := .ofNat (a.val + b.val)
  sub a b := .ofNat (a.val + (groupOrder - b.val))
  neg a := .ofNat (groupOrder - a.val)
  inverse a := power a (groupOrder - 2)

/-- A square root, if there is one. -/
def Base.root? (a : Base) : Option Base :=
  let candidate := power a ((fieldOrder + 1) / 4)
  if candidate * candidate = a then some candidate else none

/-- The quadratic extension of the base field by a root `u` of `-1`. -/
structure Quadratic where
  /-- The part without `u`. -/
  re : Base
  /-- The factor of `u`. -/
  im : Base
  deriving DecidableEq, Repr

namespace Quadratic

/-- The product of two numbers, each of its parts reduced once. -/
def times (a b : Quadratic) : Quadratic :=
  let first := a.re.val * b.re.val
  let second := a.im.val * b.im.val
  let both := (a.re.val + a.im.val) * (b.re.val + b.im.val)
  ⟨.ofNat (first + fieldOrder * fieldOrder - second), .ofNat (both - first - second)⟩

instance : FieldOps Quadratic where
  zero := ⟨0, 0⟩
  one := ⟨1, 0⟩
  add a b := ⟨a.re + b.re, a.im + b.im⟩
  sub a b := ⟨a.re - b.re, a.im - b.im⟩
  neg a := ⟨-a.re, -a.im⟩
  mul := times
  inverse a :=
    let scale := inverse (a.re * a.re + a.im * a.im)
    ⟨a.re * scale, -a.im * scale⟩

/-- The square of the length. -/
def norm (a : Quadratic) : Base := a.re * a.re + a.im * a.im

/-- A root of a number whose halved sum or difference with its length is given: the real part of
the root. -/
def rootFrom? (a : Quadratic) (half : Base) : Option Quadratic := do
  let re ← half.root?
  let candidate : Quadratic := ⟨re, a.im * inverse (re + re)⟩
  if candidate * candidate = a then some candidate else none

/-- A square root, if there is one. -/
def root? (a : Quadratic) : Option Quadratic :=
  if a.im = 0 then
    match a.re.root? with
    | some re => some ⟨re, 0⟩
    | none => (-a.re).root?.map fun im => ⟨0, im⟩
  else do
    let length ← a.norm.root?
    let half := inverse (Base.ofNat 2)
    (a.rootFrom? ((a.re + length) * half)).orElse fun _ => a.rootFrom? ((a.re - length) * half)

/-- The number `1 + u`, which is neither a square nor a cube. -/
def twist : Quadratic := ⟨1, 1⟩

/-- The product with the twist. -/
def timesTwist (a : Quadratic) : Quadratic := ⟨a.re - a.im, a.re + a.im⟩

/-- The number with `-u` for `u`: its power to the field order. -/
def conjugate (a : Quadratic) : Quadratic := ⟨a.re, -a.im⟩

end Quadratic

/-- The cubic extension of the quadratic one by a cube root `v` of the twist. -/
structure Cubic where
  /-- The part without `v`. -/
  c0 : Quadratic
  /-- The factor of `v`. -/
  c1 : Quadratic
  /-- The factor of `v ^ 2`. -/
  c2 : Quadratic
  deriving DecidableEq, Repr

namespace Cubic

/-- The product with `v`. -/
def timesV (a : Cubic) : Cubic := ⟨a.c2.timesTwist, a.c0, a.c1⟩

instance : FieldOps Cubic where
  zero := ⟨0, 0, 0⟩
  one := ⟨1, 0, 0⟩
  add a b := ⟨a.c0 + b.c0, a.c1 + b.c1, a.c2 + b.c2⟩
  sub a b := ⟨a.c0 - b.c0, a.c1 - b.c1, a.c2 - b.c2⟩
  neg a := ⟨-a.c0, -a.c1, -a.c2⟩
  mul a b :=
    let p0 := a.c0 * b.c0
    let p1 := a.c1 * b.c1
    let p2 := a.c2 * b.c2
    ⟨p0 + ((a.c1 + a.c2) * (b.c1 + b.c2) - p1 - p2).timesTwist,
      (a.c0 + a.c1) * (b.c0 + b.c1) - p0 - p1 + p2.timesTwist,
      (a.c0 + a.c2) * (b.c0 + b.c2) - p0 - p2 + p1⟩
  inverse a :=
    let d0 := a.c0 * a.c0 - (a.c1 * a.c2).timesTwist
    let d1 := (a.c2 * a.c2).timesTwist - a.c0 * a.c1
    let d2 := a.c1 * a.c1 - a.c0 * a.c2
    let scale := inverse (a.c0 * d0 + (a.c2 * d1 + a.c1 * d2).timesTwist)
    ⟨d0 * scale, d1 * scale, d2 * scale⟩

end Cubic

/-- The field that pairings have their values in: the extension of the cubic one by a square root
`w` of `v`. -/
structure Target where
  /-- The part without `w`. -/
  c0 : Cubic
  /-- The factor of `w`. -/
  c1 : Cubic
  deriving DecidableEq, Repr

namespace Target

instance : FieldOps Target where
  zero := ⟨0, 0⟩
  one := ⟨1, 0⟩
  add a b := ⟨a.c0 + b.c0, a.c1 + b.c1⟩
  sub a b := ⟨a.c0 - b.c0, a.c1 - b.c1⟩
  neg a := ⟨-a.c0, -a.c1⟩
  mul a b :=
    let p0 := a.c0 * b.c0
    let p1 := a.c1 * b.c1
    ⟨p0 + p1.timesV, (a.c0 + a.c1) * (b.c0 + b.c1) - p0 - p1⟩
  inverse a :=
    let scale := inverse (a.c0 * a.c0 - (a.c1 * a.c1).timesV)
    ⟨a.c0 * scale, -(a.c1 * scale)⟩

/-- The square of a number. -/
def square (a : Target) : Target :=
  let product := a.c0 * a.c1
  ⟨(a.c0 + a.c1) * (a.c0 + a.c1.timesV) - product - product.timesV, product + product⟩

/-- A power. -/
def raise (a : Target) (exponent : Nat) : Target := powerBy square a exponent

/-- The number with `-w` for `w`: its power to the sixth power of the field order. -/
def conjugate (a : Target) : Target := ⟨a.c0, -a.c1⟩

end Target

end ThresholdDaemon.Curve
