import Mathlib.Algebra.Order.Ring.Nat
import ThresholdDaemon.Curve.Encoding

/-!
# Bytes of numbers and points

A number that fits some bytes is read back from them, and the compressed form of a point is as long
as the first coordinate of one.
-/
namespace ThresholdDaemon.Curve

/-- A number has as many bytes as are asked for. -/
@[simp] theorem length_bigEndian (count n : Nat) : (bigEndian count n).length = count := by
  induction count generalizing n with
  | zero => rfl
  | succ count ih => rw [bigEndian, List.length_append, ih, List.length_singleton]

/-- A number that fits its bytes is read back from them. -/
theorem ofBigEndian_bigEndian {count n : Nat} (fits : n < 256 ^ count) :
    ofBigEndian (bigEndian count n) = n := by
  induction count generalizing n with
  | zero =>
    rw [Nat.pow_zero] at fits
    exact (Nat.lt_one_iff.mp fits).symm
  | succ count ih =>
    have high : n / 256 < 256 ^ count := by
      rw [Nat.pow_succ] at fits
      exact Nat.div_lt_of_lt_mul (Nat.mul_comm _ _ ▸ fits)
    have front := ih high
    unfold ofBigEndian at front ⊢
    rw [bigEndian, List.foldl_append, front, List.foldl_cons, List.foldl_nil, UInt8.toNat_ofNat']
    omega

/-- An element of the quadratic extension has its number of bytes. -/
theorem Quadratic.length_toBytes (a : Quadratic) :
    (Coordinate.toBytes a).length = Coordinate.size Quadratic := by
  show (bigEndian Base.size a.im.val ++ bigEndian Base.size a.re.val).length = 2 * Base.size
  rw [List.length_append, length_bigEndian, length_bigEndian]
  omega

namespace Point

variable {F : Type} [Coordinate F]

/-- Marks do not change how many bytes there are. -/
theorem length_mark (marks : UInt8) (bytes : Bytes) : (mark marks bytes).length = bytes.length := by
  cases bytes with
  | nil => rfl
  | cons first rest => rfl

/-- The compressed form of a point is as long as a coordinate. -/
theorem length_toBytes (fixed : ∀ a : F, (Coordinate.toBytes a).length = Coordinate.size F)
    (point : Point F) : point.toBytes.length = Coordinate.size F := by
  cases point with
  | infinity => rw [toBytes, length_mark, List.length_replicate]
  | affine x y => rw [toBytes, length_mark, fixed]

end Point

end ThresholdDaemon.Curve
