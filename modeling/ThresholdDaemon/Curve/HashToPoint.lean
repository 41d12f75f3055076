import ThresholdDaemon.Allocation
import ThresholdDaemon.Curve.Element
import ThresholdDaemon.Curve.Pairing
import ThresholdDaemon.Digest.Keystream
import ThresholdDaemon.Digest.Sha3

/-!
# Points of messages

The digest of a message is the key of a stream of words. From it first coordinates are drawn
until one belongs to a point of the twist; a word more picks one of its two points, which is
multiplied by the cofactor into the subgroup. A coordinate is drawn as the image of a number
under the division by a fixed power of two.
-/
namespace ThresholdDaemon.Curve

open Digest (Keystream)

namespace Draw

/-- Words of 64 bits, as one number, the low one first. -/
def words : (count : Nat) → Keystream → Nat × Keystream
  | 0, stream => (0, stream)
  | count + 1, stream =>
    let (low, stream) := stream.next64
    let (high, stream) := words count stream
    (low.toNat + wordCount * high, stream)

/-- The inverse of the power of two that drawn numbers are divided by. -/
def scale : Base := inverse (Base.ofNat (Nat.pow 2 384))

/-- The tries at a number below the field order, of which four in five succeed. -/
def coordinateTries : Nat := 512

/-- An element of the base field. -/
def base : (tries : Nat) → Keystream → Base × Keystream
  | 0, stream => (0, stream)
  | tries + 1, stream =>
    let (raw, stream) := words 6 stream
    let raw := raw % Nat.pow 2 381
    if h : raw < fieldOrder then ((⟨raw, h⟩ : Base) * scale, stream) else base tries stream

/-- The tries at a coordinate of a point, of which one in two succeeds. -/
def pointTries : Nat := 512

/-- A point of the subgroup that is not at infinity. -/
def point : (tries : Nat) → Keystream → Element Quadratic
  | 0, _ => .infinity
  | tries + 1, stream =>
    let (re, stream) := base coordinateTries stream
    let (im, stream) := base coordinateTries stream
    let (word, stream) := stream.next32
    match OnCurve.withCoordinate? (word % 2 = 1) (⟨re, im⟩ : Quadratic) with
    | none => point tries stream
    | some found =>
      let cleared := Element.clear found
      match cleared.point with
      | .infinity => point tries stream
      | .affine _ _ => cleared

end Draw

/-- The point of a message. -/
def hashToPoint (message : Bytes) : Element Quadratic :=
  Draw.point Draw.pointTries (Keystream.ofKey (Digest.sha3 message))

end ThresholdDaemon.Curve
