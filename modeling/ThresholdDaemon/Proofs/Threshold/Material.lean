import ThresholdDaemon.Proofs.Json.Convert
import ThresholdDaemon.Proofs.Threshold.Laws
import ThresholdDaemon.Threshold.Material

/-!
# Material is read back

Whatever is written as material is read back as it was: scalars, the elements of a lawful group and
public keys.
-/
namespace ThresholdDaemon.Threshold

open Curve (Scalar)
open Json (Value)

/-- An element of a lawful group is read back. -/
theorem Group.Lawful.ofValue_toValue {G : Type} {group : Group G} (lawful : group.Lawful) (a : G) :
    group.ofValue (group.toValue a) = .ok a := by
  unfold ofValue toValue bytesValue
  rw [← lawful.length_encode a]
  refine (Value.toTuple_map Value.toByte_ofNat _ _ _).trans ?_
  rw [lawful.decode_encode]

/-- The words of a scalar make it up. -/
theorem ofLimbs_limbs (scalar : Scalar) : ofLimbs (limbs scalar) = scalar.val := by
  have small : scalar.val < wordCount ^ 4 := Nat.lt_trans scalar.isLt (by decide)
  have word (n : Nat) : (UInt64.ofNat n).toNat = n % wordCount := UInt64.toNat_ofNat' ..
  have digits : limbs scalar =
      [UInt64.ofNat (scalar.val / 1), UInt64.ofNat (scalar.val / wordCount),
        UInt64.ofNat (scalar.val / wordCount ^ 2), UInt64.ofNat (scalar.val / wordCount ^ 3)] := rfl
  rw [digits]
  simp only [ofLimbs, List.foldr_cons, List.foldr_nil, word]
  unfold wordCount at small ⊢
  omega

/-- A scalar is read back. -/
theorem scalarOfValue_scalarValue (scalar : Scalar) :
    scalarOfValue (scalarValue scalar) = .ok scalar := by
  have words : (scalarValue scalar).toTuple Value.toWord64 4 "an array of length 4" .ok =
      .ok (limbs scalar) :=
    Value.toTuple_map Value.toWord64_ofWord (limbs scalar) _ _
  have valid : ofLimbs (limbs scalar) < Curve.groupOrder := by
    rw [ofLimbs_limbs]
    exact scalar.isLt
  unfold scalarOfValue
  rw [words]
  show (if h : ofLimbs (limbs scalar) < Curve.groupOrder then _ else _ : Except _ Scalar) = _
  rw [dif_pos valid]
  exact congrArg Except.ok (Fin.ext (ofLimbs_limbs scalar))

/-- A public key is read back. -/
theorem commitmentOfValue_publicKeyValue {suite : Suite} (lawful : suite.first.Lawful)
    (commitment : List suite.First) :
    commitmentOfValue suite (publicKeyValue suite commitment) = .ok commitment := by
  have field (name key : String) {α : Type} (item : Value → Except Json.Cause α) (value : Value) :
      Value.toOnlyField name key item (.object [(key, value)]) = item value := by
    simp [Value.toOnlyField, Json.Members.get?]
  unfold commitmentOfValue publicKeyValue
  rw [field, field]
  exact Value.mapM_map_ok lawful.ofValue_toValue commitment

end ThresholdDaemon.Threshold
