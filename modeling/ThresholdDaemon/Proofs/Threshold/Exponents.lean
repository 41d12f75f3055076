import ThresholdDaemon.Proofs.Curve.Encoding
import ThresholdDaemon.Proofs.Threshold.Laws

/-!
# Exponents as a suite

The scalars are a group themselves, and their product is a pairing. This suite satisfies all laws,
with elements that have as many bytes as those of the curve, so nothing that follows from the laws
alone is empty.
-/
namespace ThresholdDaemon.Threshold

open Curve (Scalar groupOrder)
open Curve.Scalar (residue residue_injective)

/-- The scalars as a group whose elements have some bytes. -/
def exponentGroup (size : Nat) : Group Scalar where
  zero := 0
  add a b := a + b
  scale n a := n * a
  encode a := Curve.bigEndian size a.val
  decode bytes :=
    let n := Curve.ofBigEndian bytes
    if h : n < groupOrder then some ⟨n, h⟩ else none
  size

/-- The scalars as a suite. -/
def exponentSuite : Suite where
  First := Scalar
  Second := Scalar
  first := exponentGroup 48
  second := exponentGroup 96
  generator := 1
  samePairing a b c d := a * b = c * d
  hash msg :=
    let n := Scalar.ofNat (Curve.ofBigEndian msg)
    if n = 0 then 1 else n

/-- The scalars are a lawful group if their bytes suffice. -/
theorem exponentGroup_lawful {size : Nat} (enough : groupOrder ≤ 256 ^ size) :
    (exponentGroup size).Lawful where
  add_assoc a b c := by
    show a + b + c = a + (b + c)
    apply residue_injective
    simp [add_assoc]
  add_comm a b := by
    show a + b = b + a
    apply residue_injective
    simp [add_comm]
  zero_add a := by
    show 0 + a = a
    apply residue_injective
    simp
  exists_neg a := by
    refine ⟨0 - a, ?_⟩
    show 0 - a + a = 0
    apply residue_injective
    simp
  card := by rw [Nat.card_eq_fintype_card, Fintype.card_fin]
  scale_eq n a := by
    have times (count : Nat) :
        residue ((exponentGroup size).times count a) = count * residue a := by
      induction count with
      | zero => simp [Group.times, exponentGroup]
      | succ count ih =>
        show residue ((exponentGroup size).times count a + a) = _
        rw [Curve.Scalar.residue_add, ih, Nat.cast_succ, add_one_mul]
    show n * a = _
    apply residue_injective
    rw [times, Curve.Scalar.residue_mul]
    rfl
  length_encode a := Curve.length_bigEndian size a.val
  decode_encode a := by
    have back := Curve.ofBigEndian_bigEndian (Nat.lt_of_lt_of_le a.isLt enough)
    show (if h : Curve.ofBigEndian (Curve.bigEndian size a.val) < groupOrder then
      some (⟨_, h⟩ : Scalar) else none) = some a
    rw [dif_pos (by rw [back]; exact a.isLt)]
    exact congrArg some (Fin.ext back)

/-- Products of scalars are compared as those of their residues. -/
theorem product_eq_iff (a b c d : Scalar) :
    decide (a * b = c * d) = true ↔
      Multiplicative.ofAdd (residue a * residue b) = .ofAdd (residue c * residue d) := by
  rw [decide_eq_true_iff, Multiplicative.ofAdd.injective.eq_iff, ← Curve.Scalar.residue_mul,
    ← Curve.Scalar.residue_mul, residue_injective.eq_iff]

/-- The product of scalars is a pairing. -/
def exponentPairing : exponentSuite.Pairing where
  Target := Multiplicative (ZMod groupOrder)
  pair a b := .ofAdd (residue a * residue b)
  pair_add_left a b c := by
    have sum : residue (exponentSuite.first.add a b) = residue a + residue b :=
      Curve.Scalar.residue_add a b
    rw [sum, add_mul, ofAdd_add]
  pair_add_right a b c := by
    have sum : residue (exponentSuite.second.add b c) = residue b + residue c :=
      Curve.Scalar.residue_add b c
    rw [sum, mul_add, ofAdd_add]
  nontrivial := by
    refine ⟨(1 : Scalar), (1 : Scalar), ?_⟩
    rw [Curve.Scalar.residue_one, one_mul]
    exact fun trivial => one_ne_zero (Multiplicative.ofAdd.injective trivial)
  samePairing_iff a b c d := product_eq_iff a b c d

/-- The suite of the scalars is lawful. -/
theorem exponentSuite_lawful : exponentSuite.Lawful where
  first := exponentGroup_lawful (by decide)
  second := exponentGroup_lawful (by decide)
  generator_ne := (by decide : (1 : Scalar) ≠ 0)
  hash_ne msg := by
    show (if Scalar.ofNat (Curve.ofBigEndian msg) = 0 then (1 : Scalar) else _) ≠ 0
    split
    · decide
    next nonzero => exact nonzero
  paired := ⟨exponentPairing⟩

end ThresholdDaemon.Threshold
