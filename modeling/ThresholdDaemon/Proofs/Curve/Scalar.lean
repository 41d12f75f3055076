import Mathlib.Data.ZMod.Basic
import Mathlib.FieldTheory.Finite.Basic
import Mathlib.NumberTheory.LucasPrimality
import Mathlib.Tactic.NormNum.Prime
import Mathlib.Tactic.ReduceModChar
import ThresholdDaemon.Curve.Field

/-!
# Scalars as residues

The number of elements of each group is prime, which a primitive root shows together with the
factors of its predecessor. So the residues modulo it are a field, and the operations of scalars are
those of that field.
-/
namespace ThresholdDaemon.Curve

/-- The prime factors of the predecessor of the group order, each with its exponent. -/
def orderFactors : List (Nat × Nat) :=
  [(2, 32), (3, 1), (11, 1), (19, 1), (10177, 1), (125527, 1), (859267, 1), (906349, 2),
    (2508409, 1), (2529403, 1), (52437899, 1), (254760293, 2)]

/-- The factors are prime. -/
theorem orderFactors_prime : ∀ factor ∈ orderFactors, factor.1.Prime := by
  simp only [orderFactors, List.forall_mem_cons, List.not_mem_nil, false_implies, implies_true,
    and_true]
  norm_num

/-- There are no other prime factors. -/
theorem exists_mem_orderFactors {prime : Nat} (is_prime : prime.Prime)
    (divides : prime ∣ groupOrder - 1) : ∃ factor ∈ orderFactors, factor.1 = prime := by
  have product : (orderFactors.map fun factor => factor.1 ^ factor.2).prod = groupOrder - 1 := by
    norm_num [orderFactors, groupOrder]
  rw [← product] at divides
  obtain ⟨power, member, found⟩ := (Prime.dvd_prod_iff is_prime.prime).mp divides
  obtain ⟨factor, listed, rfl⟩ := List.mem_map.mp member
  have same := (Nat.prime_dvd_prime_iff_eq is_prime (orderFactors_prime factor listed)).mp
    (is_prime.dvd_of_dvd_pow found)
  exact ⟨factor, listed, same.symm⟩

/-- Seven has full order. -/
theorem seven_pow_sub_one : (7 : ZMod groupOrder) ^ (groupOrder - 1) = 1 := by
  unfold groupOrder
  norm_num only
  reduce_mod_char

/-- Seven has no smaller order. -/
theorem seven_pow_div_ne_one : ∀ factor ∈ orderFactors,
    (7 : ZMod groupOrder) ^ ((groupOrder - 1) / factor.1) ≠ 1 := by
  simp only [orderFactors, List.forall_mem_cons, List.not_mem_nil, false_implies, implies_true,
    and_true]
  unfold groupOrder
  refine ⟨?_, ?_, ?_, ?_, ?_, ?_, ?_, ?_, ?_, ?_, ?_, ?_⟩ <;>
  · norm_num only
    reduce_mod_char
    decide

/-- The group order is prime. -/
theorem groupOrder_prime : groupOrder.Prime := by
  refine lucas_primality groupOrder 7 seven_pow_sub_one ?_
  intro prime is_prime divides
  obtain ⟨factor, listed, rfl⟩ := exists_mem_orderFactors is_prime divides
  exact seven_pow_div_ne_one factor listed

instance : Fact groupOrder.Prime := ⟨groupOrder_prime⟩

namespace Scalar

/-- The residue of a scalar. -/
def residue (a : Scalar) : ZMod groupOrder := (a.val : ZMod groupOrder)

/-- A scalar is its residue. -/
theorem val_residue (a : Scalar) : (residue a).val = a.val :=
  ZMod.val_natCast_of_lt a.isLt

/-- Scalars with one residue are the same. -/
theorem residue_injective : Function.Injective residue := by
  intro a b same
  have values := congrArg ZMod.val same
  rw [val_residue, val_residue] at values
  exact Fin.ext values

/-- Every residue is one of a scalar. -/
theorem residue_ofNat (n : Nat) : residue (ofNat n) = (n : ZMod groupOrder) :=
  ZMod.natCast_mod n groupOrder

/-- The residue of zero. -/
@[simp] theorem residue_zero : residue 0 = 0 := Nat.cast_zero

/-- The residue of one. -/
@[simp] theorem residue_one : residue 1 = 1 := (residue_ofNat 1).trans Nat.cast_one

/-- The residue of a sum. -/
@[simp] theorem residue_add (a b : Scalar) : residue (a + b) = residue a + residue b := by
  have sum : residue (a + b) = ((a.val + b.val : Nat) : ZMod groupOrder) :=
    residue_ofNat (a.val + b.val)
  rw [sum, Nat.cast_add]
  rfl

/-- The residue of a product. -/
@[simp] theorem residue_mul (a b : Scalar) : residue (a * b) = residue a * residue b := by
  have product : residue (a * b) = ((a.val * b.val : Nat) : ZMod groupOrder) :=
    residue_ofNat (a.val * b.val)
  rw [product, Nat.cast_mul]
  rfl

/-- The residue of a difference. -/
@[simp] theorem residue_sub (a b : Scalar) : residue (a - b) = residue a - residue b := by
  have difference : residue (a - b) = ((groupOrder - b.val + a.val : Nat) : ZMod groupOrder) :=
    residue_ofNat (groupOrder - b.val + a.val)
  rw [difference, Nat.cast_add, Nat.cast_sub (Nat.le_of_lt b.isLt), ZMod.natCast_self]
  unfold residue
  ring

/-- A power of a scalar is the power of its residue. -/
theorem residue_power (a : Scalar) (n : Nat) : residue (power a n) = residue a ^ n := by
  unfold power
  induction n using Nat.strongRecOn with
  | ind n ih =>
    rw [powerBy]
    by_cases none : n = 0
    · rw [if_pos none, none, pow_zero]
      exact residue_one
    · have half := ih (n / 2) (by omega)
      have whole :
          residue (powerBy (fun a => a * a) a (n / 2) * powerBy (fun a => a * a) a (n / 2)) =
            residue a ^ (2 * (n / 2)) := by
        rw [residue_mul, half, two_mul, pow_add]
      rw [if_neg none]
      dsimp only
      by_cases odd : n % 2 = 1
      · rw [if_pos odd, residue_mul, whole, ← pow_succ]
        congr 1
        omega
      · rw [if_neg odd, whole]
        congr 1
        omega

/-- The inverse of a scalar is the inverse of its residue. -/
@[simp] theorem residue_inverse (a : Scalar) : residue (inverse a) = (residue a)⁻¹ := by
  have power : residue (inverse a) = residue a ^ (groupOrder - 2) := residue_power a _
  rw [power]
  by_cases zero : residue a = 0
  · rw [zero, inv_zero, zero_pow (by decide)]
  · refine eq_inv_of_mul_eq_one_left ?_
    rw [← pow_succ]
    exact ZMod.pow_card_sub_one_eq_one zero

end Scalar

end ThresholdDaemon.Curve
