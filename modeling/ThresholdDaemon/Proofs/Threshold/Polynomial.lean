import Mathlib.LinearAlgebra.Lagrange
import ThresholdDaemon.Proofs.Curve.Scalar
import ThresholdDaemon.Threshold.Polynomial

/-!
# Interpolation at zero

The weights of some points are those of Lagrange, so the values of a polynomial at as many points
as it has coefficients give its value at zero.
-/
namespace ThresholdDaemon.Threshold

open Curve (Scalar groupOrder)
open Curve.Scalar (residue)
open Polynomial

/-- The polynomial with some coefficients, over the field of residues. -/
noncomputable def polynomial (coefficients : List Scalar) : (ZMod groupOrder)[X] :=
  coefficients.foldr (fun coefficient rest => C (residue coefficient) + X * rest) 0

/-- Evaluating coefficients is evaluating their polynomial. -/
theorem residue_evaluate (coefficients : List Scalar) (x : Scalar) :
    residue (evaluate coefficients x) = (polynomial coefficients).eval (residue x) := by
  induction coefficients with
  | nil =>
    rw [polynomial, List.foldr_nil, eval_zero]
    exact Curve.Scalar.residue_zero
  | cons coefficient rest ih =>
    show residue (coefficient + x * evaluate rest x) =
      (C (residue coefficient) + X * polynomial rest).eval (residue x)
    simp [ih]

/-- A polynomial has a degree less than the number of its coefficients. -/
theorem degree_polynomial_lt (coefficients : List Scalar) :
    (polynomial coefficients).degree < coefficients.length := by
  induction coefficients with
  | nil => simp [polynomial]
  | cons coefficient rest ih =>
    rw [degree_lt_iff_coeff_zero] at ih ⊢
    intro place beyond
    show (C (residue coefficient) + X * polynomial rest).coeff place = 0
    cases place with
    | zero => exact absurd beyond (Nat.not_succ_le_zero _)
    | succ place =>
      rw [coeff_add, coeff_C_succ, zero_add, coeff_X_mul, ih place (by simpa using beyond)]

/-- The value of a polynomial at zero is its first coefficient. -/
theorem eval_zero_polynomial (coefficients : List Scalar) :
    (polynomial coefficients).eval 0 = residue (coefficients.headD 0) := by
  cases coefficients with
  | nil => simp [polynomial]
  | cons coefficient rest => simp [polynomial]

/-- The residue of a product over some scalars. -/
theorem residue_product (factors : List Scalar) (factor : Scalar → Scalar) :
    residue (factors.foldr (fun other product => factor other * product) 1) =
      (factors.map fun other => residue (factor other)).prod := by
  induction factors with
  | nil => exact Curve.Scalar.residue_one
  | cons first rest ih =>
    rw [List.foldr_cons, Curve.Scalar.residue_mul, ih, List.map_cons, List.prod_cons]

/-- The residue of the product of the differences to a point. -/
theorem residue_differences (points : List Scalar) (x : Scalar) :
    residue (differences points x) =
      ((points.filter (· ≠ x)).map fun other => residue other - residue x).prod := by
  have product := residue_product (points.filter (· ≠ x)) (· - x)
  simp only [Curve.Scalar.residue_sub] at product
  exact product

/-- The differences to other points can be divided by. -/
theorem differences_ne_zero (points : List Scalar) (x : Scalar) : differences points x ≠ 0 := by
  intro zero
  have product := residue_differences points x
  rw [zero, Curve.Scalar.residue_zero, eq_comm, List.prod_eq_zero_iff] at product
  obtain ⟨other, member, same⟩ := List.mem_map.mp product
  have apart : other ≠ x := of_decide_eq_true (List.mem_filter.mp member).2
  exact apart (Curve.Scalar.residue_injective (sub_eq_zero.mp same))

/-- The weight of a point is the value at zero of its basis polynomial. -/
theorem residue_weight {points : List Scalar} (distinct : points.Nodup) (x : Scalar) :
    residue (weight points x) = (Lagrange.basis points.toFinset residue x).eval 0 := by
  let others := points.filter (· ≠ x)
  have erased : others.toFinset = points.toFinset.erase x := by
    ext other
    simp [others, and_comm]
  have product (value : Scalar → ZMod groupOrder) :
      (others.map value).prod = ∏ other ∈ points.toFinset.erase x, value other := by
    rw [← erased, List.prod_toFinset value (distinct.filter _)]
  have basis : (Lagrange.basis points.toFinset residue x).eval 0 =
      ∏ other ∈ points.toFinset.erase x, residue other * (residue other - residue x)⁻¹ := by
    rw [Lagrange.basis, eval_prod]
    refine Finset.prod_congr rfl fun other _ => ?_
    rw [Lagrange.basisDivisor, eval_mul, eval_C, eval_sub, eval_X, eval_C, zero_sub,
      ← neg_sub (residue other), inv_neg]
    ring
  have numerator := residue_product others id
  have denominator := residue_differences points x
  rw [basis, Finset.prod_mul_distrib, Finset.prod_inv_distrib, ← product, ← product]
  show residue (others.foldr (· * ·) 1 * Curve.inverse (differences points x)) = _
  rw [Curve.Scalar.residue_mul, Curve.Scalar.residue_inverse]
  exact congrArg₂ (fun a b => a * b⁻¹) numerator denominator

/-- The values of a polynomial at some points, at least as many as it has coefficients, give its
value at zero. -/
theorem sum_weight_evaluate (coefficients : List Scalar) {points : List Scalar}
    (distinct : points.Nodup) (enough : coefficients.length ≤ points.length) :
    (points.map fun x => residue (weight points x) * residue (evaluate coefficients x)).sum =
      residue (coefficients.headD 0) := by
  have small : (polynomial coefficients).degree < points.toFinset.card := by
    rw [List.toFinset_card_of_nodup distinct]
    exact (degree_polynomial_lt coefficients).trans_le (by exact_mod_cast enough)
  have interpolated := Lagrange.eq_interpolate_of_eval_eq
    (fun x => residue (evaluate coefficients x)) Curve.Scalar.residue_injective.injOn small
    (fun x _ => (residue_evaluate coefficients x).symm)
  have at_zero := congrArg (eval 0) interpolated
  rw [eval_zero_polynomial, Lagrange.interpolate_apply, eval_finsetSum] at at_zero
  rw [at_zero, ← List.sum_toFinset _ distinct]
  refine Finset.sum_congr rfl fun x _ => ?_
  rw [residue_weight distinct, eval_mul, eval_C, mul_comm]

end ThresholdDaemon.Threshold
