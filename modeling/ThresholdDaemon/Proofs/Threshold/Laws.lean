import Mathlib.Algebra.Group.MinimalAxioms
import Mathlib.Algebra.Module.ZMod
import Mathlib.GroupTheory.OrderOfElement
import ThresholdDaemon.Proofs.Threshold.Polynomial
import ThresholdDaemon.Threshold.Provider

/-!
# Laws of a suite

What a threshold scheme needs of its suite: both groups are commutative with as many elements as
there are scalars, a multiple is a repeated sum, elements are read back from their bytes, and there
is a bilinear pairing that is not trivial. The elements of the suite of the curve are the points of
its subgroups and no others, so the laws are those of the suite that runs. In a group of prime order
every element is one multiple of any element but zero, so a point signs under a public key exactly
if it is the multiple of the point of the message by the secret.
-/
namespace ThresholdDaemon.Threshold

open Curve (Scalar groupOrder)
open Curve.Scalar (residue)

namespace Group

variable {G : Type} {group : Group G}

/-- The sum of so many times an element. -/
def times (group : Group G) : Nat → G → G
  | 0, _ => group.zero
  | count + 1, a => group.add (group.times count a) a

/-- The laws of a commutative group of prime order whose elements have bytes. -/
structure Lawful (group : Group G) : Prop where
  /-- Sums may be taken in any grouping. -/
  add_assoc : ∀ a b c, group.add (group.add a b) c = group.add a (group.add b c)
  /-- Sums may be taken in any order. -/
  add_comm : ∀ a b, group.add a b = group.add b a
  /-- Zero adds nothing. -/
  zero_add : ∀ a, group.add group.zero a = a
  /-- There are opposite elements. -/
  exists_neg : ∀ a, ∃ b, group.add b a = group.zero
  /-- There are as many elements as scalars. -/
  card : Nat.card G = groupOrder
  /-- A multiple is a repeated sum. -/
  scale_eq : ∀ n a, group.scale n a = group.times n.val a
  /-- An element has as many bytes as it should. -/
  length_encode : ∀ a, (group.encode a).length = group.size
  /-- An element is read back from its bytes. -/
  decode_encode : ∀ a, group.decode (group.encode a) = some a

namespace Lawful

/-- The commutative group that satisfies the laws. -/
noncomputable abbrev toAddCommGroup (lawful : group.Lawful) : AddCommGroup G :=
  letI : Add G := ⟨group.add⟩
  letI : Zero G := ⟨group.zero⟩
  letI : Neg G := ⟨fun a => Classical.choose (lawful.exists_neg a)⟩
  { AddGroup.ofLeftAxioms lawful.add_assoc lawful.zero_add
      (fun a => Classical.choose_spec (lawful.exists_neg a)) with
    add_comm := lawful.add_comm }

/-- The scalars act on the group. -/
noncomputable abbrev toModule (lawful : group.Lawful) :
    letI := lawful.toAddCommGroup
    Module (ZMod groupOrder) G :=
  letI := lawful.toAddCommGroup
  AddCommGroup.zmodModule (n := groupOrder) fun a => by
    rw [← lawful.card]
    exact card_nsmul_eq_zero'

/-- A repeated sum is that of the group. -/
theorem times_eq (lawful : group.Lawful) (count : Nat) (a : G) :
    letI := lawful.toAddCommGroup
    group.times count a = count • a := by
  let := lawful.toAddCommGroup
  induction count with
  | zero => exact (zero_nsmul a).symm
  | succ count ih =>
    rw [succ_nsmul, ← ih]
    rfl

/-- A multiple is that of the residue. -/
theorem scale_eq_smul (lawful : group.Lawful) (n : Scalar) (a : G) :
    letI := lawful.toAddCommGroup
    letI := lawful.toModule
    group.scale n a = residue n • a := by
  let := lawful.toAddCommGroup
  let := lawful.toModule
  rw [lawful.scale_eq, lawful.times_eq]
  exact (Nat.cast_smul_eq_nsmul (ZMod groupOrder) n.val a).symm

/-- As many times as there are scalars, an element adds up to zero. -/
theorem times_groupOrder (lawful : group.Lawful) (a : G) :
    group.times groupOrder a = group.zero := by
  let := lawful.toAddCommGroup
  rw [lawful.times_eq, ← lawful.card]
  exact card_nsmul_eq_zero'

/-- Scalars that multiply an element other than zero alike are the same. -/
theorem scale_injective (lawful : group.Lawful) {a : G} (nonzero : a ≠ group.zero) :
    Function.Injective (group.scale · a) := by
  let := lawful.toAddCommGroup
  let := lawful.toModule
  intro m n same
  simp only [lawful.scale_eq_smul] at same
  by_contra different
  have invertible : residue m - residue n ≠ 0 := fun zero =>
    different (Curve.Scalar.residue_injective (sub_eq_zero.mp zero))
  have vanishes : (residue m - residue n) • a = 0 := by rw [sub_smul, same, sub_self]
  have back := congrArg ((residue m - residue n)⁻¹ • ·) vanishes
  rw [smul_smul, inv_mul_cancel₀ invertible, one_smul, smul_zero] at back
  exact nonzero back

/-- Every element is a multiple of any element other than zero. -/
theorem exists_scale (lawful : group.Lawful) {a : G} (nonzero : a ≠ group.zero) (b : G) :
    ∃ n, group.scale n a = b := by
  have finite : Finite G := Nat.finite_of_card_ne_zero (by rw [lawful.card]; decide)
  have few : Nat.card G ≤ Nat.card Scalar := by
    rw [lawful.card, Nat.card_eq_fintype_card, Fintype.card_fin]
  exact ((lawful.scale_injective nonzero).bijective_of_nat_card_le few).surjective b

/-- The multiple of a polynomial's value is the value of the polynomial of multiples. -/
theorem evaluate_scale (lawful : group.Lawful) (coefficients : List Scalar) (x : Scalar) (a : G) :
    group.evaluate (coefficients.map fun coefficient => group.scale coefficient a) x =
      group.scale (Threshold.evaluate coefficients x) a := by
  let := lawful.toAddCommGroup
  let := lawful.toModule
  induction coefficients with
  | nil =>
    rw [lawful.scale_eq_smul]
    show (0 : G) = residue 0 • a
    rw [Curve.Scalar.residue_zero, zero_smul]
  | cons coefficient rest ih =>
    show group.scale coefficient a + group.scale x (group.evaluate _ x) =
      group.scale (coefficient + x * Threshold.evaluate rest x) a
    rw [ih]
    simp only [lawful.scale_eq_smul, Curve.Scalar.residue_add, Curve.Scalar.residue_mul, add_smul,
      mul_smul]

/-- The multiples by the values of a polynomial at some points, at least as many as it has
coefficients, give the multiple by its value at zero. -/
theorem interpolate_scale (lawful : group.Lawful) (coefficients : List Scalar)
    {points : List Scalar} (distinct : points.Nodup)
    (enough : coefficients.length ≤ points.length) (a : G) :
    group.interpolate
        (points.map fun x => (x, group.scale (Threshold.evaluate coefficients x) a)) =
      group.scale (coefficients.headD 0) a := by
  let := lawful.toAddCommGroup
  let := lawful.toModule
  -- The weights are those of all points, while the sum is taken over fewer and fewer of them.
  have sum (part : List Scalar) :
      (part.map fun x => (x, group.scale (Threshold.evaluate coefficients x) a)).foldr
        (fun sample sum => group.add (group.scale (weight points sample.1) sample.2) sum)
        group.zero =
      (part.map fun x =>
        residue (weight points x) * residue (Threshold.evaluate coefficients x)).sum • a := by
    induction part with
    | nil => exact (zero_smul (ZMod groupOrder) a).symm
    | cons x rest ih =>
      rw [List.map_cons, List.foldr_cons, ih, List.map_cons, List.sum_cons, add_smul, mul_smul,
        ← lawful.scale_eq_smul, ← lawful.scale_eq_smul]
      rfl
  have names : (points.map fun x =>
      (x, group.scale (Threshold.evaluate coefficients x) a)).map (·.1) = points := by
    rw [List.map_map]
    exact List.map_id points
  unfold interpolate
  rw [names, lawful.scale_eq_smul, ← sum_weight_evaluate coefficients distinct enough]
  exact sum points

end Lawful

end Group

namespace Suite

variable {suite : Suite}

/-- A bilinear pairing of the groups of a suite that is not trivial. -/
structure Pairing (suite : Suite) where
  /-- The values of the pairing. -/
  Target : Type
  /-- They are a commutative group. -/
  [group : CommGroup Target]
  /-- The pairing. -/
  pair : suite.First → suite.Second → Target
  /-- It takes sums on the left to products. -/
  pair_add_left : ∀ a b c, pair (suite.first.add a b) c = pair a c * pair b c
  /-- It takes sums on the right to products. -/
  pair_add_right : ∀ a b c, pair a (suite.second.add b c) = pair a b * pair a c
  /-- Some pair has a value other than one. -/
  nontrivial : ∃ a b, pair a b ≠ 1
  /-- Two pairs are compared by their values. -/
  samePairing_iff : ∀ a b c d, suite.samePairing a b c d = true ↔ pair a b = pair c d

attribute [instance] Pairing.group

/-- The laws of a suite. -/
structure Lawful (suite : Suite) : Prop where
  /-- Those of the group of public keys. -/
  first : suite.first.Lawful
  /-- Those of the group of signatures. -/
  second : suite.second.Lawful
  /-- The generator is not zero. -/
  generator_ne : suite.generator ≠ suite.first.zero
  /-- The point of a message is not zero. -/
  hash_ne : ∀ msg, suite.hash msg ≠ suite.second.zero
  /-- There is a pairing. -/
  paired : Nonempty suite.Pairing

namespace Pairing

/-- The pairing of a repeated sum on the left. -/
theorem pair_times_left (pairing : suite.Pairing) (lawful : suite.first.Lawful) (count : Nat)
    (a : suite.First) (b : suite.Second) :
    pairing.pair (suite.first.times count a) b = pairing.pair a b ^ count := by
  induction count with
  | zero =>
    have doubled := pairing.pair_add_left suite.first.zero suite.first.zero b
    rw [lawful.zero_add] at doubled
    rw [pow_zero]
    exact left_eq_mul.mp doubled
  | succ count ih => rw [Group.times, pairing.pair_add_left, ih, pow_succ]

/-- The pairing of a repeated sum on the right. -/
theorem pair_times_right (pairing : suite.Pairing) (lawful : suite.second.Lawful) (count : Nat)
    (a : suite.First) (b : suite.Second) :
    pairing.pair a (suite.second.times count b) = pairing.pair a b ^ count := by
  induction count with
  | zero =>
    have doubled := pairing.pair_add_right a suite.second.zero suite.second.zero
    rw [lawful.zero_add] at doubled
    rw [pow_zero]
    exact left_eq_mul.mp doubled
  | succ count ih => rw [Group.times, pairing.pair_add_right, ih, pow_succ]

/-- The pairing of elements other than zero has the order of the groups. -/
theorem orderOf_pair (pairing : suite.Pairing) (lawful : suite.Lawful) {a : suite.First}
    {b : suite.Second} (left : a ≠ suite.first.zero) (right : b ≠ suite.second.zero) :
    orderOf (pairing.pair a b) = groupOrder := by
  refine orderOf_eq_prime ?_ ?_
  · rw [← pairing.pair_times_left lawful.first, lawful.first.times_groupOrder,
      ← Group.times, pairing.pair_times_left lawful.first 0 a b, pow_zero]
  · intro trivial
    obtain ⟨c, d, nontrivial⟩ := pairing.nontrivial
    obtain ⟨m, rfl⟩ := lawful.first.exists_scale left c
    obtain ⟨n, rfl⟩ := lawful.second.exists_scale right d
    rw [lawful.first.scale_eq, lawful.second.scale_eq, pairing.pair_times_left lawful.first,
      pairing.pair_times_right lawful.second, trivial, one_pow, one_pow] at nontrivial
    exact nontrivial rfl

end Pairing

/-- A point signs under the public key of a secret exactly if it is the multiple of the point of the
message by the secret. -/
theorem Lawful.signs_iff (lawful : suite.Lawful) (secret : Scalar) {hashed : suite.Second}
    (nonzero : hashed ≠ suite.second.zero) (signature : suite.Second) :
    signs suite (suite.first.scale secret suite.generator) hashed signature = true ↔
      signature = suite.second.scale secret hashed := by
  obtain ⟨pairing⟩ := lawful.paired
  obtain ⟨n, rfl⟩ := lawful.second.exists_scale nonzero signature
  have order := pairing.orderOf_pair lawful lawful.generator_ne nonzero
  rw [signs, pairing.samePairing_iff, lawful.first.scale_eq, lawful.second.scale_eq,
    pairing.pair_times_left lawful.first, pairing.pair_times_right lawful.second,
    pow_eq_pow_iff_modEq, order, Nat.ModEq, Nat.mod_eq_of_lt secret.isLt, Nat.mod_eq_of_lt n.isLt,
    ← lawful.second.scale_eq]
  constructor
  · intro same
    rw [Fin.ext same]
  · intro same
    rw [lawful.second.scale_injective nonzero same]

end Suite

end ThresholdDaemon.Threshold
