import ThresholdDaemon.Proofs.Threshold.Exponents
import ThresholdDaemon.Proofs.Threshold.Sign

/-!
# What a deal gives out

A deal is refused exactly for a size that is not on offer or for counts that cannot be shared out.
Every other deal gives out one polynomial twice: its values at the numbers of the shares, counted
from one, are the key shares, and its coefficients are those of the group key, which has the
multiples of the generator by the same values.
-/
namespace ThresholdDaemon.Threshold

open Curve (Scalar groupOrder)
open Curve.Scalar (residue)
open Polynomial

variable {suite : Suite} {keySize : UInt32} {l k : UInt64}

/-- The coefficients of a polynomial are those that it is given by, and zero behind them. -/
theorem coeff_polynomial (coefficients : List Scalar) (place : Nat) :
    (polynomial coefficients).coeff place = coefficients[place]?.elim 0 residue := by
  induction coefficients generalizing place with
  | nil => simp [polynomial]
  | cons coefficient rest ih =>
    show (C (residue coefficient) + X * polynomial rest).coeff place = _
    cases place with
    | zero => simp
    | succ place => simpa [coeff_C_succ] using ih place

/-- The share with a number is taken at the point that is one more. -/
theorem residue_sharePoint (id : UInt64) : residue (sharePoint id) = id.toNat + 1 := by
  rw [sharePoint, Curve.Scalar.residue_ofNat, Nat.cast_succ]

/-- The value of a polynomial at the point of a share. -/
theorem residue_evaluate_sharePoint (coefficients : List Scalar) (id : UInt64) :
    residue (evaluate coefficients (sharePoint id)) =
      (polynomial coefficients).eval (id.toNat + 1 : ZMod groupOrder) := by
  rw [residue_evaluate, residue_sharePoint]

/-- Dealt keys share out a polynomial. -/
structure SharesOut (suite : Suite) (keySize : UInt32) (l k : UInt64)
    (secret : (ZMod groupOrder)[X]) (keys : DealtKeys) : Prop where
  /-- The group key has the parameters of the deal. -/
  echoes : keys.groupKey.keySize = keySize ∧ keys.groupKey.l = l ∧ keys.groupKey.k = k
  /-- The shares are numbered from zero, in order. -/
  numbers : keys.shares.map (·.id.toNat) = List.range l.toNat
  /-- The material of each share is the value of the polynomial at one more than its number. -/
  values : ∀ share ∈ keys.shares, ∃ value, scalarOfValue share.share = .ok value ∧
    residue value = secret.eval (share.id.toNat + 1 : ZMod groupOrder)
  /-- The material of the group key is as many points as sign, and its value for a number is as
  many times the generator as the polynomial says there. -/
  commits : ∃ points, commitmentOfValue suite keys.groupKey.key = .ok points ∧
    points.length = k.toNat ∧ ∀ id : UInt64,
      suite.first.evaluate points (sharePoint id) =
        suite.first.times (secret.eval (id.toNat + 1 : ZMod groupOrder)).val suite.generator

/-- The shares of a polynomial are numbered from zero, in order. -/
theorem numbers_keysOf (suite : Suite) (keySize : UInt32) (l k : UInt64)
    (coefficients : List Scalar) :
    (keysOf suite keySize l k coefficients).shares.map (·.id.toNat) = List.range l.toNat := by
  have each : ∀ index ∈ List.range l.toNat, (UInt64.ofNat index).toNat = index := fun index member =>
    UInt64.toNat_ofNat_of_lt' (Nat.lt_trans (List.mem_range.mp member) l.toNat_lt)
  show ((List.range l.toNat).map fun index => _).map _ = _
  rw [List.map_map]
  exact (List.map_congr_left each).trans (List.map_id _)

/-- The keys of a polynomial share it out. -/
theorem sharesOut_keysOf (lawful : suite.first.Lawful) (keySize : UInt32) (l : UInt64)
    {coefficients : List Scalar} (length : coefficients.length = k.toNat) :
    SharesOut suite keySize l k (polynomial coefficients)
      (keysOf suite keySize l k coefficients) where
  echoes := ⟨rfl, rfl, rfl⟩
  numbers := numbers_keysOf suite keySize l k coefficients
  values share member := by
    refine ⟨evaluate coefficients (sharePoint share.id), ?_, residue_evaluate_sharePoint _ _⟩
    rw [(eq_of_dealt member).2]
    exact scalarOfValue_scalarValue _
  commits := by
    refine ⟨_, commitmentOfValue_publicKeyValue lawful _, ?_, fun id => ?_⟩
    · rw [List.length_map, length]
    · rw [lawful.evaluate_scale, lawful.scale_eq, ← residue_evaluate_sharePoint,
        Curve.Scalar.val_residue]

/-- A size that is not on offer is refused, whatever the counts are. -/
theorem deal_of_notMem (foreign : keySize ∉ keySizes) (coins : Coins) :
    (((provider suite).deal keySize l k).run coins).1 = .refuses (.unsupportedKeySize keySize) := by
  have unlisted : ¬ keySizes.contains keySize = true := fun listed =>
    foreign (List.contains_iff_mem.mp listed)
  show ((deal suite keySize l k).run coins).1 = _
  unfold deal
  rw [if_pos unlisted]
  rfl

/-- Counts that cannot be shared out are refused. -/
theorem deal_of_invalid (offered : keySize ∈ keySizes) (invalid : k = 0 ∨ l < k ∨ 1024 < l)
    (coins : Coins) :
    (((provider suite).deal keySize l k).run coins).1 = .refuses (.invalidThreshold k l) := by
  show ((deal suite keySize l k).run coins).1 = _
  unfold deal
  rw [if_neg (not_not.mpr (List.contains_iff_mem.mpr offered))]
  exact congrArg (fun act : StateM Coins (Outcome DealtKeys) => (act.run coins).1) (if_pos invalid)

/-- A deal is refused for a size that is not on offer, else for counts that cannot be shared out,
and else gives out keys that share out the polynomial whose coefficients are the next coins. -/
theorem deal_outcome (lawful : suite.first.Lawful) (keySize : UInt32) (l k : UInt64)
    (coins : Coins) :
    let outcome := (((provider suite).deal keySize l k).run coins).1
    (∀ size, outcome = .refuses (.unsupportedKeySize size) ↔
      size = keySize ∧ keySize ∉ keySizes) ∧
    (∀ needed dealt, outcome = .refuses (.invalidThreshold needed dealt) ↔
      (needed = k ∧ dealt = l) ∧ keySize ∈ keySizes ∧ (k = 0 ∨ l < k ∨ 1024 < l)) ∧
    (keySize ∈ keySizes → ¬ (k = 0 ∨ l < k ∨ 1024 < l) →
      ∃ keys, ∃ secret : (ZMod groupOrder)[X], outcome = .returns keys ∧
        secret.degree < k.toNat ∧ (∀ place < k.toNat, secret.coeff place = residue (coins place)) ∧
        SharesOut suite keySize l k secret keys) := by
  intro outcome
  by_cases offered : keySize ∈ keySizes
  case neg =>
    have refused : outcome = .refuses (.unsupportedKeySize keySize) := deal_of_notMem offered coins
    simp [refused, offered, eq_comm]
  by_cases invalid : k = 0 ∨ l < k ∨ 1024 < l
  case pos =>
    have refused : outcome = .refuses (.invalidThreshold k l) :=
      deal_of_invalid offered invalid coins
    simp [refused, offered, invalid, eq_comm]
  let coefficients := (List.range k.toNat).map coins
  have length : coefficients.length = k.toNat := by rw [List.length_map, List.length_range]
  have dealt : outcome = .returns (keysOf suite keySize l k coefficients) := by
    obtain ⟨positive, fits, few⟩ := by simpa only [not_or] using invalid
    refine congrArg Prod.fst (deal_eq suite offered ?_ (UInt64.not_lt.mp fits)
      (UInt64.not_lt.mp few) coins)
    exact UInt64.not_lt.mp fun none => positive (UInt64.toNat_inj.mp (Nat.lt_one_iff.mp none))
  refine ⟨by simp [dealt, offered], by simp [dealt, invalid], fun _ _ =>
    ⟨_, polynomial coefficients, dealt, ?_, fun place inside => ?_,
      sharesOut_keysOf lawful keySize l length⟩⟩
  · exact length ▸ degree_polynomial_lt coefficients
  · rw [coeff_polynomial, List.getElem?_map, List.getElem?_range inside]
    rfl

/-- Three shares of which two sign share out a line over the scalars, and the same coins give
nothing out if none or more than all have to sign. -/
theorem deal_outcome_exponents :
    exponentSuite.first.Lawful ∧
      (∃ keys, ∃ secret : (ZMod groupOrder)[X],
        (((provider exponentSuite).deal 512 3 2).run Scalar.ofNat).1 = .returns keys ∧
          secret.degree < 2 ∧ secret.coeff 1 = 1 ∧ SharesOut exponentSuite 512 3 2 secret keys) ∧
      (((provider exponentSuite).deal 512 3 4).run Scalar.ofNat).1 =
        .refuses (.invalidThreshold 4 3) ∧
      (((provider exponentSuite).deal 513 3 4).run Scalar.ofNat).1 =
        .refuses (.unsupportedKeySize 513) := by
  have lawful := exponentSuite_lawful.first
  obtain ⟨-, -, given⟩ := deal_outcome lawful 512 3 2 Scalar.ofNat
  obtain ⟨keys, secret, dealt, small, coefficient, shared⟩ := given (by decide) (by decide)
  refine ⟨lawful, ⟨keys, secret, dealt, small, ?_, shared⟩, ?_, ?_⟩
  · rw [coefficient 1 (by decide)]
    exact Curve.Scalar.residue_one
  · exact ((deal_outcome lawful 512 3 4 Scalar.ofNat).2.1 4 3).mpr (by decide)
  · exact ((deal_outcome lawful 513 3 4 Scalar.ofNat).1 513).mpr (by decide)

end ThresholdDaemon.Threshold
