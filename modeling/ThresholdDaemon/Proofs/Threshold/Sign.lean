import ThresholdDaemon.Proofs.Threshold.Material
import ThresholdDaemon.Threshold.Provider

/-!
# Dealing and signing

Keys are dealt from the polynomial that the next coins give, and a dealt key share signs with the
value of that polynomial at its point.
-/
namespace ThresholdDaemon.Threshold

open Curve (Scalar)

variable {suite : Suite}

/-- Material is taken apart exactly if it is read. -/
theorem readMaterial_eq_ok {α : Type} {what : MaterialKind}
    {read : Json.Value → Except Json.Cause α} {material : Material} {value : α} :
    readMaterial what read material = .ok value ↔ read material = .ok value := by
  unfold readMaterial
  cases read material <;> simp [Except.mapError]

/-- Dealing succeeds with every key size on offer and as many shares as a deal may have, and every
polynomial with one coefficient for each share needed may be drawn. -/
theorem deal_eq (suite : Suite) {keySize : UInt32} (offered : keySize ∈ keySizes) {l k : UInt64}
    (positive : 1 ≤ k) (fits : k ≤ l) (few : l ≤ maxShares) (coins : Coins) :
    ((provider suite).deal keySize l k).run coins =
      (.returns (keysOf suite keySize l k ((List.range k.toNat).map coins)),
        fun n => coins (k.toNat + n)) := by
  have valid : ¬ (k = 0 ∨ l < k ∨ maxShares < l) := by
    rintro (rfl | many | more)
    · exact absurd positive (by decide)
    · exact UInt64.not_lt.mpr fits many
    · exact UInt64.not_lt.mpr few more
  show (deal suite keySize l k).run coins = _
  unfold deal
  rw [if_neg (not_not.mpr (List.contains_iff_mem.mpr offered)), if_neg valid]
  rfl

/-- Keys that are dealt are those of the polynomial that the next coins give. -/
theorem deal_returns {keySize : UInt32} {l k : UInt64} {coins : Coins} {keys : DealtKeys}
    (dealt : (((provider suite).deal keySize l k).run coins).1 = .returns keys) :
    keys = keysOf suite keySize l k ((List.range k.toNat).map coins) := by
  change ((deal suite keySize l k).run coins).1 = .returns keys at dealt
  unfold deal at dealt
  by_cases offered : keySizes.contains keySize
  · rw [if_neg (not_not.mpr offered)] at dealt
    by_cases invalid : k = 0 ∨ l < k ∨ maxShares < l
    · rw [if_pos invalid] at dealt
      exact nomatch dealt
    · rw [if_neg invalid] at dealt
      exact (Outcome.returns.inj dealt).symm
  · rw [if_pos offered] at dealt
    exact nomatch dealt

/-- Every number below the number of shares is that of a dealt share. -/
theorem exists_dealt {keySize : UInt32} {l k : UInt64} (polynomial : List Scalar) {id : UInt64}
    (below : id < l) :
    ∃ dealt ∈ (keysOf suite keySize l k polynomial).shares, dealt.id = id := by
  refine ⟨_, List.mem_map.mpr ⟨id.toNat, List.mem_range.mpr below, rfl⟩, ?_⟩
  exact UInt64.ofNat_toNat

/-- A dealt share has a number below the number of shares and is a value of the polynomial. -/
theorem eq_of_dealt {keySize : UInt32} {l k : UInt64} {polynomial : List Scalar} {dealt : KeyShare}
    (member : dealt ∈ (keysOf suite keySize l k polynomial).shares) :
    dealt.id < l ∧ dealt.share = scalarValue (evaluate polynomial (sharePoint dealt.id)) := by
  obtain ⟨index, inside, rfl⟩ := List.mem_map.mp member
  have small : index < l.toNat := List.mem_range.mp inside
  have bound := l.toNat_lt
  refine ⟨?_, rfl⟩
  rw [UInt64.lt_iff_toNat_lt, UInt64.toNat_ofNat']
  omega

/-- The share of a signature that belongs to a number under a polynomial. -/
def signatureShare (suite : Suite) (polynomial : List Scalar) (msg : Bytes) (id : UInt64) :
    SignatureShare :=
  ⟨id, suite.second.toValue
    (suite.second.scale (evaluate polynomial (sharePoint id)) (suite.hash msg))⟩

/-- A dealt key share signs with the value of the polynomial at its point. -/
theorem sign_dealt {keySize : UInt32} {l k : UInt64} {polynomial : List Scalar} {dealt : KeyShare}
    (member : dealt ∈ (keysOf suite keySize l k polynomial).shares) (msg : Bytes) :
    sign suite dealt msg = .ok (signatureShare suite polynomial msg dealt.id) := by
  refine bind_eq_ok.mpr ⟨evaluate polynomial (sharePoint dealt.id), ?_, rfl⟩
  rw [readMaterial_eq_ok, (eq_of_dealt member).2]
  exact scalarOfValue_scalarValue _

/-- Some dealt key shares sign one by one, and each gives the share with its number. -/
theorem mapM_sign_dealt {keySize : UInt32} {l k : UInt64} {polynomial : List Scalar}
    {signers : List KeyShare}
    (dealt : ∀ signer ∈ signers, signer ∈ (keysOf suite keySize l k polynomial).shares)
    (msg : Bytes) :
    signers.mapM (sign suite · msg) =
      .ok (signers.map fun signer => signatureShare suite polynomial msg signer.id) := by
  induction signers with
  | nil => rfl
  | cons signer rest ih =>
    obtain ⟨first, others⟩ := List.forall_mem_cons.mp dealt
    rw [List.mapM_cons, sign_dealt first, ih others]
    rfl

end ThresholdDaemon.Threshold
