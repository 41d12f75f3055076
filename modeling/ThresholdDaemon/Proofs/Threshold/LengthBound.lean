import ThresholdDaemon.Proofs.Threshold.Deal
import ThresholdDaemon.Proofs.Threshold.Headroom

/-!
# The length stated for signature shares

The provider states how long the material of a signature share is at most. Whatever key share signs
whatever message, the material it gives is no longer, and neither is the material of a dealt key
share. So a dealt key share asks to sign with no longer a frame than its deal keeps for verifying,
as long as the message takes no more than the headroom between its quotes.
-/
namespace ThresholdDaemon.Threshold

open Json.Literal (escaped)

variable {suite : Suite} {coins : Coins}

/-- Keys are dealt only for counts that can be shared out. -/
theorem counts_of_deal_returns {keySize : UInt32} {l k : UInt64} {keys : DealtKeys}
    (dealt : (((provider suite).deal keySize l k).run coins).1 = .returns keys) :
    k ≠ 0 ∧ k ≤ l ∧ l ≤ 1024 := by
  have offered : keySize ∈ keySizes := by
    by_contra foreign
    exact nomatch (deal_of_notMem foreign coins).symm.trans dealt
  have valid : ¬ (k = 0 ∨ l < k ∨ 1024 < l) := by
    intro invalid
    exact nomatch (deal_of_invalid offered invalid coins).symm.trans dealt
  rw [not_or, not_or] at valid
  obtain ⟨positive, fits, few⟩ := valid
  exact ⟨positive, UInt64.not_lt.mp fits, UInt64.not_lt.mp few⟩

/-- The provider returns the share that signing gives. -/
theorem sign_returns_iff {share : KeyShare} {msg : Bytes} {signed : SignatureShare} :
    (((provider suite).sign share msg).run coins).1 = .returns signed ↔
      sign suite share msg = .ok signed := by
  show settled (sign suite share msg) = _ ↔ _
  cases sign suite share msg with
  | error fault => exact iff_of_false nofun nofun
  | ok other => rw [settled, Outcome.returns.injEq, Except.ok.injEq]

/-- The material of a signature share is a point, whatever the key share and the message are. -/
theorem exists_point_of_sign {share : KeyShare} {msg : Bytes} {signed : SignatureShare}
    (signs : sign suite share msg = .ok signed) :
    ∃ point, signed.signature = suite.second.toValue point := by
  obtain ⟨secret, -, given⟩ := bind_eq_ok.mp signs
  obtain rfl := Except.ok.inj given
  exact ⟨_, rfl⟩

/-- The longest request to verify can be put into memory if few shares sign. -/
theorem exceedsMemory_of_few {key : GroupKey} (few : key.k ≤ 1024) :
    key.exceedsMemory signatureLengthBound = false := by
  have signers : key.k.toNat ≤ 1024 := few
  have material : ¬ allocationMax < signatureLengthBound - 2 := by decide
  have shares : ¬ allocationMax < key.k.toNat * shareSize := by
    unfold allocationMax halfWordCount shareSize
    omega
  rw [GroupKey.exceedsMemory, decide_eq_false material, decide_eq_false shares]
  rfl

/-- The length that the provider states is a bound on the material of every signature share it
gives and of every key share it deals. With keys that are dealt, the length of the longest request
to verify is always found, and a request to sign is no longer as long as the message takes at most
1024 bytes between its quotes. -/
theorem curveProvider_within_bound :
    (∀ share msg coins signed, ((curveProvider.sign share msg).run coins).1 = .returns signed →
      byteLength signed.signature.print ≤ curveProvider.signatureLengthBound) ∧
    ∀ keySize l k coins keys, ((curveProvider.deal keySize l k).run coins).1 = .returns keys →
      keys.groupKey.exceedsMemory curveProvider.signatureLengthBound = false ∧
      ∀ share ∈ keys.shares,
        byteLength share.share.print ≤ curveProvider.signatureLengthBound ∧
        ∀ msg : String, byteLength (escaped msg.toList) ≤ 1024 →
          (SignRequest.frame ⟨share, msg⟩).length ≤
            keys.groupKey.verifyBound curveProvider.signatureLengthBound := by
  constructor
  · intro share msg coins signed returned
    obtain ⟨point, material⟩ := exists_point_of_sign (sign_returns_iff.mp returned)
    rw [material]
    exact byteLength_toValue_le point
  · intro keySize l k coins keys dealt
    obtain ⟨positive, fits, few⟩ := counts_of_deal_returns dealt
    obtain rfl := deal_returns dealt
    refine ⟨exceedsMemory_of_few (UInt64.le_trans fits few), fun share member => ?_⟩
    exact ⟨byteLength_dealt_le member, fun msg room => length_signFrame_le positive member room⟩

/-- The share that signs alone signs a message of 512 line feeds, which takes the whole headroom
between its quotes. -/
theorem curveProvider_within_bound_unitKeys :
    let msg := String.ofList (List.replicate 512 '\n')
    byteLength (escaped msg.toList) = 1024 ∧
      ∃ signer signed, unitKeys.shares = [signer] ∧
        ((curveProvider.sign signer (Bytes.ofString msg)).run fun _ => 1).1 = .returns signed ∧
        byteLength signed.signature.print ≤ 385 ∧ byteLength signer.share.print ≤ 385 ∧
        (SignRequest.frame ⟨signer, msg⟩).length ≤ unitKeys.groupKey.verifyBound 385 := by
  intro msg
  have room : byteLength (escaped msg.toList) = 1024 := byteLength_escaped_lineFeeds 512
  have member : (⟨0, scalarValue (evaluate [1] (sharePoint 0))⟩ : KeyShare) ∈ unitKeys.shares := by
    rw [unitKeys_shares]
    exact List.mem_cons_self
  have signs : ((curveProvider.sign _ (Bytes.ofString msg)).run fun _ => 1).1 = .returns _ :=
    sign_returns_iff.mpr (sign_dealt member _)
  obtain ⟨signed, dealt⟩ := curveProvider_within_bound
  obtain ⟨-, within⟩ := dealt 512 1 1 (fun _ => 1) unitKeys deal_unitKeys
  obtain ⟨material, frame⟩ := within _ member
  exact ⟨room, _, _, unitKeys_shares, signs, signed _ _ _ _ signs, material,
    frame msg (Nat.le_of_eq room)⟩

end ThresholdDaemon.Threshold
