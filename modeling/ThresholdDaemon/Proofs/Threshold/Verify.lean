import ThresholdDaemon.Proofs.Threshold.Exponents
import ThresholdDaemon.Proofs.Threshold.Sign

/-!
# Signing and verifying agree

Under the laws of a suite, signature shares verify under a dealt group key exactly if there are
enough of them, no two have one number, all numbers have been dealt and each share is the point that
signing with the dealt key share of its number gives.
-/
namespace ThresholdDaemon.Threshold

open Curve (Scalar)

variable {suite : Suite}

/-- Shares are read exactly if their numbers have been dealt and are new, and their material is
that of points. -/
theorem readShares_eq_ok {l : UInt64} {seen : List UInt64} {shares : List SignatureShare}
    {points : List (UInt64 × suite.Second)} :
    readShares suite l seen shares = .ok points ↔
      (∀ share ∈ shares, share.id < l ∧ share.id ∉ seen) ∧ (shares.map (·.id)).Nodup ∧
        List.Forall₂ (fun share point =>
            share.id = point.1 ∧ suite.second.ofValue share.signature = .ok point.2)
          shares points := by
  -- Each share read is seen by those behind it, so the numbers seen vary along the list.
  induction shares generalizing seen points with
  | nil =>
    simp [readShares, eq_comm]
  | cons share rest ih =>
    rw [readShares]
    by_cases dealt : share.id < l
    · rw [if_neg (not_not.mpr dealt)]
      by_cases again : share.id ∈ seen
      · simp [again]
      · rw [if_neg (by simpa using again), bind_eq_ok]
        constructor
        · rintro ⟨point, read, behind⟩
          obtain ⟨more, others, same⟩ := bind_eq_ok.mp behind
          obtain ⟨fresh, distinct, points⟩ := ih.mp others
          obtain rfl := Except.ok.inj same
          refine ⟨?_, ?_, .cons ⟨rfl, readMaterial_eq_ok.mp read⟩ points⟩
          · rintro other (_ | ⟨_, member⟩)
            · exact ⟨dealt, again⟩
            · exact ⟨(fresh other member).1, fun old => (fresh other member).2 (.tail _ old)⟩
          · refine List.nodup_cons.mpr ⟨fun member => ?_, distinct⟩
            obtain ⟨other, listed, same⟩ := List.mem_map.mp member
            exact (fresh other listed).2 (same ▸ List.mem_cons_self)
        · rintro ⟨fresh, distinct, _ | ⟨⟨number, read⟩, points⟩⟩
          obtain ⟨new, distinct⟩ := List.nodup_cons.mp distinct
          rename_i point more
          refine ⟨point.2, readMaterial_eq_ok.mpr read,
            bind_eq_ok.mpr ⟨more, ih.mpr ⟨?_, distinct, points⟩, ?_⟩⟩
          · intro other member
            refine ⟨(fresh other (.tail _ member)).1, ?_⟩
            intro old
            obtain same | old := List.mem_cons.mp old
            · exact new (List.mem_map.mpr ⟨other, member, same⟩)
            · exact (fresh other (.tail _ member)).2 old
          · exact congrArg (fun id => Except.ok ((id, point.2) :: more)) number
    · rw [if_pos dealt]
      simp [dealt]

/-- Shares that are read keep their numbers. -/
theorem numbers_of_readShares {l : UInt64} {shares : List SignatureShare}
    {points : List (UInt64 × suite.Second)} (read : readShares suite l [] shares = .ok points) :
    points.map (·.1) = shares.map (·.id) := by
  obtain ⟨-, -, each⟩ := readShares_eq_ok.mp read
  clear read
  induction each with
  | nil => rfl
  | cons same _ ih => rw [List.map_cons, List.map_cons, ih, same.1]

/-- Shares with different numbers are taken at different points. -/
theorem sharePoint_injective : Function.Injective sharePoint := by
  have val (id : UInt64) : (sharePoint id).val = id.toNat + 1 := by
    have small := id.toNat_lt
    refine Nat.mod_eq_of_lt ?_
    unfold Curve.groupOrder
    omega
  intro a b same
  have values := congrArg Fin.val same
  rw [val, val] at values
  exact UInt64.toNat_inj.mp (Nat.succ.inj values)

/-- The points of a message that belong to the numbers of shares under a polynomial. -/
def IsShareOf (suite : Suite) (polynomial : List Scalar) (msg : Bytes)
    (share : UInt64 × suite.Second) : Prop :=
  share.2 = suite.second.scale (evaluate polynomial (sharePoint share.1)) (suite.hash msg)

/-- The public key of a polynomial. -/
def commitmentOf (suite : Suite) (polynomial : List Scalar) : List suite.First :=
  polynomial.map fun coefficient => suite.first.scale coefficient suite.generator

/-- A share passes the check of its own exactly if it is the share with its number. -/
theorem shareSigns_iff (lawful : suite.Lawful) (polynomial : List Scalar) (msg : Bytes)
    (share : UInt64 × suite.Second) :
    shareSigns suite (commitmentOf suite polynomial) (suite.hash msg) share = true ↔
      IsShareOf suite polynomial msg share := by
  unfold shareSigns commitmentOf
  rw [lawful.first.evaluate_scale]
  exact lawful.signs_iff _ (lawful.hash_ne msg) share.2

/-- Shares are combined if there are enough of them, whatever their numbers are. -/
theorem combine_of_enough {required : Nat} {shares : List (UInt64 × suite.Second)}
    (enough : required ≤ shares.length) :
    combine suite required shares = .ok (suite.second.interpolate
      ((shares.take required).map fun share => (sharePoint share.1, share.2))) := by
  unfold combine
  rw [if_neg (Nat.not_lt.mpr enough)]
  refine if_neg ?_
  rw [List.any_eq_true]
  rintro ⟨x, -, zero⟩
  exact differences_ne_zero _ x (of_decide_eq_true zero)

/-- Shares with different numbers combine to the signature, if there are enough of them. -/
theorem combine_eq (lawful : suite.Lawful) {polynomial : List Scalar} {msg : Bytes}
    {shares : List (UInt64 × suite.Second)} (distinct : (shares.map (·.1)).Nodup)
    (valid : ∀ share ∈ shares, IsShareOf suite polynomial msg share)
    (enough : polynomial.length ≤ shares.length) :
    combine suite polynomial.length shares =
      .ok (suite.second.scale (polynomial.headD 0) (suite.hash msg)) := by
  -- Only the first shares are combined, as many as the polynomial has coefficients.
  let chosen := shares.take polynomial.length
  have samples : (chosen.map fun share => (sharePoint share.1, share.2)) =
      (chosen.map fun share => sharePoint share.1).map fun x =>
        (x, suite.second.scale (evaluate polynomial x) (suite.hash msg)) := by
    rw [List.map_map]
    refine List.map_congr_left fun share member => ?_
    exact congrArg (sharePoint share.1, ·) (valid share (List.mem_of_mem_take member))
  have different : (chosen.map fun share => sharePoint share.1).Nodup := by
    have numbers : (chosen.map (·.1)).Nodup := by
      rw [List.map_take]
      exact distinct.sublist (List.take_sublist _ _)
    have points := numbers.map sharePoint_injective
    rwa [List.map_map] at points
  have as_many : polynomial.length ≤ (chosen.map fun share => sharePoint share.1).length := by
    rw [List.length_map, List.length_take, Nat.min_eq_left enough]
  rw [combine_of_enough enough]
  refine congrArg Except.ok ?_
  show suite.second.interpolate (chosen.map fun share => (sharePoint share.1, share.2)) = _
  rw [samples]
  exact lawful.second.interpolate_scale polynomial different as_many _

/-- Signature shares verify under the public key of a polynomial exactly if they can be read, each
is the share with its number and there are as many as the polynomial has coefficients. -/
theorem verifyUnder_eq_ok_true (lawful : suite.Lawful) {polynomial : List Scalar}
    {groupKey : GroupKey} (declared : UInt64.ofNat polynomial.length = groupKey.k)
    (shares : List SignatureShare) (msg : Bytes) :
    verifyUnder suite (commitmentOf suite polynomial) groupKey shares msg = .ok true ↔
      ∃ points, readShares suite groupKey.l [] shares = .ok points ∧
        (∀ point ∈ points, IsShareOf suite polynomial msg point) ∧
        polynomial.length ≤ points.length := by
  have length : (commitmentOf suite polynomial).length = polynomial.length := List.length_map _
  have first : (commitmentOf suite polynomial).headD suite.first.zero =
      suite.first.scale (polynomial.headD 0) suite.generator := by
    cases polynomial with
    | nil => exact (lawful.first.scale_eq 0 suite.generator).symm
    | cons coefficient rest => rfl
  unfold verifyUnder
  rw [length, first]
  simp only [ne_eq, declared, not_true_eq_false, if_false, bind_eq_ok]
  have all_valid (points : List (UInt64 × suite.Second)) :
      points.all (shareSigns suite (commitmentOf suite polynomial) (suite.hash msg)) = true ↔
        ∀ point ∈ points, IsShareOf suite polynomial msg point := by
    simp only [List.all_eq_true, shareSigns_iff lawful]
  constructor
  · rintro ⟨points, read, checked⟩
    split at checked
    · exact nomatch checked
    next valid =>
      refine ⟨points, read, (all_valid points).mp (not_not.mp valid), ?_⟩
      -- That there are enough shares is checked only as they are combined.
      obtain ⟨signature, combined, -⟩ := bind_eq_ok.mp checked
      by_contra few
      rw [combine, if_pos (Nat.lt_of_not_le few)] at combined
      exact nomatch combined
  · rintro ⟨points, read, valid, enough⟩
    have distinct : (points.map (·.1)).Nodup := by
      rw [numbers_of_readShares read]
      exact (readShares_eq_ok.mp read).2.1
    refine ⟨points, read, ?_⟩
    rw [if_neg (not_not.mpr ((all_valid points).mpr valid)),
      combine_eq lawful distinct valid enough]
    exact congrArg Except.ok ((lawful.signs_iff _ (lawful.hash_ne msg) _).mpr rfl)

/-- A key with a coefficient is verified under. -/
theorem verify_of_commitment {groupKey : GroupKey} {commitment : List suite.First}
    (read : commitmentOfValue suite groupKey.key = .ok commitment) (some_point : commitment ≠ [])
    (shares : List SignatureShare) (msg : Bytes) :
    verify suite groupKey shares msg =
      settled (verifyUnder suite commitment groupKey shares msg) := by
  have found : readMaterial .groupKey (commitmentOfValue suite) groupKey.key = .ok commitment :=
    readMaterial_eq_ok.mpr read
  unfold verify
  rw [found]
  cases commitment with
  | nil => exact absurd rfl some_point
  | cons point rest => rfl

/-- Signature shares verify under a dealt group key exactly if there are enough of them, no two have
one number, all numbers have been dealt and each is the share with its number. -/
theorem verify_keysOf_eq_true (lawful : suite.Lawful) (keySize : UInt32) {l k : UInt64}
    (positive : k ≠ 0) {polynomial : List Scalar} (length : polynomial.length = k.toNat)
    (shares : List SignatureShare) (msg : Bytes) :
    verify suite (keysOf suite keySize l k polynomial).groupKey shares msg = .returns true ↔
      k.toNat ≤ shares.length ∧ (shares.map (·.id)).Nodup ∧ (∀ share ∈ shares, share.id < l) ∧
        ∀ share ∈ shares, suite.second.ofValue share.signature = .ok
          (suite.second.scale (evaluate polynomial (sharePoint share.id)) (suite.hash msg)) := by
  have read : commitmentOfValue suite (keysOf suite keySize l k polynomial).groupKey.key =
      .ok (commitmentOf suite polynomial) := commitmentOfValue_publicKeyValue lawful.first _
  have declared : UInt64.ofNat polynomial.length = k := by
    rw [length]
    exact UInt64.ofNat_toNat
  have some_point : commitmentOf suite polynomial ≠ [] := by
    rintro none
    obtain rfl := List.map_eq_nil_iff.mp none
    exact positive (UInt64.toNat_inj.mp length.symm)
  have settles (result : Except ProviderError Bool) :
      settled result = .returns true ↔ result = .ok true := by
    cases result <;> simp [settled]
  rw [verify_of_commitment read some_point, settles, verifyUnder_eq_ok_true lawful declared, length]
  constructor
  · rintro ⟨points, shared, valid, enough⟩
    obtain ⟨fresh, distinct, each⟩ := readShares_eq_ok.mp shared
    rw [← each.length_eq] at enough
    refine ⟨enough, distinct, fun share member => (fresh share member).1, ?_⟩
    intro share member
    obtain ⟨place, inside, rfl⟩ := List.getElem_of_mem member
    have beside : place < points.length := each.length_eq ▸ inside
    obtain ⟨number, point⟩ := each.get inside beside
    rw [List.get_eq_getElem] at number point
    rw [point, number]
    exact congrArg Except.ok (valid _ (List.getElem_mem beside))
  · rintro ⟨enough, distinct, dealt, signed⟩
    refine ⟨shares.map fun share => (share.id,
      suite.second.scale (evaluate polynomial (sharePoint share.id)) (suite.hash msg)),
      readShares_eq_ok.mpr ⟨?_, distinct, ?_⟩, ?_, ?_⟩
    · exact fun share member => ⟨dealt share member, List.not_mem_nil⟩
    · rw [List.forall₂_map_right_iff, List.forall₂_same]
      exact fun share member => ⟨rfl, signed share member⟩
    · intro point member
      obtain ⟨share, -, rfl⟩ := List.mem_map.mp member
      rfl
    · rwa [List.length_map]

/-- Whatever polynomial is drawn for a deal, signature shares verify under the group key exactly if
there are enough of them, no two have one number, all numbers have been dealt and the material of
each is the same point as that which signing with the dealt key share of its number gives. So the
signatures of any key shares, if there are enough of them, verify in any order. -/
theorem verify_dealt_iff (lawful : suite.Lawful) {keySize : UInt32} (offered : keySize ∈ keySizes)
    {l k : UInt64} (positive : 1 ≤ k) (fits : k ≤ l) (few : l ≤ 1024) (coins : Coins) :
    ∃ keys, (((provider suite).deal keySize l k).run coins).1 = .returns keys ∧ ∀ msg,
      (∀ shares, verify suite keys.groupKey shares msg = .returns true ↔
        k.toNat ≤ shares.length ∧ (shares.map (·.id)).Nodup ∧ (∀ share ∈ shares, share.id < l) ∧
          ∀ share ∈ shares, ∃ dealt ∈ keys.shares, dealt.id = share.id ∧ ∃ signed point,
            sign suite dealt msg = .ok signed ∧
              suite.second.ofValue signed.signature = .ok point ∧
              suite.second.ofValue share.signature = .ok point) ∧
      ∀ signers : List KeyShare, (∀ signer ∈ signers, signer ∈ keys.shares) →
        (signers.map (·.id)).Nodup → k.toNat ≤ signers.length →
          ∃ signatures, signers.mapM (sign suite · msg) = .ok signatures ∧
            verify suite keys.groupKey signatures msg = .returns true := by
  let polynomial := (List.range k.toNat).map coins
  have length : polynomial.length = k.toNat := by rw [List.length_map, List.length_range]
  have nonzero : k ≠ 0 := by
    rintro rfl
    exact absurd positive (by decide)
  refine ⟨keysOf suite keySize l k polynomial,
    congrArg Prod.fst (deal_eq suite offered positive fits few coins), fun msg => ⟨?_, ?_⟩⟩
  · intro shares
    rw [verify_keysOf_eq_true lawful keySize nonzero length]
    refine and_congr_right fun _ => and_congr_right fun _ => and_congr_right fun below => ?_
    refine forall_congr' fun share => forall_congr' fun member => ⟨fun point => ?_, ?_⟩
    · obtain ⟨dealt, listed, number⟩ := exists_dealt polynomial (below share member)
      refine ⟨dealt, listed, number, _, _, sign_dealt listed msg,
        lawful.second.ofValue_toValue _, ?_⟩
      rw [number]
      exact point
    · rintro ⟨dealt, listed, number, signed, point, signs, same, read⟩
      obtain rfl := Except.ok.inj (signs.symm.trans (sign_dealt listed msg))
      rw [read, ← same, ← number]
      exact lawful.second.ofValue_toValue _
  · intro signers listed distinct enough
    refine ⟨_, mapM_sign_dealt listed msg, ?_⟩
    rw [verify_keysOf_eq_true lawful keySize nonzero length, List.length_map, List.map_map]
    refine ⟨enough, distinct, ?_, ?_⟩
    · exact List.forall_mem_map.mpr fun signer member => (eq_of_dealt (listed signer member)).1
    · exact List.forall_mem_map.mpr fun signer member => lawful.second.ofValue_toValue _

/-- Two of three key shares that are dealt over the scalars sign, the later one first, and what they
sign verifies. -/
theorem verify_dealt_exponents :
    ∃ keys, (((provider exponentSuite).deal 512 3 2).run Scalar.ofNat).1 = .returns keys ∧
      ∃ first second, keys.shares = first :: second :: keys.shares.drop 2 ∧
        ∃ signatures, [second, first].mapM (sign exponentSuite · [104, 105]) = .ok signatures ∧
          verify exponentSuite keys.groupKey signatures [104, 105] = .returns true := by
  have offered : (512 : UInt32) ∈ keySizes := by decide
  obtain ⟨keys, dealt, agrees⟩ := verify_dealt_iff exponentSuite_lawful offered
    (by decide : (1 : UInt64) ≤ 2) (by decide : (2 : UInt64) ≤ 3) (by decide) Scalar.ofNat
  have drawn := congrArg Prod.fst (deal_eq exponentSuite offered (by decide : (1 : UInt64) ≤ 2)
    (by decide : (2 : UInt64) ≤ 3) (by decide) Scalar.ofNat)
  obtain rfl := Outcome.returns.inj (drawn.symm.trans dealt)
  refine ⟨_, dealt, _, _, rfl, (agrees [104, 105]).2 [_, _] ?_ ?_ ?_⟩
  · rintro signer (_ | ⟨_, _ | ⟨_, none⟩⟩)
    · exact .tail _ (.head _)
    · exact .head _
    · exact nomatch none
  · exact (by decide : [(1 : UInt64), 0].Nodup)
  · exact Nat.le_refl 2

end ThresholdDaemon.Threshold
