import ThresholdDaemon.Proofs.Dispatch.Plan
import ThresholdDaemon.Proofs.Threshold.Verdict
import ThresholdDaemon.Proofs.Threshold.Verify

/-!
# The outcome of a verification

What verification comes to is decided by a chain of questions, whatever the group key and the shares
hold: whether the key can be read, whether it needs as many shares as it declares, whether a share
has a fault of its own, whether a share fails its pairing, and whether there are enough shares. The
first share with a fault decides, and no share is looked at behind it. Shares that pass all of this
always combine to a signature, as different numbers are different points.
-/
namespace ThresholdDaemon.Threshold

open Curve (Scalar)
open Dispatcher (judged verdictFrame)

section Faults

variable (suite : Suite) (l : UInt64)

/-- What is wrong with a share that stands behind some others. -/
def shareFault? (before : List SignatureShare) (share : SignatureShare) : Option ProviderError :=
  if l ≤ share.id then some (.shareOutOfRange share.id l)
  else if share.id ∈ before.map (·.id) then some (.duplicateShare share.id)
  else
    match suite.second.ofValue share.signature with
    | .error cause => some (.malformedMaterial .signatureShare (.unplaced cause))
    | .ok _ => none

/-- What is wrong with the first of some shares that has a fault, if they stand behind others. -/
def faultBehind? (before shares : List SignatureShare) : Option ProviderError :=
  (List.range shares.length).findSome? fun place =>
    shares[place]?.bind (shareFault? suite l (before ++ shares.take place))

/-- What is wrong with the first of some shares that has a fault. -/
def firstFault? (shares : List SignatureShare) : Option ProviderError :=
  faultBehind? suite l [] shares

variable {suite l} {before shares rest : List SignatureShare} {share : SignatureShare}

/-- A fault of the first share comes before those of the others. -/
theorem faultBehind?_cons :
    faultBehind? suite l before (share :: rest) =
      (shareFault? suite l before share).or (faultBehind? suite l (before ++ [share]) rest) := by
  have here : before ++ (share :: rest).take 0 = before := List.append_nil before
  have later (place : Nat) :
      before ++ (share :: rest).take (place + 1) = before ++ [share] ++ rest.take place := by
    rw [List.take_succ_cons, List.append_assoc]
    rfl
  unfold faultBehind?
  rw [List.length_cons, List.range_succ_eq_map, List.findSome?_cons, List.findSome?_map, here]
  simp only [Function.comp_def, later, List.getElem?_cons_zero, List.getElem?_cons_succ,
    Option.bind_some]
  cases shareFault? suite l before share <;> rfl

/-- Reading shares stops at the first one with a fault, and it stops with that fault. -/
theorem readShares_eq_error_iff {seen : List UInt64} {error : ProviderError}
    (numbers : ∀ id, id ∈ seen ↔ id ∈ before.map (·.id)) :
    readShares suite l seen shares = .error error ↔
      faultBehind? suite l before shares = some error := by
  -- The numbers seen are those of the shares in front, which grow along the list.
  induction shares generalizing seen before with
  | nil => simp [readShares, faultBehind?]
  | cons share rest ih =>
    rw [faultBehind?_cons, readShares, shareFault?]
    by_cases outside : l ≤ share.id
    · rw [if_pos (UInt64.not_lt.mpr outside), if_pos outside]
      simp
    rw [if_neg (not_not.mpr (UInt64.not_le.mp outside)), if_neg outside]
    by_cases again : share.id ∈ seen
    · rw [if_pos (List.contains_iff_mem.mpr again), if_pos ((numbers _).mp again)]
      simp
    rw [if_neg (by simpa using again), if_neg fun old => again ((numbers _).mpr old)]
    have grown : ∀ id, id ∈ share.id :: seen ↔ id ∈ (before ++ [share]).map (·.id) := by
      intro id
      simp [numbers, or_comm]
    unfold readMaterial
    cases suite.second.ofValue share.signature with
    | error cause => simp [Except.mapError, bind, Except.bind]
    | ok point =>
      have behind := ih grown
      rw [Option.none_or, ← behind]
      cases readShares suite l (share.id :: seen) rest <;>
        simp [Except.mapError, bind, Except.bind, pure, Except.pure]

/-- Shares are read exactly if none of them has a fault. -/
theorem exists_points_iff :
    (∃ points, readShares suite l [] shares = .ok points) ↔ firstFault? suite l shares = none := by
  have stops (error : ProviderError) : readShares suite l [] shares = .error error ↔
      firstFault? suite l shares = some error := readShares_eq_error_iff (by simp)
  cases read : readShares suite l [] shares with
  | error error =>
    have fault := (stops error).mp read
    simp [fault]
  | ok points =>
    have no_fault : firstFault? suite l shares = none := by
      by_contra fault
      obtain ⟨error, found⟩ := Option.ne_none_iff_exists'.mp fault
      rw [(stops error).mpr found] at read
      exact nomatch read
    simp [no_fault]

end Faults

variable {suite : Suite}

/-- The material of a share passes the pairing check for its number. -/
def passes (suite : Suite) (commitment : List suite.First) (msg : Bytes) (share : SignatureShare) :
    Bool :=
  match suite.second.ofValue share.signature with
  | .error _ => false
  | .ok point =>
    suite.samePairing (suite.first.evaluate commitment (sharePoint share.id)) (suite.hash msg)
      suite.generator point

/-- Shares that are read pass their checks if their points do. -/
theorem all_passes {l : UInt64} {shares : List SignatureShare}
    {points : List (UInt64 × suite.Second)} (read : readShares suite l [] shares = .ok points)
    (commitment : List suite.First) (msg : Bytes) :
    points.all (shareSigns suite commitment (suite.hash msg)) =
      shares.all (passes suite commitment msg) := by
  obtain ⟨-, -, each⟩ := readShares_eq_ok.mp read
  clear read
  induction each with
  | nil => rfl
  | @cons share point shares points one _ ih =>
    have same : passes suite commitment msg share =
        shareSigns suite commitment (suite.hash msg) point := by
      unfold passes
      rw [one.2, one.1]
      rfl
    rw [List.all_cons, List.all_cons, ih, same]

/-- Every public key is that of a polynomial. -/
theorem exists_commitmentOf (lawful : suite.Lawful) (commitment : List suite.First) :
    ∃ polynomial, commitment = commitmentOf suite polynomial := by
  induction commitment with
  | nil => exact ⟨[], rfl⟩
  | cons point rest ih =>
    obtain ⟨coefficient, scaled⟩ := lawful.first.exists_scale lawful.generator_ne point
    obtain ⟨polynomial, others⟩ := ih
    refine ⟨coefficient :: polynomial, ?_⟩
    rw [others, ← scaled]
    rfl

/-- Shares of which one has a fault are refused for the first fault. -/
theorem verifyUnder_of_fault {commitment : List suite.First} {groupKey : GroupKey}
    {shares : List SignatureShare} {error : ProviderError}
    (declared : UInt64.ofNat commitment.length = groupKey.k)
    (fault : firstFault? suite groupKey.l shares = some error) (msg : Bytes) :
    verifyUnder suite commitment groupKey shares msg = .error error := by
  have stops : readShares suite groupKey.l [] shares = .error error :=
    (readShares_eq_error_iff (by simp)).mpr fault
  unfold verifyUnder
  rw [if_neg (not_not.mpr declared), stops]
  rfl

/-- Shares without a fault are refused only if there are too few of them, and not even then if one
of them fails its check. -/
theorem verifyUnder_of_readable (lawful : suite.Lawful) {commitment : List suite.First}
    {groupKey : GroupKey} {shares : List SignatureShare}
    (declared : UInt64.ofNat commitment.length = groupKey.k)
    (readable : firstFault? suite groupKey.l shares = none) (msg : Bytes) :
    verifyUnder suite commitment groupKey shares msg =
      if ¬ shares.all (passes suite commitment msg) then .ok false
      else if shares.length < commitment.length then .error (.combine tooFewShares)
      else .ok true := by
  obtain ⟨points, read⟩ := exists_points_iff.mpr readable
  have checks := all_passes read commitment msg
  have count : points.length = shares.length := by
    have numbers := congrArg List.length (numbers_of_readShares read)
    rwa [List.length_map, List.length_map] at numbers
  by_cases passing : shares.all (passes suite commitment msg) = true
  · rw [if_neg (not_not.mpr passing)]
    by_cases few : shares.length < commitment.length
    · rw [if_pos few]
      unfold verifyUnder
      rw [if_neg (not_not.mpr declared), read]
      show (if ¬ points.all (shareSigns suite commitment (suite.hash msg)) then _ else _) = _
      rw [checks, if_neg (not_not.mpr passing), combine, if_pos (count ▸ few)]
      rfl
    · rw [if_neg few]
      obtain ⟨polynomial, rfl⟩ := exists_commitmentOf lawful commitment
      have length : (commitmentOf suite polynomial).length = polynomial.length :=
        List.length_map _
      rw [length] at declared few
      refine (verifyUnder_eq_ok_true lawful declared shares msg).mpr ⟨points, read, ?_, ?_⟩
      · intro point member
        rw [passing, List.all_eq_true] at checks
        exact (shareSigns_iff lawful polynomial msg point).mp (checks point member)
      · rw [count]
        exact Nat.le_of_not_lt few
  · rw [if_pos passing]
    unfold verifyUnder
    rw [if_neg (not_not.mpr declared), read]
    show (if ¬ points.all (shareSigns suite commitment (suite.hash msg)) then _ else _) = _
    rw [checks, if_pos passing]
    rfl

/-- Shares have no fault exactly if all numbers have been dealt, no two shares have one number and
the material of each is a point. -/
theorem firstFault?_eq_none_iff {l : UInt64} {shares : List SignatureShare} :
    firstFault? suite l shares = none ↔
      (∀ share ∈ shares, share.id < l ∧ ∃ point, suite.second.ofValue share.signature = .ok point) ∧
        (shares.map (·.id)).Nodup := by
  rw [← exists_points_iff]
  constructor
  · rintro ⟨points, read⟩
    obtain ⟨dealt, distinct, each⟩ := readShares_eq_ok.mp read
    refine ⟨fun share member => ⟨(dealt share member).1, ?_⟩, distinct⟩
    obtain ⟨place, inside, rfl⟩ := List.getElem_of_mem member
    have beside : place < points.length := each.length_eq ▸ inside
    exact ⟨_, (each.get inside beside).2⟩
  · rintro ⟨sound, distinct⟩
    have some_point : Nonempty suite.Second := ⟨suite.second.zero⟩
    choose! point decoded using fun share member => (sound share member).2
    refine ⟨shares.map fun share => (share.id, point share),
      readShares_eq_ok.mpr ⟨?_, distinct, ?_⟩⟩
    · exact fun share member => ⟨(sound share member).1, List.not_mem_nil⟩
    · rw [List.forall₂_map_right_iff, List.forall₂_same]
      exact fun share member => ⟨rfl, decoded share member⟩

/-- Shares without a fault are taken at different points. -/
theorem nodup_points {l : UInt64} {shares : List SignatureShare}
    (readable : firstFault? suite l shares = none) :
    (shares.map fun share => sharePoint share.id).Nodup := by
  have numbers := (firstFault?_eq_none_iff.mp readable).2
  have points := numbers.map sharePoint_injective
  rwa [List.map_map] at points

/-- A key that cannot be read is refused, whatever the shares are. -/
theorem verify_of_unreadable {groupKey : GroupKey} {cause : Json.Cause}
    (unreadable : commitmentOfValue suite groupKey.key = .error cause)
    (shares : List SignatureShare) (msg : Bytes) :
    verify suite groupKey shares msg =
      .refuses (.malformedMaterial .groupKey (.unplaced cause)) := by
  unfold verify readMaterial
  rw [unreadable]
  rfl

/-- What verification comes to under a key with a coefficient. -/
theorem verify_eq (lawful : suite.Lawful) {groupKey : GroupKey} {commitment : List suite.First}
    (read : commitmentOfValue suite groupKey.key = .ok commitment) (some_point : commitment ≠ [])
    (shares : List SignatureShare) (msg : Bytes) :
    verify suite groupKey shares msg =
      if UInt64.ofNat commitment.length ≠ groupKey.k then
        .refuses (.thresholdMismatch groupKey.k (UInt64.ofNat commitment.length))
      else
        match firstFault? suite groupKey.l shares with
        | some error => .refuses error
        | none =>
          if ¬ shares.all (passes suite commitment msg) then .returns false
          else if shares.length < commitment.length then .refuses (.combine tooFewShares)
          else .returns true := by
  rw [verify_of_commitment read some_point]
  by_cases declared : UInt64.ofNat commitment.length = groupKey.k
  · rw [if_neg (not_not.mpr declared)]
    cases fault : firstFault? suite groupKey.l shares with
    | some error => rw [verifyUnder_of_fault declared fault, settled]
    | none =>
      rw [verifyUnder_of_readable lawful declared fault]
      dsimp only
      rw [apply_ite settled, apply_ite settled]
      rfl
  · rw [if_pos declared]
    unfold verifyUnder
    rw [if_pos declared]
    rfl

/-- Shares verify exactly if the key has as many coefficients as it declares, no share has a fault,
each passes its check and there are enough of them. -/
theorem verify_eq_returns_true_iff (lawful : suite.Lawful) {groupKey : GroupKey}
    {shares : List SignatureShare} {msg : Bytes} :
    verify suite groupKey shares msg = .returns true ↔
      ∃ commitment, commitmentOfValue suite groupKey.key = .ok commitment ∧ commitment ≠ [] ∧
        UInt64.ofNat commitment.length = groupKey.k ∧
        firstFault? suite groupKey.l shares = none ∧
        shares.all (passes suite commitment msg) = true ∧ commitment.length ≤ shares.length := by
  cases read : commitmentOfValue suite groupKey.key with
  | error cause => simp [verify_of_unreadable read]
  | ok commitment =>
    by_cases none : commitment = []
    · have panics : verify suite groupKey shares msg = .panics underflowPanic :=
        verify_eq_panics_iff.mpr ⟨none ▸ read, rfl⟩
      simp [panics, none]
    rw [verify_eq lawful read none]
    constructor
    · intro verified
      refine ⟨commitment, rfl, none, ?_⟩
      split at verified
      · exact nomatch verified
      next declared =>
        split at verified
        · exact nomatch verified
        next readable =>
          split at verified
          · exact nomatch verified
          next passing =>
            split at verified
            · exact nomatch verified
            next enough =>
              exact ⟨not_not.mp declared, readable, not_not.mp passing, Nat.le_of_not_lt enough⟩
    · rintro ⟨_, same, -, declared, readable, passing, enough⟩
      obtain rfl := Except.ok.inj same
      rw [if_neg (not_not.mpr declared), readable]
      dsimp only
      rw [if_neg (not_not.mpr passing), if_neg (Nat.not_lt.mpr enough)]

/-- Whether shares verify does not depend on their order. -/
theorem verify_perm (lawful : suite.Lawful) {groupKey : GroupKey}
    {shares others : List SignatureShare} (same : shares.Perm others) (msg : Bytes) :
    verify suite groupKey shares msg = .returns true ↔
      verify suite groupKey others msg = .returns true := by
  have faults (l : UInt64) :
      firstFault? suite l shares = none ↔ firstFault? suite l others = none := by
    rw [firstFault?_eq_none_iff, firstFault?_eq_none_iff, (same.map _).nodup_iff]
    simp only [same.mem_iff]
  have checks (commitment : List suite.First) :
      shares.all (passes suite commitment msg) = others.all (passes suite commitment msg) :=
    same.all_eq
  simp only [verify_eq_returns_true_iff lawful, faults, checks, same.length_eq]

/-- What becomes of a request to verify that is handled with the provider of a suite. -/
def verifyReply (suite : Suite) (frameLimit : Nat) (coins : Coins) (request : VerifyRequest) :
    Reply :=
  (((⟨provider suite, frameLimit⟩ : Dispatcher Coins).verify request).run coins).1.reply

/-- The calls that the handling of a request to verify makes of the provider of a suite. -/
def verifyCalls (suite : Suite) (frameLimit : Nat) (coins : Coins) (request : VerifyRequest) :
    List ProviderCall :=
  (((⟨(provider suite).recording, frameLimit⟩ : Dispatcher _).verify request).run ([], coins)).2.1

/-- A request is answered by the verdict that its shares are valid exactly if it has as many as its
group key declares and they verify. -/
theorem verifyReply_eq_true_iff {frameLimit : Nat} {coins : Coins} {request : VerifyRequest} :
    verifyReply suite frameLimit coins request = .frame (verdictFrame true) ↔
      request.groupKey.k.toNat ≤ request.signatures.length ∧
        verify suite request.groupKey request.signatures (Bytes.ofString request.msg) =
          .returns true :=
  Dispatcher.reply_verify_eq_true_iff

/-- A number of coefficients that a machine word holds is told by that word. -/
theorem ofNat_ne_iff {count : Nat} (addressable : count < wordCount) {k : UInt64} :
    UInt64.ofNat count ≠ k ↔ count ≠ k.toNat := by
  have value : (UInt64.ofNat count).toNat = count := UInt64.toNat_ofNat_of_lt' addressable
  rw [ne_eq, ne_eq, ← UInt64.toNat_inj, value]

/-- Combining is no fault of a single share. -/
theorem firstFault?_ne_combine (l : UInt64) (shares : List SignatureShare) (reason : String) :
    firstFault? suite l shares ≠ some (.combine reason) := by
  intro fault
  obtain ⟨place, -, found⟩ := List.exists_of_findSome?_eq_some fault
  obtain ⟨share, -, wrong⟩ := Option.bind_eq_some_iff.mp found
  unfold shareFault? at wrong
  split at wrong
  · exact nomatch wrong
  split at wrong
  · exact nomatch wrong
  split at wrong
  · exact nomatch wrong
  · exact nomatch wrong

/-- Shares are refused when they are combined only because there are too few of them. -/
theorem tooFew_of_combine (lawful : suite.Lawful) {groupKey : GroupKey}
    {shares : List SignatureShare} {msg : Bytes} {reason : String}
    (refused : verify suite groupKey shares msg = .refuses (.combine reason)) :
    reason = tooFewShares ∧ ∃ commitment,
      commitmentOfValue suite groupKey.key = .ok commitment ∧
        UInt64.ofNat commitment.length = groupKey.k ∧ shares.length < commitment.length := by
  cases read : commitmentOfValue suite groupKey.key with
  | error cause =>
    rw [verify_of_unreadable read] at refused
    exact nomatch refused
  | ok commitment =>
    by_cases none : commitment = []
    · have panics : verify suite groupKey shares msg = .panics underflowPanic :=
        verify_eq_panics_iff.mpr ⟨none ▸ read, rfl⟩
      rw [panics] at refused
      exact nomatch refused
    rw [verify_eq lawful read none] at refused
    split at refused
    · exact nomatch refused
    next declared =>
      split at refused
      next error fault =>
        obtain rfl := Outcome.refuses.inj refused
        exact absurd fault (firstFault?_ne_combine _ _ reason)
      next readable =>
        split at refused
        · exact nomatch refused
        · split at refused
          next few =>
            refine ⟨?_, commitment, rfl, not_not.mp declared, few⟩
            exact (ProviderError.combine.inj (Outcome.refuses.inj refused)).symm
          · exact nomatch refused

/-- Shares of which there are as many as the group key needs are not refused when they are
combined. -/
theorem verify_ne_combine (lawful : suite.Lawful) {groupKey : GroupKey}
    (addressable : ∀ commitment, commitmentOfValue suite groupKey.key = .ok commitment →
      commitment.length < wordCount)
    {shares : List SignatureShare} (enough : groupKey.k.toNat ≤ shares.length) (msg : Bytes)
    (reason : String) : verify suite groupKey shares msg ≠ .refuses (.combine reason) := by
  intro refused
  obtain ⟨-, commitment, read, declared, few⟩ := tooFew_of_combine lawful refused
  have needed : commitment.length = groupKey.k.toNat := by
    by_contra other
    exact (ofNat_ne_iff (addressable commitment read)).mpr other declared
  omega

/-- Verification under any group key. Material that is no key is refused, whatever the shares are.
Under a key with a coefficient the outcome is decided by whether it has as many as it declares, then
by the first share with a fault, then by whether every share passes its check, and then by whether
there are enough of them. Shares without a fault are taken at different points, and no shares are
ever refused because two of them are taken at one point. A request is handled without shares that
are too few to be combined, and whether it is answered that its shares are valid does not depend on
their order. -/
theorem verify_outcome (lawful : suite.Lawful) {groupKey : GroupKey}
    (addressable : ∀ commitment, commitmentOfValue suite groupKey.key = .ok commitment →
      commitment.length < wordCount) :
    (∀ cause, commitmentOfValue suite groupKey.key = .error cause → ∀ shares msg,
      verify suite groupKey shares msg =
        .refuses (.malformedMaterial .groupKey (.unplaced cause))) ∧
    (∀ commitment, commitmentOfValue suite groupKey.key = .ok commitment → commitment ≠ [] →
      ∀ shares msg, verify suite groupKey shares msg =
        if commitment.length ≠ groupKey.k.toNat then
          .refuses (.thresholdMismatch groupKey.k (UInt64.ofNat commitment.length))
        else
          match firstFault? suite groupKey.l shares with
          | some error => .refuses error
          | none =>
            if ¬ shares.all (passes suite commitment msg) then .returns false
            else if shares.length < commitment.length then .refuses (.combine tooFewShares)
            else .returns true) ∧
    (∀ shares, firstFault? suite groupKey.l shares = none →
      (shares.map fun share => sharePoint share.id).Nodup) ∧
    (∀ shares msg, verify suite groupKey shares msg ≠ .refuses (.combine repeatedPoint)) ∧
    ∀ frameLimit coins shares msg,
      (∀ call ∈ verifyCalls suite frameLimit coins ⟨groupKey, shares, msg⟩,
        call = .verify groupKey shares (Bytes.ofString msg) ∧
          ∀ reason, verify suite groupKey shares (Bytes.ofString msg) ≠
            .refuses (.combine reason)) ∧
      ∀ others, shares.Perm others →
        (verifyReply suite frameLimit coins ⟨groupKey, shares, msg⟩ = .frame (verdictFrame true) ↔
          verifyReply suite frameLimit coins ⟨groupKey, others, msg⟩ =
            .frame (verdictFrame true)) := by
  refine ⟨fun cause unreadable => verify_of_unreadable unreadable, ?_, fun shares => nodup_points,
    ?_, ?_⟩
  · intro commitment read some_point shares msg
    rw [verify_eq lawful read some_point]
    simp only [ofNat_ne_iff (addressable commitment read)]
  · intro shares msg refused
    have same := (tooFew_of_combine lawful refused).1
    exact absurd same (by decide)
  · intro frameLimit coins shares msg
    constructor
    · intro call made
      have calls : verifyCalls suite frameLimit coins ⟨groupKey, shares, msg⟩ = _ :=
        Dispatcher.calls_verify (provider suite) frameLimit ⟨groupKey, shares, msg⟩ [] coins
      rw [calls] at made
      by_cases few : shares.length < groupKey.k.toNat
      · rw [if_pos few] at made
        exact nomatch made
      · rw [if_neg few] at made
        have enough := Nat.le_of_not_lt few
        exact ⟨List.mem_singleton.mp made, verify_ne_combine lawful addressable enough _⟩
    · intro others same
      rw [verifyReply_eq_true_iff, verifyReply_eq_true_iff]
      dsimp only
      rw [same.length_eq, verify_perm lawful same]

/-- A group key over the scalars that two of three shares sign under. -/
def twoOfThree : GroupKey := (keysOf exponentSuite 512 3 2 [5, 7]).groupKey

/-- The share of a signature under it that belongs to a number. -/
def signedBy (id : UInt64) : SignatureShare := signatureShare exponentSuite [5, 7] [104, 105] id

/-- Two shares verify in any order, one alone is too few, a repeated number comes before what is
behind it, and a share under another number is not valid. -/
theorem verify_outcome_exponents :
    verify exponentSuite twoOfThree [signedBy 2, signedBy 0] [104, 105] = .returns true ∧
      verify exponentSuite twoOfThree [signedBy 2] [104, 105] = .refuses (.combine tooFewShares) ∧
      verify exponentSuite twoOfThree [signedBy 2, signedBy 2, ⟨7, .null⟩] [104, 105] =
        .refuses (.duplicateShare 2) ∧
      verify exponentSuite twoOfThree [signedBy 2, ⟨1, (signedBy 0).signature⟩] [104, 105] =
        .returns false ∧
      (verifyReply exponentSuite 16384 Scalar.ofNat ⟨twoOfThree, [signedBy 2, signedBy 0], "hi"⟩ =
          .frame (verdictFrame true) ↔
        verifyReply exponentSuite 16384 Scalar.ofNat
          ⟨twoOfThree, [signedBy 0, signedBy 2], "hi"⟩ = .frame (verdictFrame true)) := by
  have read : commitmentOfValue exponentSuite twoOfThree.key =
      .ok (commitmentOf exponentSuite [5, 7]) :=
    commitmentOfValue_publicKeyValue exponentSuite_lawful.first _
  have addressable : ∀ commitment, commitmentOfValue exponentSuite twoOfThree.key = .ok commitment →
      commitment.length < wordCount := by
    intro commitment found
    obtain rfl := Except.ok.inj (read.symm.trans found)
    decide
  have some_point : commitmentOf exponentSuite [5, 7] ≠ [] := List.cons_ne_nil _ _
  obtain ⟨-, outcome, -, -, handled⟩ := verify_outcome exponentSuite_lawful addressable
  have under (shares : List SignatureShare) := outcome _ read some_point shares [104, 105]
  have declared : ¬ (commitmentOf exponentSuite [5, 7]).length ≠ twoOfThree.k.toNat := by decide
  refine ⟨?_, ?_, ?_, ?_, (handled 16384 Scalar.ofNat _ "hi").2 _ (.swap _ _ _)⟩
  · have readable : firstFault? exponentSuite twoOfThree.l [signedBy 2, signedBy 0] = none := by
      decide +kernel
    have passing : [signedBy 2, signedBy 0].all
        (passes exponentSuite (commitmentOf exponentSuite [5, 7]) [104, 105]) = true := by
      decide +kernel
    rw [under, if_neg declared, readable, passing]
    rfl
  · have readable : firstFault? exponentSuite twoOfThree.l [signedBy 2] = none := by decide +kernel
    have passing : [signedBy 2].all
        (passes exponentSuite (commitmentOf exponentSuite [5, 7]) [104, 105]) = true := by
      decide +kernel
    rw [under, if_neg declared, readable, passing]
    rfl
  · have fault : firstFault? exponentSuite twoOfThree.l [signedBy 2, signedBy 2, ⟨7, .null⟩] =
        some (.duplicateShare 2) := by decide +kernel
    rw [under, if_neg declared, fault]
  · have readable : firstFault? exponentSuite twoOfThree.l
        [signedBy 2, ⟨1, (signedBy 0).signature⟩] = none := by decide +kernel
    have failing : [signedBy 2, ⟨1, (signedBy 0).signature⟩].all
        (passes exponentSuite (commitmentOf exponentSuite [5, 7]) [104, 105]) = false := by
      decide +kernel
    rw [under, if_neg declared, readable, failing]
    rfl

end ThresholdDaemon.Threshold
