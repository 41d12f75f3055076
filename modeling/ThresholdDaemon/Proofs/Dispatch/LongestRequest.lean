import Mathlib.Order.Bounds.Basic
import ThresholdDaemon.Proofs.Dispatch.Headroom
import ThresholdDaemon.Provider.Scripted

/-!
# The longest request under a group key

The bound that a deal is checked with is the length of a request to verify that is provided for, and
no other one is longer. So dealt keys are the answer exactly if every request to verify under them
that is provided for fits the frame limit.
-/
namespace ThresholdDaemon

open Json (Literal.escaped Literal.byteLength_escaped_replicate)

/-- A request to verify that a deal provides for: as many shares as sign, with dealt numbers and
material of a bounded length, and a message that takes no more than the headroom between its
quotes. -/
structure VerifyRequest.IsProvidedFor (key : GroupKey) (bound : Nat) (request : VerifyRequest) :
    Prop where
  /-- The group key is the dealt one. -/
  groupKey : request.groupKey = key
  /-- As many shares as sign. -/
  count : request.signatures.length = key.k.toNat
  /-- Their numbers have been dealt. -/
  numbers : ∀ share ∈ request.signatures, share.id < key.l
  /-- Their material is no longer than the bound. -/
  materials : ∀ share ∈ request.signatures, byteLength share.signature.print ≤ bound
  /-- The message takes no more than the headroom. -/
  message : byteLength (Literal.escaped request.msg.toList) ≤ 1024

namespace GroupKey

variable {key : GroupKey} {bound : Nat}

/-- The material of a bounded length is as long as the bound, as there is room for the quotes. -/
theorem materialLength_eq (quotes : 2 ≤ bound) : materialLength bound = bound := by
  unfold materialLength
  omega

/-- The last number has been dealt, if any has. -/
theorem lastId_lt (dealt : 1 ≤ key.l) : key.lastId < key.l := by
  have least : 1 ≤ key.l.toNat := UInt64.le_iff_toNat_le.mp dealt
  have some_share : key.l ≠ 0 := by
    intro none
    rw [none] at least
    exact absurd least (by decide)
  rw [lastId, if_neg some_share, UInt64.lt_iff_toNat_lt, UInt64.toNat_sub_of_le _ _ dealt]
  have one : (1 : UInt64).toNat = 1 := rfl
  omega

/-- A text of some zeros. -/
def zeros (count : Nat) : String := String.ofList (List.replicate count '0')

/-- Between quotes, a zero has one byte. -/
theorem byteLength_escaped_zeros (count : Nat) :
    byteLength (Literal.escaped (zeros count).toList) = count := by
  have one : byteLength (Json.Literal.escapeChar '0') = 1 := by decide +kernel
  rw [zeros, String.toList_ofList, Literal.byteLength_escaped_replicate, one, Nat.mul_one]

/-- The longest share: it has the last number and a text for its material. -/
def longestShare (key : GroupKey) (bound : Nat) : SignatureShare where
  id := key.lastId
  signature := .text (zeros (bound - 2))

/-- The longest request: all of its shares are the longest, and the message fills the headroom. -/
def longestRequest (key : GroupKey) (bound : Nat) : VerifyRequest where
  groupKey := key
  signatures := List.replicate key.k.toNat (key.longestShare bound)
  msg := zeros 1024

/-- The material of the longest share is as long as it may be. -/
theorem byteLength_longestShare_signature (quotes : 2 ≤ bound) :
    byteLength (key.longestShare bound).signature.print = bound := by
  have quoted : byteLength (Json.Value.text (zeros (bound - 2))).print =
      byteLength (Literal.escaped (zeros (bound - 2)).toList) + 2 :=
    Json.Literal.byteLength_print _
  rw [byteLength_escaped_zeros] at quoted
  show byteLength (Json.Value.text (zeros (bound - 2))).print = bound
  omega

/-- The longest request is provided for. -/
theorem isProvidedFor_longestRequest (dealt : 1 ≤ key.l) (quotes : 2 ≤ bound) :
    VerifyRequest.IsProvidedFor key bound (key.longestRequest bound) where
  groupKey := rfl
  count := List.length_replicate
  numbers share member := by
    obtain rfl := List.eq_of_mem_replicate member
    exact lastId_lt dealt
  materials share member := by
    obtain rfl := List.eq_of_mem_replicate member
    exact Nat.le_of_eq (byteLength_longestShare_signature quotes)
  message := Nat.le_of_eq (byteLength_escaped_zeros 1024)

/-- The longest request is as long as the bound that deals are checked with. -/
theorem length_longestRequest (quotes : 2 ≤ bound) :
    (key.longestRequest bound).frame.length = key.verifyBound bound := by
  have material := key.byteLength_longestShare_signature quotes
  have share : byteLength (key.longestShare bound).print =
      key.shareLength (materialLength bound) := by
    rw [SignatureShare.byteLength_print, key.shareLength_eq, material, materialLength_eq quotes]
    rfl
  have shares : ((key.longestRequest bound).signatures.map fun share =>
      byteLength share.print).sum = key.k.toNat * key.shareLength (materialLength bound) := by
    show ((List.replicate key.k.toNat (key.longestShare bound)).map _).sum = _
    rw [List.map_replicate, List.sum_replicate, smul_eq_mul, share]
  have count : (key.longestRequest bound).signatures.length = key.k.toNat :=
    List.length_replicate
  have message : byteLength (Literal.escaped (key.longestRequest bound).msg.toList) =
      messageHeadroom := byteLength_escaped_zeros 1024
  have same : (key.longestRequest bound).groupKey = key := rfl
  rw [VerifyRequest.length_frame, shares, count, message, same, verifyBound]
  omega

/-- The lengths of the frames with a request to verify that is provided for. -/
def frameLengths (key : GroupKey) (bound : Nat) : Set Nat :=
  {length | ∃ request, VerifyRequest.IsProvidedFor key bound request ∧
    request.frame.length = length}

/-- Every request to verify that is provided for fits a frame. -/
def FitsFrames (key : GroupKey) (bound limit : Nat) : Prop :=
  ∀ request, VerifyRequest.IsProvidedFor key bound request → request.frame.length ≤ limit

/-- The bound that deals are checked with is the length of the longest request to verify that is
provided for. -/
theorem isGreatest_verifyBound (dealt : 1 ≤ key.l) (quotes : 2 ≤ bound) :
    IsGreatest (key.frameLengths bound) (key.verifyBound bound) := by
  constructor
  · exact ⟨key.longestRequest bound, isProvidedFor_longestRequest dealt quotes,
      length_longestRequest quotes⟩
  · rintro length ⟨request, provided, rfl⟩
    obtain ⟨rfl, count, numbers, materials, message⟩ := provided
    apply VerifyRequest.length_frame_le
    · exact Nat.le_of_eq count
    · intro share member
      exact le_lastId (numbers share member)
    · intro share member
      rw [materialLength_eq quotes]
      exact materials share member
    · exact message

/-- So all of them fit a frame exactly if the bound does. -/
theorem fitsFrames_iff (dealt : 1 ≤ key.l) (quotes : 2 ≤ bound) {limit : Nat} :
    key.FitsFrames bound limit ↔ key.verifyBound bound ≤ limit := by
  obtain ⟨⟨longest, provides, length⟩, most⟩ := isGreatest_verifyBound dealt quotes
  constructor
  · intro fit
    rw [← length]
    exact fit longest provides
  · intro room request provided
    have shorter : request.frame.length ≤ key.verifyBound bound := most ⟨request, provided, rfl⟩
    exact Nat.le_trans shorter room

end GroupKey

namespace Dispatcher

variable {σ : Type}

/-- Once keys are dealt for a request that makes sense, they decide what becomes of it. -/
theorem reply_deal (dispatcher : Dispatcher σ) {request : DealRequest} {state : σ}
    {keys : DealtKeys} (positive : 1 ≤ request.k) (fits : request.k ≤ request.l)
    (dealt : ((dispatcher.provider.deal request.keySize request.l request.k).run state).1 =
      .returns keys) :
    ((dispatcher.deal request).run state).1.reply =
      (answerDeal dispatcher.frameLimit dispatcher.provider.signatureLengthBound request
        keys).reply := by
  have some_signer : request.k ≠ 0 := by
    intro none
    rw [none] at positive
    exact absurd positive (by decide)
  unfold deal
  rw [if_neg some_signer, if_neg (UInt64.not_lt.mpr fits), StateT.run_bind]
  generalize (dispatcher.provider.deal request.keySize request.l request.k).run state = answer
    at dealt
  obtain ⟨outcome, next⟩ := answer
  obtain rfl : outcome = .returns keys := dealt
  rfl

/-- Dealt keys whose longest request to verify can be put into memory are the answer if it fits the
frame limit, and otherwise they are refused. -/
theorem reply_answerDeal {frameLimit signatureLength : Nat} {request : DealRequest}
    {keys : DealtKeys} (small : keys.groupKey.exceedsMemory signatureLength = false) :
    (answerDeal frameLimit signatureLength request keys).reply =
      if frameLimit < keys.groupKey.verifyBound signatureLength then
        .failed (.invalidArguments (.verifyTooLong request.k
          (keys.groupKey.verifyBound signatureLength) frameLimit))
      else .frame ⟨.dealResponse, some (String.ofList keys.print)⟩ := by
  unfold answerDeal
  rw [if_neg (Bool.eq_false_iff.mp small)]
  by_cases long : frameLimit < keys.groupKey.verifyBound signatureLength
  · simp only [if_pos long]
  · simp only [if_neg long]
    rfl

/-- Dealt keys are the answer, as the provider gave them, exactly if every request to verify that
they provide for fits the frame limit; otherwise the request to deal is refused, with the length of
the longest of them. -/
theorem deal_answered_iff (dispatcher : Dispatcher σ) (request : DealRequest) (state : σ)
    {keys : DealtKeys} (positive : 1 ≤ request.k) (fits : request.k ≤ request.l)
    (dealt : ((dispatcher.provider.deal request.keySize request.l request.k).run state).1 =
      .returns keys)
    (some_share : 1 ≤ keys.groupKey.l) (quotes : 2 ≤ dispatcher.provider.signatureLengthBound)
    (small : keys.groupKey.exceedsMemory dispatcher.provider.signatureLengthBound = false) :
    let reply := ((dispatcher.deal request).run state).1.reply
    let bound := dispatcher.provider.signatureLengthBound
    let limit := dispatcher.frameLimit
    ((∃ response, reply = .frame response) ↔ keys.groupKey.FitsFrames bound limit) ∧
      (keys.groupKey.FitsFrames bound limit →
        reply = .frame ⟨.dealResponse, some (String.ofList keys.print)⟩) ∧
      (¬ keys.groupKey.FitsFrames bound limit →
        ∃ longest, IsGreatest (keys.groupKey.frameLengths bound) longest ∧
          reply = .failed (.invalidArguments (.verifyTooLong request.k longest limit))) := by
  intro reply bound limit
  have longest := GroupKey.isGreatest_verifyBound some_share quotes
  have fits_iff : keys.groupKey.FitsFrames bound limit ↔ _ :=
    GroupKey.fitsFrames_iff some_share quotes
  have decided : reply = _ :=
    (dispatcher.reply_deal positive fits dealt).trans (reply_answerDeal small)
  by_cases long : limit < keys.groupKey.verifyBound bound
  · have unfit : ¬ keys.groupKey.FitsFrames bound limit := by
      rw [fits_iff]
      exact Nat.not_le_of_lt long
    rw [if_pos long] at decided
    rw [decided]
    refine ⟨iff_of_false ?_ unfit, fun fit => absurd fit unfit, fun _ => ⟨_, longest, rfl⟩⟩
    rintro ⟨response, answered⟩
    exact nomatch answered
  · have fit : keys.groupKey.FitsFrames bound limit := by
      rw [fits_iff]
      exact Nat.le_of_not_lt long
    rw [if_neg long] at decided
    rw [decided]
    exact ⟨iff_of_true ⟨_, rfl⟩ fit, fun _ => rfl, fun unfit => absurd fit unfit⟩

/-- Two of eleven shares sign, with material of at most four bytes. -/
def twoOfEleven : DealtKeys := ⟨⟨2, 11, 512, .text "key"⟩, [⟨10, .text "secret"⟩]⟩

/-- A dispatcher whose provider deals two of eleven shares. -/
def twoOfElevenUnder (frameLimit : Nat) : Dispatcher CallCounts where
  provider := ProviderScript.provider
    { deal := fun _ _ _ _ => .returns twoOfEleven
      sign := fun _ share => .returns ⟨share.id, share.share⟩
      verify := fun _ => .returns true
      signatureLengthBound := 4 }
  frameLimit

/-- Two of eleven shares are dealt if a frame may have as many bytes as the longest request to
verify takes, and refused if it may have one less. -/
theorem deal_answered_iff_twoOfEleven :
    (((twoOfElevenUnder 1180).deal ⟨512, 11, 2⟩).run {}).1.reply =
        .frame ⟨.dealResponse, some (String.ofList twoOfEleven.print)⟩ ∧
      ∃ longest, IsGreatest (twoOfEleven.groupKey.frameLengths 4) longest ∧
        (((twoOfElevenUnder 1179).deal ⟨512, 11, 2⟩).run {}).1.reply =
          .failed (.invalidArguments (.verifyTooLong 2 longest 1179)) := by
  have least : (1 : UInt64) ≤ 2 := by decide
  have most : (2 : UInt64) ≤ 11 := by decide
  have shares : 1 ≤ twoOfEleven.groupKey.l := by decide
  have bound : twoOfEleven.groupKey.verifyBound 4 = 1180 := by decide +kernel
  have fit {limit : Nat} : twoOfEleven.groupKey.FitsFrames 4 limit ↔ 1180 ≤ limit := by
    rw [← bound]
    exact GroupKey.fitsFrames_iff shares (by decide)
  have large := (twoOfElevenUnder 1180).deal_answered_iff ⟨512, 11, 2⟩ {} least most rfl shares
    (by decide) (by decide)
  have small := (twoOfElevenUnder 1179).deal_answered_iff ⟨512, 11, 2⟩ {} least most rfl shares
    (by decide) (by decide)
  have too_short : ¬ twoOfEleven.groupKey.FitsFrames 4 1179 := by
    rw [fit]
    decide
  exact ⟨large.2.1 (fit.mpr (Nat.le_refl 1180)), small.2.2 too_short⟩

end Dispatcher

end ThresholdDaemon
