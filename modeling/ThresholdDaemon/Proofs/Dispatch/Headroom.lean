import ThresholdDaemon.Dispatch
import ThresholdDaemon.Proofs.Json.Length

/-!
# Room for the requests under a group key

The bound that a deal is checked with is met by every request to verify that has no more shares than
sign, none of which has a longer number or longer material than the bound provides for, and whose
message takes no more than the headroom between its quotes. A request to sign with a share of the
same numbers is shorter still.
-/
namespace ThresholdDaemon

open Json (Literal.escaped Literal.print)

/-- The frame of a request to sign. -/
def SignRequest.frame (request : SignRequest) : Bytes :=
  Frame.encode ⟨.signRequest, String.ofList request.print⟩

/-- The frame of a request to verify. -/
def VerifyRequest.frame (request : VerifyRequest) : Bytes :=
  Frame.encode ⟨.verifyRequest, String.ofList request.print⟩

/-- The bytes of a signature share: names and separators, its number and its material. -/
theorem SignatureShare.byteLength_print (share : SignatureShare) :
    byteLength share.print =
      byteLength (Literal.print "id") + byteLength (Literal.print "signature") + 5 +
        byteLength (printWord share.id) + byteLength share.signature.print := by
  simp only [SignatureShare.print, Json.byteLength_printObject, List.map_cons, List.map_nil,
    List.sum_cons, List.sum_nil, List.length_cons, List.length_nil]
  omega

/-- The number of a dealt share is at most the last one. -/
theorem GroupKey.le_lastId {key : GroupKey} {id : UInt64} (dealt : id < key.l) :
    id ≤ key.lastId := by
  rw [UInt64.lt_iff_toNat_lt] at dealt
  have some_share : key.l ≠ 0 := by
    intro none
    rw [none] at dealt
    exact Nat.not_lt_zero _ dealt
  have one : (1 : UInt64) ≤ key.l := by
    rw [UInt64.le_iff_toNat_le]
    exact Nat.one_le_of_lt dealt
  rw [lastId, if_neg some_share, UInt64.le_iff_toNat_le, UInt64.toNat_sub_of_le _ _ one]
  exact Nat.le_sub_one_of_lt dealt

/-- The longest signature share has the last number. -/
theorem GroupKey.shareLength_eq (key : GroupKey) (materialLength : Nat) :
    key.shareLength materialLength =
      byteLength (Literal.print "id") + byteLength (Literal.print "signature") + 5 +
        byteLength (printWord key.lastId) + materialLength := by
  rw [GroupKey.shareLength, SignatureShare.byteLength_print]
  show _ + byteLength Json.Value.null.print - byteLength Json.Value.null.print + _ = _
  rw [Nat.add_sub_cancel]

/-- A signature share with a number and material that are provided for is no longer than the
longest. -/
theorem GroupKey.byteLength_print_le {key : GroupKey} {materialLength : Nat}
    {share : SignatureShare} (number : share.id ≤ key.lastId)
    (material : byteLength share.signature.print ≤ materialLength) :
    byteLength share.print ≤ key.shareLength materialLength := by
  have digits : byteLength (printWord share.id) ≤ byteLength (printWord key.lastId) :=
    Json.Numeral.byteLength_decimal_mono number
  rw [key.shareLength_eq, SignatureShare.byteLength_print]
  omega

/-- The frame of a request to verify is as long as one without shares and message, the shares with
the commas between them, and the message between its quotes. -/
theorem VerifyRequest.length_frame (request : VerifyRequest) :
    request.frame.length =
      request.groupKey.emptyVerifyLength +
        ((request.signatures.map fun share => byteLength share.print).sum +
          (request.signatures.length - 1)) +
        byteLength (Literal.escaped request.msg.toList) := by
  have empty : byteLength (Literal.escaped "".toList) = 0 := rfl
  rw [GroupKey.emptyVerifyLength, VerifyRequest.frame, Frame.length_encode, Frame.length_encode]
  simp only [VerifyRequest.print, Json.byteLength_printObject, Json.byteLength_printArray,
    Json.Literal.byteLength_print, List.map_cons, List.map_nil, List.map_map, Function.comp_def,
    List.sum_cons, List.sum_nil, List.length_cons, List.length_nil, List.length_map, empty]
  omega

/-- A request to verify is longer than its message between quotes. -/
theorem VerifyRequest.lt_length_frame (request : VerifyRequest) :
    byteLength (Literal.escaped request.msg.toList) < request.frame.length := by
  have empty : 0 < request.groupKey.emptyVerifyLength := by
    rw [GroupKey.emptyVerifyLength, Frame.length_encode]
    omega
  rw [length_frame]
  omega

/-- A request to verify is no longer than provided for. -/
theorem VerifyRequest.length_frame_le {request : VerifyRequest} {bound : Nat}
    (few : request.signatures.length ≤ request.groupKey.k.toNat)
    (numbers : ∀ share ∈ request.signatures, share.id ≤ request.groupKey.lastId)
    (materials : ∀ share ∈ request.signatures,
      byteLength share.signature.print ≤ GroupKey.materialLength bound)
    (room : byteLength (Literal.escaped request.msg.toList) ≤ messageHeadroom) :
    request.frame.length ≤ request.groupKey.verifyBound bound := by
  let most := request.groupKey.shareLength (GroupKey.materialLength bound)
  have each : ∀ length ∈ request.signatures.map fun share => byteLength share.print,
      length ≤ most := List.forall_mem_map.mpr fun share member =>
    GroupKey.byteLength_print_le (numbers share member) (materials share member)
  have sum := List.sum_le_card_nsmul _ most each
  rw [List.length_map, smul_eq_mul] at sum
  have all : request.signatures.length * most ≤ request.groupKey.k.toNat * most :=
    Nat.mul_le_mul_right most few
  rw [length_frame, GroupKey.verifyBound]
  show _ ≤ _ + request.groupKey.k.toNat * most + _ + _
  omega

/-- The frame of a request to sign is as long as its names and separators, the number and the secret
share and the message between its quotes. -/
theorem SignRequest.length_frame (request : SignRequest) :
    request.frame.length =
      48 + byteLength (printWord request.share.id) + byteLength request.share.share.print +
        byteLength (Literal.escaped request.msg.toList) := by
  have token : byteLength Call.signRequest.token.toList = 22 := by decide +kernel
  have id : byteLength (Literal.print "id") = 4 := by decide +kernel
  have share : byteLength (Literal.print "share") = 7 := by decide +kernel
  have msg : byteLength (Literal.print "msg") = 5 := by decide +kernel
  rw [SignRequest.frame, Frame.length_encode]
  simp only [SignRequest.print, KeyShare.members, Json.byteLength_printObject, List.cons_append,
    List.nil_append, List.map_cons, List.map_nil, List.sum_cons, List.sum_nil, List.length_cons,
    List.length_nil, Json.Literal.byteLength_print request.msg, token, id, share, msg]
  omega

/-- A request to sign is longer than its message between quotes. -/
theorem SignRequest.lt_length_frame (request : SignRequest) :
    byteLength (Literal.escaped request.msg.toList) < request.frame.length := by
  rw [length_frame]
  omega

/-- The names and separators of a request to verify take more than those of a request to sign. -/
theorem GroupKey.le_emptyVerifyLength (key : GroupKey) : 48 ≤ key.emptyVerifyLength := by
  have token : byteLength Call.verifyRequest.token.toList = 22 := by decide +kernel
  have group_key : byteLength (Literal.print "group-key") = 11 := by decide +kernel
  have signatures : byteLength (Literal.print "signatures") = 12 := by decide +kernel
  rw [emptyVerifyLength, Frame.length_encode]
  simp only [VerifyRequest.print, Json.byteLength_printObject, List.map_cons, List.map_nil,
    List.sum_cons, List.sum_nil, List.length_cons, List.length_nil, token, group_key, signatures]
  omega

/-- A request to sign with a share that is provided for is no longer than a request to verify. -/
theorem SignRequest.length_frame_le {request : SignRequest} {key : GroupKey} {bound : Nat}
    (signers : key.k ≠ 0) (number : request.share.id ≤ key.lastId)
    (material : byteLength request.share.share.print ≤ GroupKey.materialLength bound)
    (room : byteLength (Literal.escaped request.msg.toList) ≤ messageHeadroom) :
    request.frame.length ≤ key.verifyBound bound := by
  let most := key.shareLength (GroupKey.materialLength bound)
  have digits : byteLength (printWord request.share.id) ≤ byteLength (printWord key.lastId) :=
    Json.Numeral.byteLength_decimal_mono number
  have share : byteLength (printWord key.lastId) + GroupKey.materialLength bound ≤ most := by
    have parts := key.shareLength_eq (GroupKey.materialLength bound)
    omega
  have once : 1 * most ≤ key.k.toNat * most := by
    refine Nat.mul_le_mul_right most (Nat.one_le_iff_ne_zero.mpr fun none => signers ?_)
    exact UInt64.toNat_inj.mp none
  have names := key.le_emptyVerifyLength
  rw [length_frame, GroupKey.verifyBound]
  show _ ≤ _ + key.k.toNat * most + _ + _
  omega

namespace Dispatcher

variable {σ : Type}

/-- Dealt keys are the answer exactly if the longest request to verify could be put into memory and
fits the frame limit. -/
theorem answerDeal_eq_frame {frameLimit signatureLength : Nat} {request : DealRequest}
    {keys : DealtKeys} {response : Frame} :
    (answerDeal frameLimit signatureLength request keys).reply = .frame response ↔
      keys.groupKey.exceedsMemory signatureLength = false ∧
      keys.groupKey.verifyBound signatureLength ≤ frameLimit ∧
      response = ⟨.dealResponse, String.ofList keys.print⟩ := by
  unfold answerDeal
  by_cases large : keys.groupKey.exceedsMemory signatureLength
  · simp [large]
  by_cases long : frameLimit < keys.groupKey.verifyBound signatureLength
  · simp [large, long]
  · simp [large, long, Nat.le_of_not_lt, answered, eq_comm]

/-- A request to deal is answered exactly if it asks for signers, no more than shares, and the
provider deals keys that are an answer. -/
theorem deal_eq_frame {dispatcher : Dispatcher σ} {request : DealRequest} {state : σ}
    {response : Frame} :
    ((dispatcher.deal request).run state).1.reply = .frame response ↔
      request.k ≠ 0 ∧ request.k ≤ request.l ∧ ∃ keys : DealtKeys,
        ((dispatcher.provider.deal request.keySize request.l request.k).run state).1 =
          .returns keys ∧
        (answerDeal dispatcher.frameLimit dispatcher.provider.signatureLengthBound request
          keys).reply = .frame response := by
  unfold deal
  by_cases nobody : request.k = 0
  · simp [nobody]
  by_cases many : request.l < request.k
  · simp [nobody, many, UInt64.not_le]
  rw [if_neg nobody, if_neg many, StateT.run_bind]
  obtain ⟨outcome, next⟩ := (dispatcher.provider.deal request.keySize request.l request.k).run state
  cases outcome with
  | refuses error =>
    show Reply.failed _ = _ ↔ _
    simp
  | panics text =>
    show Reply.panicked _ = _ ↔ _
    simp
  | returns keys =>
    show (answerDeal dispatcher.frameLimit _ request keys).reply = _ ↔ _
    simp [nobody, UInt64.not_lt.mp many]

/-- A payload is answered exactly if a request is read from it that is. -/
theorem withPayload_eq_frame {α : Type} {call : Call} {payload : Option String}
    {read : Nat → Json.Reader α} {handle : α → StateM σ Handled} {state : σ} {response : Frame} :
    ((withPayload call payload read handle).run state).1.reply = .frame response ↔
      ∃ text request, payload = some text ∧ (read Json.depthLimit).run text = .ok request ∧
        ((handle request).run state).1.reply = .frame response := by
  unfold withPayload
  cases payload with
  | none => simp
  | some text =>
    cases found : (read Json.depthLimit).run text with
    | error fault => simp [found]
    | ok request => simp [found]

/-- A payload to deal is answered exactly if a request is read from it that is. -/
theorem dispatch_dealRequest_eq_frame {dispatcher : Dispatcher σ} {payload : Option String}
    {state : σ} {response : Frame} :
    ((dispatcher.dispatch .dealRequest payload).run state).1.reply = .frame response ↔
      ∃ text request, payload = some text ∧
        (DealRequest.shape.read Json.depthLimit).run text = .ok request ∧
        ((dispatcher.deal request).run state).1.reply = .frame response :=
  withPayload_eq_frame

end Dispatcher

end ThresholdDaemon
