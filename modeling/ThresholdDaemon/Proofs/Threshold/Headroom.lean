import ThresholdDaemon.Proofs.Curve.Encoding
import ThresholdDaemon.Proofs.Dispatch.Headroom
import ThresholdDaemon.Proofs.Frame.Receive
import ThresholdDaemon.Proofs.Threshold.Sign

/-!
# Dealt keys are usable under the frame limit

A share of a signature over the curve has a fixed number of bytes, each with at most three digits,
and a key share has four words, so both stay within what a deal provides for. Whatever polynomial is
drawn, the requests to sign with dealt key shares and to verify what they sign fit the frame limit
that the deal was checked with, as long as the message takes no more than the headroom between its
quotes. A shorter message may take more than that once it is escaped.
-/
namespace ThresholdDaemon.Json.Value

/-- The elements of an array are printed one by one. -/
theorem print_array_map {α : Type} (write : α → Value) (items : List α) :
    (array (items.map write)).print = printArray (items.map fun item => (write item).print) := by
  have each : printItems (items.map write) = items.map fun item => (write item).print := by
    induction items with
    | nil => rfl
    | cons item rest ih => rw [List.map_cons, printItems, ih, List.map_cons]
  rw [print, each]

end ThresholdDaemon.Json.Value

namespace ThresholdDaemon.Threshold

open Curve (Scalar)
open Json (Numeral.byteLength_decimal_le_iff Value)
open Json.Literal (escaped)

/-- Bytes as material take three digits each, a comma between every two and the brackets. -/
theorem byteLength_bytesValue_le (bytes : Bytes) :
    byteLength (bytesValue bytes).print ≤ bytes.length * 3 + (bytes.length - 1) + 2 := by
  have digits (byte : UInt8) : byteLength (Value.ofNat byte.toNat).print ≤ 3 := by
    have small : (UInt64.ofNat byte.toNat).toNat < 10 ^ 3 := by
      have bound : byte.toNat < 256 := byte.toNat_lt
      rw [UInt64.toNat_ofNat']
      omega
    exact (Numeral.byteLength_decimal_le_iff (by decide)).mpr small
  have whole := Json.byteLength_printArray_le (List.forall_mem_map.mpr
    fun byte (_ : byte ∈ bytes) => digits byte)
  rw [List.length_map] at whole
  rw [bytesValue, Value.print_array_map]
  exact whole

/-- A scalar as material takes at most twenty digits for each of its four words. -/
theorem byteLength_scalarValue_le (scalar : Scalar) :
    byteLength (scalarValue scalar).print ≤ 85 := by
  have digits (word : UInt64) : byteLength (Value.ofWord word).print ≤ 20 := by
    have small : word.toNat < 10 ^ 20 := Nat.lt_trans word.toNat_lt (by decide)
    exact (Numeral.byteLength_decimal_le_iff (by decide)).mpr small
  have whole := Json.byteLength_printArray_le (List.forall_mem_map.mpr
    fun word (_ : word ∈ limbs scalar) => digits word)
  have four : (limbs scalar).length = 4 := rfl
  rw [List.length_map, four] at whole
  rw [scalarValue, Value.print_array_map]
  exact whole

/-- A point that signs takes no more than the bound that deals are checked with. -/
theorem byteLength_toValue_le (element : Curve.Element Curve.Quadratic) :
    byteLength (curveSuite.second.toValue element).print ≤
      GroupKey.materialLength signatureLengthBound := by
  have size : element.toBytes.length = 96 :=
    Curve.Point.length_toBytes Curve.Quadratic.length_toBytes element.point
  have within := byteLength_bytesValue_le element.toBytes
  rw [size] at within
  exact within

/-- A message is signed by every choice of as many dealt key shares as sign, and a session with a
frame limit accepts the frames of their requests to sign and of the request to verify what they
sign. -/
def Usable (limit : Nat) (keys : DealtKeys) (msg : String) : Prop :=
  ∀ signers : List KeyShare, (∀ signer ∈ signers, signer ∈ keys.shares) →
    signers.length = keys.groupKey.k.toNat →
      ∃ signatures, signers.mapM (sign curveSuite · (Bytes.ofString msg)) = .ok signatures ∧
        FrameBuffer.Accepts limit (VerifyRequest.frame ⟨keys.groupKey, signatures, msg⟩) ∧
        ∀ signer ∈ signers, FrameBuffer.Accepts limit (SignRequest.frame ⟨signer, msg⟩)

/-- A request whose frame fits the limit is accepted. -/
theorem accepts_encode {limit : UInt64} {call : Call} {payload : List Char}
    (fits : (Frame.encode ⟨call, String.ofList payload⟩).length ≤ limit.toNat) :
    FrameBuffer.Accepts limit.toNat (Frame.encode ⟨call, String.ofList payload⟩) where
  fits := fits
  received stored rest := by
    have present : Frame.encode ⟨call, String.ofList payload⟩ ≠ [] := by
      intro none
      have length := Frame.length_encode call payload
      rw [none, List.length_nil] at length
      omega
    have addressable : limit.toNat ≤ wordMax := Nat.le_of_lt_succ limit.toNat_lt
    rw [FrameBuffer.receive_ready present fits addressable]

/-- The material of a dealt key share takes no more than that of a signature share may. -/
theorem byteLength_dealt_le {keySize : UInt32} {l k : UInt64} {polynomial : List Scalar}
    {dealt : KeyShare} (member : dealt ∈ (keysOf curveSuite keySize l k polynomial).shares) :
    byteLength dealt.share.print ≤ signatureLengthBound := by
  rw [(eq_of_dealt member).2]
  exact Nat.le_trans (byteLength_scalarValue_le _) (by decide)

/-- A request to sign with a dealt key share is no longer than the deal provides for requests to
verify, if its message takes no more than the headroom between its quotes. -/
theorem length_signFrame_le {keySize : UInt32} {l k : UInt64} {polynomial : List Scalar}
    {dealt : KeyShare} (signs : k ≠ 0)
    (member : dealt ∈ (keysOf curveSuite keySize l k polynomial).shares) {msg : String}
    (room : byteLength (escaped msg.toList) ≤ messageHeadroom) :
    (SignRequest.frame ⟨dealt, msg⟩).length ≤
      (keysOf curveSuite keySize l k polynomial).groupKey.verifyBound signatureLengthBound :=
  SignRequest.length_frame_le signs (GroupKey.le_lastId (eq_of_dealt member).1)
    (byteLength_dealt_le member) room

/-- Keys whose longest request to verify fits the frame limit are usable for every message that
takes no more than the headroom between its quotes. -/
theorem usable_keysOf {limit : UInt64} {keySize : UInt32} {l k : UInt64} {polynomial : List Scalar}
    (signs : k ≠ 0)
    (bound : (keysOf curveSuite keySize l k polynomial).groupKey.verifyBound signatureLengthBound ≤
      limit.toNat)
    {msg : String} (room : byteLength (escaped msg.toList) ≤ messageHeadroom) :
    Usable limit.toNat (keysOf curveSuite keySize l k polynomial) msg := by
  intro signers dealt enough
  refine ⟨_, mapM_sign_dealt dealt (Bytes.ofString msg), ?_, ?_⟩
  · refine accepts_encode (Nat.le_trans (VerifyRequest.length_frame_le ?_ ?_ ?_ room) bound)
    · rw [List.length_map, enough]
    · refine List.forall_mem_map.mpr fun signer member => ?_
      exact GroupKey.le_lastId (eq_of_dealt (dealt signer member)).1
    · refine List.forall_mem_map.mpr fun signer member => ?_
      exact byteLength_toValue_le _
  · intro signer member
    exact accepts_encode (Nat.le_trans (length_signFrame_le signs (dealt signer member) room) bound)

/-- Whatever polynomial is drawn, keys that a dispatcher answers a request to deal with are usable
under its frame limit for every message that takes at most 1024 bytes between its quotes: every
choice of as many key shares as sign signs it, and neither their requests to sign nor the request to
verify what they sign is ever too large a frame. -/
theorem dispatch_deal_usable (limit : UInt64) {payload : Option String} {coins : Coins}
    {response : Frame}
    (answered : (((⟨curveProvider, limit.toNat⟩ : Dispatcher Coins).dispatch .dealRequest
      payload).run coins).1.reply = .frame response) :
    ∃ text request keys, payload = some text ∧
      (DealRequest.shape.read Json.depthLimit).run text = .ok request ∧
      ((curveProvider.deal request.keySize request.l request.k).run coins).1 = .returns keys ∧
      response = ⟨.dealResponse, String.ofList keys.print⟩ ∧
      ∀ msg : String, byteLength (escaped msg.toList) ≤ 1024 → Usable limit.toNat keys msg := by
  obtain ⟨text, request, present, read, handled⟩ :=
    Dispatcher.dispatch_dealRequest_eq_frame.mp answered
  obtain ⟨signs, -, keys, dealt, given⟩ := Dispatcher.deal_eq_frame.mp handled
  obtain ⟨-, bound, same⟩ := Dispatcher.answerDeal_eq_frame.mp given
  obtain rfl := deal_returns dealt
  refine ⟨text, request, _, present, read, dealt, same, ?_⟩
  intro msg room
  exact usable_keysOf signs bound room

/-- A request that can be read is read. -/
theorem read_of_toOption {text : String} {request : DealRequest}
    (found : ((DealRequest.shape.read Json.depthLimit).run text).toOption = some request) :
    (DealRequest.shape.read Json.depthLimit).run text = .ok request := by
  cases read : (DealRequest.shape.read Json.depthLimit).run text with
  | error fault =>
    rw [read] at found
    exact nomatch found
  | ok other =>
    rw [read] at found
    rw [Option.some.inj found]

/-- A request is answered with the keys that are dealt if their longest request to verify fits the
frame limit. -/
theorem dispatch_of_bound {limit : Nat} {text : String} {request : DealRequest} {keys : DealtKeys}
    {coins : Coins} (read : (DealRequest.shape.read Json.depthLimit).run text = .ok request)
    (positive : request.k ≠ 0) (fits : request.k ≤ request.l)
    (dealt : ((curveProvider.deal request.keySize request.l request.k).run coins).1 = .returns keys)
    (found : keys.groupKey.exceedsMemory signatureLengthBound = false)
    (bound : keys.groupKey.verifyBound signatureLengthBound ≤ limit) :
    (((⟨curveProvider, limit⟩ : Dispatcher Coins).dispatch .dealRequest (some text)).run
      coins).1.reply = .frame ⟨.dealResponse, String.ofList keys.print⟩ := by
  rw [Dispatcher.dispatch_dealRequest_eq_frame]
  refine ⟨text, request, rfl, read, ?_⟩
  rw [Dispatcher.deal_eq_frame]
  refine ⟨positive, fits, keys, dealt, ?_⟩
  rw [Dispatcher.answerDeal_eq_frame]
  exact ⟨found, bound, rfl⟩

/-- How long a request to verify can become if the numbers of its shares have one digit. -/
theorem verifyBound_le {key : GroupKey} {empty : Nat} (least : key.emptyVerifyLength ≤ empty)
    (digit : byteLength (printWord key.lastId) = 1) :
    key.verifyBound signatureLengthBound ≤ empty + 407 * key.k.toNat + messageHeadroom := by
  have share : key.shareLength (GroupKey.materialLength signatureLengthBound) = 406 := by
    rw [GroupKey.shareLength_eq, digit]
    decide +kernel
  rw [GroupKey.verifyBound, share]
  omega

/-- Each line feed takes two bytes between quotes. -/
theorem byteLength_escaped_lineFeeds (count : Nat) :
    byteLength (escaped (String.ofList (List.replicate count '\n')).toList) = count * 2 := by
  have two : byteLength (Json.Literal.escapeChar '\n') = 2 := rfl
  rw [String.toList_ofList, Json.Literal.byteLength_escaped_replicate, two]

/-- The text of a request for three shares of which two sign. -/
def pairRequest : String := "\x7b\"key-size\":512,\"l\":3,\"k\":2\x7d"

/-- Three shares of which two sign, dealt from the polynomial with two coefficients of one. -/
def pairKeys : DealtKeys := keysOf curveSuite 512 3 2 [1, 1]

/-- The text of a request for three shares is read. -/
theorem read_pairRequest :
    (DealRequest.shape.read Json.depthLimit).run pairRequest = .ok ⟨512, 3, 2⟩ :=
  read_of_toOption (by decide +kernel)

/-- The three shares have the numbers up to three. -/
theorem pairKeys_shares :
    pairKeys.shares = [⟨0, scalarValue (evaluate [1, 1] (sharePoint 0))⟩,
      ⟨1, scalarValue (evaluate [1, 1] (sharePoint 1))⟩,
      ⟨2, scalarValue (evaluate [1, 1] (sharePoint 2))⟩] := rfl

/-- If every coin is one, three shares are dealt from the polynomial with two coefficients of one. -/
theorem deal_pairKeys : ((curveProvider.deal 512 3 2).run fun _ => 1).1 = .returns pairKeys :=
  congrArg Prod.fst (deal_eq curveSuite (by decide : (512 : UInt32) ∈ keySizes)
    (by decide : (1 : UInt64) ≤ 2) (by decide) (by decide) fun _ => 1)

/-- Three shares of which two sign are dealt under a frame limit of 4096 bytes. -/
theorem dispatch_pairKeys :
    (((⟨curveProvider, (4096 : UInt64).toNat⟩ : Dispatcher Coins).dispatch .dealRequest
      (some pairRequest)).run fun _ => 1).1.reply =
        .frame ⟨.dealResponse, String.ofList pairKeys.print⟩ := by
  have empty : pairKeys.groupKey.emptyVerifyLength ≤ 500 := by
    rw [GroupKey.emptyVerifyLength, Frame.length_encode]
    decide +kernel
  have bound : pairKeys.groupKey.verifyBound signatureLengthBound ≤ 4096 :=
    (verifyBound_le empty (by decide +kernel)).trans (by decide)
  exact dispatch_of_bound read_pairRequest (by decide) (by decide) deal_pairKeys rfl bound

/-- The last and the first of three shares sign a message of 512 line feeds, which takes the whole
headroom between its quotes, and their requests are accepted. -/
theorem dispatch_deal_usable_pairKeys :
    let msg := String.ofList (List.replicate 512 '\n')
    byteLength (escaped msg.toList) = 1024 ∧
      ∃ first second third signatures, pairKeys.shares = [first, second, third] ∧
        [third, first].mapM (sign curveSuite · (Bytes.ofString msg)) = .ok signatures ∧
        FrameBuffer.Accepts 4096 (VerifyRequest.frame ⟨pairKeys.groupKey, signatures, msg⟩) ∧
        FrameBuffer.Accepts 4096 (SignRequest.frame ⟨third, msg⟩) ∧
        FrameBuffer.Accepts 4096 (SignRequest.frame ⟨first, msg⟩) := by
  intro msg
  have room : byteLength (escaped msg.toList) = 1024 := byteLength_escaped_lineFeeds 512
  obtain ⟨text, request, keys, present, read, dealt, -, usable⟩ :=
    dispatch_deal_usable 4096 dispatch_pairKeys
  obtain rfl := Option.some.inj present
  obtain rfl := Except.ok.inj (read.symm.trans read_pairRequest)
  obtain rfl := Outcome.returns.inj (dealt.symm.trans deal_pairKeys)
  let signers : List KeyShare := [⟨2, scalarValue (evaluate [1, 1] (sharePoint 2))⟩,
    ⟨0, scalarValue (evaluate [1, 1] (sharePoint 0))⟩]
  have members : ∀ signer ∈ signers, signer ∈ pairKeys.shares := by
    rw [pairKeys_shares]
    intro signer member
    simp only [signers, List.mem_cons, List.not_mem_nil, or_false] at member ⊢
    exact member.elim (fun last => .inr (.inr last)) .inl
  obtain ⟨signatures, signs, verifies, each⟩ :=
    usable msg (Nat.le_of_eq room) signers members rfl
  exact ⟨room, _, _, _, signatures, pairKeys_shares, signs, verifies, each _ List.mem_cons_self,
    each _ (List.mem_cons_of_mem _ List.mem_cons_self)⟩

/-- The text of a request for one share, which signs alone. -/
def oneShare : String := "\x7b\"key-size\":512,\"l\":1,\"k\":1\x7d"

/-- One share that signs alone, dealt from the constant polynomial one. -/
def unitKeys : DealtKeys := keysOf curveSuite 512 1 1 [1]

/-- The text of a request for one share is read. -/
theorem read_oneShare :
    (DealRequest.shape.read Json.depthLimit).run oneShare = .ok ⟨512, 1, 1⟩ :=
  read_of_toOption (by decide +kernel)

/-- The only share has the number zero. -/
theorem unitKeys_shares :
    unitKeys.shares = [⟨0, scalarValue (evaluate [1] (sharePoint 0))⟩] := rfl

/-- If every coin is one, one share is dealt from the constant polynomial one. -/
theorem deal_unitKeys :
    ((curveProvider.deal 512 1 1).run fun _ => 1).1 = .returns unitKeys :=
  congrArg Prod.fst (deal_eq curveSuite (by decide : (512 : UInt32) ∈ keySizes)
    (by decide : (1 : UInt64) ≤ 1) (by decide) (by decide) fun _ => 1)

/-- One share that signs alone is dealt under a frame limit of 2048 bytes. -/
theorem dispatch_unitKeys :
    (((⟨curveProvider, (2048 : UInt64).toNat⟩ : Dispatcher Coins).dispatch .dealRequest
      (some oneShare)).run fun _ => 1).1.reply =
        .frame ⟨.dealResponse, String.ofList unitKeys.print⟩ := by
  have empty : unitKeys.groupKey.emptyVerifyLength ≤ 300 := by
    rw [GroupKey.emptyVerifyLength, Frame.length_encode]
    decide +kernel
  have bound : unitKeys.groupKey.verifyBound signatureLengthBound ≤ 2048 :=
    (verifyBound_le empty (by decide +kernel)).trans (by decide)
  exact dispatch_of_bound read_oneShare (by decide) (by decide) deal_unitKeys rfl bound

/-- A message of 1024 line feeds. -/
def lineFeeds : String := String.ofList (List.replicate 1024 '\n')

/-- A message of 1024 bytes need not be usable: each line feed takes two bytes between quotes, so
that neither the request to sign the message nor the request to verify it is received under the
limit that the keys were dealt under. -/
theorem lineFeeds_tooLarge :
    (((⟨curveProvider, (2048 : UInt64).toNat⟩ : Dispatcher Coins).dispatch .dealRequest
      (some oneShare)).run fun _ => 1).1.reply =
        .frame ⟨.dealResponse, String.ofList unitKeys.print⟩ ∧
      byteLength lineFeeds.toList = 1024 ∧
      ∃ signer signed, unitKeys.shares = [signer] ∧
        sign curveSuite signer (Bytes.ofString lineFeeds) = .ok signed ∧
        (FrameBuffer.receive ⟨2048, []⟩ [.ready (SignRequest.frame ⟨signer, lineFeeds⟩)]).1 =
          .error (.frameTooLarge 2048) ∧
        (FrameBuffer.receive ⟨2048, []⟩
          [.ready (VerifyRequest.frame ⟨unitKeys.groupKey, [signed], lineFeeds⟩)]).1 =
            .error (.frameTooLarge 2048) := by
  have text : lineFeeds.toList = List.replicate 1024 '\n' := String.toList_ofList
  have bytes : byteLength lineFeeds.toList = 1024 := by
    have one : ('\n').utf8Size = 1 := rfl
    rw [text, byteLength_replicate, one]
  have between : byteLength (escaped lineFeeds.toList) = 2048 := byteLength_escaped_lineFeeds 1024
  have dealt : (⟨0, scalarValue (evaluate [1] (sharePoint 0))⟩ : KeyShare) ∈ unitKeys.shares := by
    rw [unitKeys_shares]
    exact List.mem_cons_self
  refine ⟨dispatch_unitKeys, bytes, _, _, unitKeys_shares, sign_dealt dealt _, ?_, ?_⟩
  · have long := SignRequest.lt_length_frame
      ⟨⟨0, scalarValue (evaluate [1] (sharePoint 0))⟩, lineFeeds⟩
    exact FrameBuffer.receive_tooLarge (Nat.lt_of_le_of_lt (Nat.le_of_eq between.symm) long)
      (by decide) []
  · have long := VerifyRequest.lt_length_frame ⟨unitKeys.groupKey,
      [signatureShare curveSuite [1] (Bytes.ofString lineFeeds) 0], lineFeeds⟩
    exact FrameBuffer.receive_tooLarge (Nat.lt_of_le_of_lt (Nat.le_of_eq between.symm) long)
      (by decide) []

end ThresholdDaemon.Threshold
