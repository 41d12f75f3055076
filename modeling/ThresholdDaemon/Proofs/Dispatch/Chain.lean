import ThresholdDaemon.Proofs.Dispatch.Headroom
import ThresholdDaemon.Proofs.Dispatch.Plan
import ThresholdDaemon.Proofs.Dispatch.Verdict
import ThresholdDaemon.Proofs.Frame.Decode
import ThresholdDaemon.Proofs.Payload.Reads
import ThresholdDaemon.Provider.Scripted

/-!
# Descriptors pass from one call to the next

What a provider deals and signs goes out in a response, comes back in the next request and reaches
the provider again as it was. The frame of a response arrives with its payload unchanged, the
payload is read as what was printed, and an object that stands in the payload may stand in another
one: a key share with a message beside its members is a request to sign, and a group key with
signature shares and a message is a request to verify.

Material has to be exact. It may be nested as deep as the payloads around it leave room for, of
which a hundred levels are always enough.
-/
namespace ThresholdDaemon

open Json

variable {σ α : Type}

/-- Material that every payload carries unchanged. -/
def Material.Portable (material : Material) : Prop :=
  Value.Exact material ∧ Value.depth material ≤ 100

/-- Dealt keys that a response carries unchanged. -/
def DealtKeys.Portable (keys : DealtKeys) : Prop :=
  Material.Portable keys.groupKey.key ∧ ∀ share ∈ keys.shares, Material.Portable share.share

/-- A frame is a response with a printed payload. It arrives as it was sent, and its payload is read
as a value. -/
structure Frame.Carries (frame : Frame) (response : Call) (printed : List Char)
    (read : Nat → Reader α) (value : α) : Prop where
  /-- The frame is the response with the payload. -/
  isResponse : frame = ⟨response, some (String.ofList printed)⟩
  /-- The bytes of the frame are those of the call and the payload. -/
  arrives : RawFrame.decode frame.encode = .ok ⟨response.token, frame.payload⟩
  /-- The payload is the value. -/
  reads : (read depthLimit).run (String.ofList printed) = .ok value

/-- A response with a printed object carries what the object is read as. -/
theorem Frame.carries_printObject (response : Call) (members : List (String × List Char))
    {read : Nat → Reader α} {value : α} (reads : Reads (read depthLimit) (printObject members) value) :
    Frame.Carries ⟨response, some (String.ofList (printObject members))⟩ response
      (printObject members) read value :=
  ⟨rfl, RawFrame.decode_encode response _ (by decide), reads.run⟩

/-- Portable dealt keys are read as they were printed. -/
theorem DealtKeys.reads_print {keys : DealtKeys} (portable : keys.Portable) :
    Reads (DealtKeys.shape.read depthLimit) keys.print keys := by
  obtain ⟨⟨exact, shallow⟩, shares⟩ := portable
  have key : Reads (GroupKey.shape.read 126) keys.groupKey.print keys.groupKey :=
    GroupKey.reads_isObjectOf exact (Nat.le_trans shallow (by decide)) (isObjectOf_printObject _)
  have each : List.Forall₂ (Reads (KeyShare.shape.read 125)) (keys.shares.map KeyShare.print)
      keys.shares :=
    forall₂_reads_map fun share member text => KeyShare.reads_isObjectOf (shares share member).1
      (Nat.le_trans (shares share member).2 (by decide))
  exact DealtKeys.reads_isObjectOf key each (isObjectOf_printObject _)

/-- A portable signature share is read as it was printed. -/
theorem SignatureShare.reads_print {share : SignatureShare}
    (portable : Material.Portable share.signature) :
    Reads (SignatureShare.shape.read depthLimit) share.print share :=
  SignatureShare.reads_isObjectOf portable.1 (Nat.le_trans portable.2 (by decide))
    (isObjectOf_printObject _)

namespace Dispatcher

/-- The calls of the provider that the handling of a request makes, in order. -/
def Asks (dispatcher : Dispatcher σ) (call : Call) (payload : Option String)
    (asked : List ProviderCall) : Prop :=
  ∀ (before : List ProviderCall) (state : σ),
    (((⟨dispatcher.provider.recording, dispatcher.frameLimit⟩ : Dispatcher _).dispatch call
      payload).run (before, state)).2.1 = before ++ asked

/-- A request to sign is answered exactly if the provider signs it, with the number of the share
that signs. -/
theorem sign_eq_frame {dispatcher : Dispatcher σ} {request : SignRequest} {state : σ}
    {frame : Frame} :
    ((dispatcher.sign request).run state).1.reply = .frame frame ↔
      ∃ signed, ((dispatcher.provider.sign request.share (Bytes.ofString request.msg)).run state).1 =
        .returns signed ∧
      frame = ⟨.signResponse,
        some (String.ofList (SignatureShare.print ⟨request.share.id, signed.signature⟩))⟩ := by
  unfold sign
  rw [StateT.run_bind]
  obtain ⟨outcome, next⟩ :=
    (dispatcher.provider.sign request.share (Bytes.ofString request.msg)).run state
  cases outcome with
  | returns signed =>
    show Reply.frame _ = _ ↔ _
    simp [eq_comm]
  | refuses error =>
    show Reply.failed _ = _ ↔ _
    simp
  | panics text =>
    show Reply.panicked _ = _ ↔ _
    simp

/-- A request to deal is answered by a frame that carries the keys dealt. -/
theorem deal_carries (dispatcher : Dispatcher σ) (state : σ) {payload : Option String}
    {frame : Frame}
    (answered : ((dispatcher.dispatch .dealRequest payload).run state).1.reply = .frame frame) :
    ∃ text request keys, payload = some text ∧
      (DealRequest.shape.read depthLimit).run text = .ok request ∧
      ((dispatcher.provider.deal request.keySize request.l request.k).run state).1 =
        .returns keys ∧
      (keys.Portable → frame.Carries .dealResponse keys.print DealtKeys.shape.read keys) := by
  obtain ⟨text, request, given, read, handled⟩ := dispatch_dealRequest_eq_frame.mp answered
  obtain ⟨-, -, keys, dealt, accepted⟩ := deal_eq_frame.mp handled
  obtain ⟨-, -, rfl⟩ := answerDeal_eq_frame.mp accepted
  refine ⟨text, request, keys, given, read, dealt, fun portable => ?_⟩
  exact Frame.carries_printObject .dealResponse _ (DealtKeys.reads_print portable)

/-- A request to sign is answered by a frame that carries the material signed, under the number of
the request. -/
theorem sign_carries (dispatcher : Dispatcher σ) (state : σ) {payload : Option String}
    {frame : Frame}
    (answered : ((dispatcher.dispatch .signRequest payload).run state).1.reply = .frame frame) :
    ∃ text request signed, payload = some text ∧
      (SignRequest.read depthLimit).run text = .ok request ∧
      ((dispatcher.provider.sign request.share (Bytes.ofString request.msg)).run state).1 =
        .returns signed ∧
      (Material.Portable signed.signature →
        frame.Carries .signResponse (SignatureShare.print ⟨request.share.id, signed.signature⟩)
          SignatureShare.shape.read ⟨request.share.id, signed.signature⟩) := by
  obtain ⟨text, request, given, read, handled⟩ := withPayload_eq_frame.mp answered
  obtain ⟨signed, signs, rfl⟩ := sign_eq_frame.mp handled
  refine ⟨text, request, signed, given, read, signs, fun portable => ?_⟩
  exact Frame.carries_printObject .signResponse _ (SignatureShare.reads_print portable)

/-- A payload that is read is planned as what is read. -/
theorem planPayload_of_read {call : Call} {text : String} {read : Nat → Reader α} {request : α}
    (plan : α → Plan Handled) (found : (read depthLimit).run text = .ok request) :
    planPayload call (some text) read plan = plan request := by
  unfold planPayload
  simp only [found]

/-- The handling of a call makes the call of the provider that is planned for it. -/
theorem asks_of_plan {dispatcher : Dispatcher σ} {call : Call} {payload : Option String}
    {asked : ProviderCall}
    (planned : ∃ decide, plan dispatcher.frameLimit dispatcher.provider.signatureLengthBound call
      payload = .asking asked decide) : dispatcher.Asks call payload [asked] := by
  intro before state
  obtain ⟨decide, planned⟩ := planned
  rw [dispatch_recording, planned]
  rfl

/-- A key share with a message is a request to sign with that very share. -/
theorem sign_asks (dispatcher : Dispatcher σ) {share : KeyShare}
    (portable : Material.Portable share.share) (msg : String) {text : List Char}
    (object : IsObjectOf (("msg", Literal.print msg) :: share.members) text) :
    (SignRequest.read depthLimit).run (String.ofList text) = .ok ⟨share, msg⟩ ∧
      dispatcher.Asks .signRequest (some (String.ofList text))
        [.sign share (Bytes.ofString msg)] := by
  have reads : Reads (SignRequest.read depthLimit) text ⟨share, msg⟩ :=
    SignRequest.reads_isObjectOf portable.1 (Nat.le_trans portable.2 (by decide)) object
  exact ⟨reads.run, asks_of_plan ⟨_, planPayload_of_read planSign reads.run⟩⟩

/-- A group key with signature shares and a message is a request to verify just these, and it asks
the provider once there are as many shares as the key needs. -/
theorem verify_asks (dispatcher : Dispatcher σ) {groupKey : GroupKey}
    {shares : List SignatureShare} (portable : Material.Portable groupKey.key)
    (each : ∀ share ∈ shares, Material.Portable share.signature) (msg : String)
    {keyText : List Char} (key : IsObjectOf groupKey.members keyText) {shareTexts : List (List Char)}
    (signed : List.Forall₂ (fun text share => IsObjectOf (SignatureShare.members share) text)
      shareTexts shares)
    {text : List Char}
    (object : IsObjectOf [("group-key", keyText), ("signatures", printArray shareTexts),
      ("msg", Literal.print msg)] text) :
    (VerifyRequest.shape.read depthLimit).run (String.ofList text) =
        .ok ⟨groupKey, shares, msg⟩ ∧
      (groupKey.k.toNat ≤ shares.length →
        dispatcher.Asks .verifyRequest (some (String.ofList text))
          [.verify groupKey shares (Bytes.ofString msg)]) := by
  have key_reads : Reads (GroupKey.shape.read 126) keyText groupKey :=
    GroupKey.reads_isObjectOf portable.1 (Nat.le_trans portable.2 (by decide)) key
  have shares_read : List.Forall₂ (Reads (SignatureShare.shape.read 125)) shareTexts shares :=
    forall₂_reads (fun share member text => SignatureShare.reads_isObjectOf (each share member).1
      (Nat.le_trans (each share member).2 (by decide))) signed
  have reads : Reads (VerifyRequest.shape.read depthLimit) text ⟨groupKey, shares, msg⟩ :=
    VerifyRequest.reads_isObjectOf key_reads shares_read object
  refine ⟨reads.run, fun enough => asks_of_plan ?_⟩
  have planned : planVerify ⟨groupKey, shares, msg⟩ =
      .asking (.verify groupKey shares (Bytes.ofString msg)) _ := if_neg (Nat.not_lt.mpr enough)
  exact ⟨_, (planPayload_of_read planVerify reads.run).trans planned⟩

/-- Descriptors pass from one call to the next. A frame that answers a request to deal or to sign
carries what the provider has returned; a dealt key share with a message beside its members, in any
order, reaches the provider as that share; and a group key with signature shares and a message reach
it as they are, once there are enough shares. -/
theorem descriptors_chain (dispatcher : Dispatcher σ) (state : σ) :
    (∀ payload frame,
      ((dispatcher.dispatch .dealRequest payload).run state).1.reply = .frame frame →
      ∃ text request keys, payload = some text ∧
        (DealRequest.shape.read depthLimit).run text = .ok request ∧
        ((dispatcher.provider.deal request.keySize request.l request.k).run state).1 =
          .returns keys ∧
        (keys.Portable → frame.Carries .dealResponse keys.print DealtKeys.shape.read keys)) ∧
    (∀ payload frame,
      ((dispatcher.dispatch .signRequest payload).run state).1.reply = .frame frame →
      ∃ text request signed, payload = some text ∧
        (SignRequest.read depthLimit).run text = .ok request ∧
        ((dispatcher.provider.sign request.share (Bytes.ofString request.msg)).run state).1 =
          .returns signed ∧
        (Material.Portable signed.signature →
          frame.Carries .signResponse (SignatureShare.print ⟨request.share.id, signed.signature⟩)
            SignatureShare.shape.read ⟨request.share.id, signed.signature⟩)) ∧
    (∀ (share : KeyShare) (msg : String) (text : List Char), Material.Portable share.share →
      IsObjectOf (("msg", Literal.print msg) :: share.members) text →
      (SignRequest.read depthLimit).run (String.ofList text) = .ok ⟨share, msg⟩ ∧
        dispatcher.Asks .signRequest (some (String.ofList text))
          [.sign share (Bytes.ofString msg)]) ∧
    (∀ (groupKey : GroupKey) (shares : List SignatureShare) (msg : String)
      (keyText : List Char) (shareTexts : List (List Char)) (text : List Char),
      Material.Portable groupKey.key → (∀ share ∈ shares, Material.Portable share.signature) →
      IsObjectOf groupKey.members keyText →
      List.Forall₂ (fun text share => IsObjectOf (SignatureShare.members share) text) shareTexts
        shares →
      IsObjectOf [("group-key", keyText), ("signatures", printArray shareTexts),
        ("msg", Literal.print msg)] text →
      (VerifyRequest.shape.read depthLimit).run (String.ofList text) =
          .ok ⟨groupKey, shares, msg⟩ ∧
        (groupKey.k.toNat ≤ shares.length →
          dispatcher.Asks .verifyRequest (some (String.ofList text))
            [.verify groupKey shares (Bytes.ofString msg)])) := by
  refine ⟨fun _ _ => dispatcher.deal_carries state, fun _ _ => dispatcher.sign_carries state, ?_, ?_⟩
  · intro share msg text portable object
    exact dispatcher.sign_asks portable msg object
  · intro groupKey shares msg keyText shareTexts text portable each key signed object
    exact dispatcher.verify_asks portable each msg key signed object

/-- A dealt key of nested material and one share. -/
def sampleKeys : DealtKeys where
  groupKey := ⟨1, 2, 512, .object [("a", .array [.null, .ofNat 7]), ("b", .text "\n")]⟩
  shares := [⟨1, .text "secret"⟩]

/-- A dispatcher whose provider deals the sample keys and signs with a truth value. -/
def sampleDispatcher : Dispatcher CallCounts where
  provider := ProviderScript.provider
    { deal := fun _ _ _ _ => .returns sampleKeys
      sign := fun _ share => .returns ⟨share.id, .bool true⟩
      verify := fun _ => .returns true
      signatureLengthBound := 4 }
  frameLimit := 16384

/-- The sample keys are portable. -/
theorem sampleKeys_portable : sampleKeys.Portable := by
  have key : Material.Portable sampleKeys.groupKey.key := by
    refine ⟨⟨⟨?_, trivial⟩, ⟨trivial, rfl, trivial⟩, trivial, trivial⟩, by decide⟩
    decide +kernel
  refine ⟨key, fun share member => ?_⟩
  obtain rfl := List.mem_singleton.mp member
  exact ⟨trivial, Nat.zero_le _⟩

/-- The sample keys are dealt, sign a message and are asked to verify it. -/
theorem descriptors_chain_sample :
    let deal : Frame := ⟨.dealResponse, some (String.ofList sampleKeys.print)⟩
    let share : KeyShare := ⟨1, .text "secret"⟩
    let signing : List Char := SignRequest.print ⟨share, "é"⟩
    let signed : SignatureShare := ⟨1, .bool true⟩
    let sign : Frame := ⟨.signResponse, some (String.ofList signed.print)⟩
    let verifying : List Char := VerifyRequest.print ⟨sampleKeys.groupKey, [signed], "é"⟩
    deal.Carries .dealResponse sampleKeys.print DealtKeys.shape.read sampleKeys ∧
    sign.Carries .signResponse signed.print SignatureShare.shape.read signed ∧
    sampleDispatcher.Asks .signRequest (some (String.ofList signing))
      [.sign share [0xC3, 0xA9]] ∧
    sampleDispatcher.Asks .verifyRequest (some (String.ofList verifying))
      [.verify sampleKeys.groupKey [signed] [0xC3, 0xA9]] := by
  intro deal share signing signed sign verifying
  let request : DealRequest := ⟨512, 2, 1⟩
  obtain ⟨deals, signs, asks_sign, asks_verify⟩ := descriptors_chain sampleDispatcher {}
  have dealing : (DealRequest.shape.read depthLimit).run (String.ofList request.print) =
      .ok request := (DealRequest.reads_isObjectOf (isObjectOf_printObject _)).run
  have answered : ((sampleDispatcher.dispatch .dealRequest
      (some (String.ofList request.print))).run {}).1.reply = .frame deal := by
    refine dispatch_dealRequest_eq_frame.mpr ⟨_, request, rfl, dealing, deal_eq_frame.mpr ?_⟩
    refine ⟨by decide, by decide, sampleKeys, rfl, answerDeal_eq_frame.mpr ⟨by decide, ?_, rfl⟩⟩
    decide +kernel
  have flat : ∀ {value : Value}, value.Exact → value.depth = 0 → Material.Portable value :=
    fun exact flat => ⟨exact, flat ▸ Nat.zero_le _⟩
  have beside : IsObjectOf (("msg", Literal.print "é") :: share.members) signing :=
    ⟨_, List.perm_append_singleton _ _, rfl⟩
  obtain ⟨signing_read, asked_sign⟩ := asks_sign share "é" signing (flat trivial rfl) beside
  have signed_answered : ((sampleDispatcher.dispatch .signRequest
      (some (String.ofList signing))).run {}).1.reply = .frame sign :=
    withPayload_eq_frame.mpr ⟨_, _, rfl, signing_read, sign_eq_frame.mpr ⟨signed, rfl, rfl⟩⟩
  refine ⟨?_, ?_, asked_sign, ?_⟩
  · obtain ⟨_, _, keys, -, -, dealt, carries⟩ := deals _ _ answered
    obtain rfl : sampleKeys = keys := by injection dealt
    exact carries sampleKeys_portable
  · obtain ⟨text, request, answer, given, read, dealt, carries⟩ := signs _ _ signed_answered
    obtain rfl := Option.some.inj given
    obtain rfl := Except.ok.inj (signing_read.symm.trans read)
    obtain rfl : signed = answer := by injection dealt
    exact carries (flat trivial rfl)
  · refine (asks_verify sampleKeys.groupKey [signed] "é" sampleKeys.groupKey.print [signed.print]
      verifying sampleKeys_portable.1 ?_ (isObjectOf_printObject _) ?_
      (isObjectOf_printObject _)).2 (by decide)
    · intro share member
      obtain rfl := List.mem_singleton.mp member
      exact flat trivial rfl
    · exact .cons (isObjectOf_printObject _) .nil

end Dispatcher

end ThresholdDaemon
