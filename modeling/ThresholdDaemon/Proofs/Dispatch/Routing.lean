import ThresholdDaemon.Proofs.Dispatch.Chain

/-!
# Routes

What a call asks of the provider is settled by its payload alone: a request that can be read, and
that makes sense, asks for one call with just what it holds, and nothing else asks for any. What
becomes of the call follows: calls without a response are passed over, payloads that are missing or
cannot be read are errors that name the call, and every answer is a frame of the response with a
payload.
-/
namespace ThresholdDaemon

open Json (Reader depthLimit)

variable {σ α : Type}

namespace Call

/-- A text cannot be read as the payload of a request. -/
def Rejects (call : Call) (text : String) (fault : Json.Fault) : Prop :=
  match call with
  | dealRequest => (DealRequest.shape.read depthLimit).run text = .error fault
  | signRequest => (SignRequest.read depthLimit).run text = .error fault
  | verifyRequest => (VerifyRequest.shape.read depthLimit).run text = .error fault
  | dealResponse | signResponse | verifyResponse | unknown => False

/-- A text asks for a call of the provider as the payload of a request. -/
inductive Wants : Call → String → ProviderCall → Prop
  /-- Keys are to be dealt, and at least one share and at most all of them sign. -/
  | deal {text : String} {request : DealRequest}
      (read : (DealRequest.shape.read depthLimit).run text = .ok request)
      (signers : 1 ≤ request.k) (enough : request.k ≤ request.l) :
    Wants dealRequest text (.deal request.keySize request.l request.k)
  /-- A message is to be signed. -/
  | sign {text : String} {request : SignRequest}
      (read : (SignRequest.read depthLimit).run text = .ok request) :
    Wants signRequest text (.sign request.share (Bytes.ofString request.msg))
  /-- Shares are to be verified, and there are as many as the group key needs. -/
  | verify {text : String} {request : VerifyRequest}
      (read : (VerifyRequest.shape.read depthLimit).run text = .ok request)
      (enough : request.groupKey.k.toNat ≤ request.signatures.length) :
    Wants verifyRequest text
      (.verify request.groupKey request.signatures (Bytes.ofString request.msg))

/-- A text is rejected for one fault. -/
theorem Rejects.unique {call : Call} {text : String} {fault other : Json.Fault}
    (rejects : call.Rejects text fault) (again : call.Rejects text other) : fault = other := by
  cases call with
  | dealRequest | signRequest | verifyRequest => exact Except.error.inj (rejects.symm.trans again)
  | dealResponse | signResponse | verifyResponse | unknown => exact rejects.elim

/-- Only requests reject texts. -/
theorem Rejects.response_ne_none {call : Call} {text : String} {fault : Json.Fault}
    (rejects : call.Rejects text fault) : call.response ≠ none := by
  rintro none
  cases call with
  | dealRequest | signRequest | verifyRequest => exact nomatch none
  | dealResponse | signResponse | verifyResponse | unknown => exact rejects

/-- Only requests ask for calls of the provider. -/
theorem Wants.response_ne_none {call : Call} {text : String} {wanted : ProviderCall}
    (wants : call.Wants text wanted) : call.response ≠ none := by
  cases wants <;> exact Option.some_ne_none _

/-- A text that is rejected asks for nothing. -/
theorem Rejects.not_wants {call : Call} {text : String} {fault : Json.Fault}
    (rejects : call.Rejects text fault) (wanted : ProviderCall) : ¬ call.Wants text wanted := by
  intro wants
  cases wants with
  | deal read | sign read | verify read => exact nomatch rejects.symm.trans read

end Call

/-- What may become of a request once its payload has been read. -/
inductive Reply.Concludes (response : Call) : Reply → Prop
  /-- It is answered by the response with a payload. -/
  | answered (payload : String) : Concludes response (.frame ⟨response, some payload⟩)
  /-- It makes no sense. -/
  | invalid (refusal : DealRefusal) : Concludes response (.failed (.invalidArguments refusal))
  /-- The provider refuses it. -/
  | refused (error : ProviderError) : Concludes response (.failed (.provider error))
  /-- Its handling panics. -/
  | panicked (text : String) : Concludes response (.panicked text)

/-- What may become of a request with a payload. -/
inductive Reply.Settles (call response : Call) (payload : Option String) : Reply → Prop
  /-- Its payload is missing. -/
  | missing (absent : payload = none) :
    Settles call response payload (.failed (.missingPayload call))
  /-- Its payload cannot be read. -/
  | rejected {text : String} {fault : Json.Fault} (given : payload = some text)
      (rejects : call.Rejects text fault) :
    Settles call response payload (.failed (.malformedPayload call fault))
  /-- Its payload has been read. -/
  | concluded {text : String} {reply : Reply} (given : payload = some text)
      (accepts : ∀ fault, ¬ call.Rejects text fault) (concludes : reply.Concludes response) :
    Settles call response payload reply

namespace Reply.Settles

variable {call response : Call} {payload : Option String} {reply : Reply}

/-- A request is not passed over. -/
theorem ne_nothing (settles : reply.Settles call response payload) : reply ≠ .nothing := by
  rintro rfl
  cases settles with
  | concluded given accepts concludes => exact nomatch concludes

/-- A payload is reported missing exactly if it is, and the error names the request. -/
theorem missing_iff (settles : reply.Settles call response payload) {named : Call} :
    reply = .failed (.missingPayload named) ↔ named = call ∧ payload = none := by
  cases settles with
  | missing absent =>
    simp [absent, eq_comm]
  | rejected given rejects =>
    simp [given]
  | concluded given accepts concludes =>
    refine iff_of_false ?_ (by simp [given])
    rintro rfl
    exact nomatch concludes

/-- A payload is reported malformed exactly if it cannot be read, and the error names the request
and the fault. -/
theorem malformed_iff (settles : reply.Settles call response payload) {named : Call}
    {fault : Json.Fault} :
    reply = .failed (.malformedPayload named fault) ↔
      named = call ∧ ∃ text, payload = some text ∧ call.Rejects text fault := by
  cases settles with
  | missing absent =>
    simp [absent]
  | @rejected text found given rejects =>
    constructor
    · rintro ⟨⟩
      exact ⟨rfl, text, given, rejects⟩
    · rintro ⟨rfl, other, again, refused⟩
      obtain rfl := Option.some.inj (given.symm.trans again)
      rw [rejects.unique refused]
  | concluded given accepts concludes =>
    refine iff_of_false ?_ ?_
    · rintro rfl
      exact nomatch concludes
    · rintro ⟨-, other, again, refused⟩
      obtain rfl := Option.some.inj (given.symm.trans again)
      exact accepts fault refused

/-- An answer is the response with a payload. -/
theorem answer (settles : reply.Settles call response payload) {frame : Frame}
    (answered : reply = .frame frame) : ∃ text, frame = ⟨response, some text⟩ := by
  subst answered
  cases settles with
  | concluded given accepts concludes =>
    cases concludes with
    | answered text => exact ⟨text, rfl⟩

end Reply.Settles

namespace Dispatcher

/-- A payload is missing, cannot be read, or what is read concludes. -/
theorem settles_withPayload {call response : Call} {payload : Option String}
    {read : Nat → Reader α} {handle : α → StateM σ Handled} {state : σ}
    (rejects : ∀ text fault, call.Rejects text fault ↔ (read depthLimit).run text = .error fault)
    (concludes : ∀ request, ((handle request).run state).1.reply.Concludes response) :
    ((withPayload call payload read handle).run state).1.reply.Settles call response payload := by
  unfold withPayload
  cases payload with
  | none => exact .missing rfl
  | some text =>
    cases found : (read depthLimit).run text with
    | error fault =>
      simp only [found]
      exact .rejected rfl ((rejects text fault).mpr found)
    | ok request =>
      simp only [found]
      refine .concluded rfl (fun fault refused => ?_) (concludes request)
      exact nomatch found.symm.trans ((rejects text fault).mp refused)

/-- Dealt keys are the answer, are refused or panic. -/
theorem concludes_answerDeal (frameLimit signatureLength : Nat) (request : DealRequest)
    (keys : DealtKeys) :
    (answerDeal frameLimit signatureLength request keys).reply.Concludes .dealResponse := by
  unfold answerDeal
  split
  · exact .panicked _
  · dsimp only
    split
    · exact .invalid _
    · exact .answered _

/-- A request to deal that has been read is answered, refused or panics. -/
theorem concludes_deal (dispatcher : Dispatcher σ) (request : DealRequest) (state : σ) :
    ((dispatcher.deal request).run state).1.reply.Concludes .dealResponse := by
  unfold deal
  by_cases nobody : request.k = 0
  · rw [if_pos nobody]
    exact .invalid _
  by_cases many : request.l < request.k
  · rw [if_neg nobody, if_pos many]
    exact .invalid _
  rw [if_neg nobody, if_neg many, StateT.run_bind]
  obtain ⟨outcome, next⟩ := (dispatcher.provider.deal request.keySize request.l request.k).run state
  cases outcome with
  | returns keys => exact concludes_answerDeal _ _ request keys
  | refuses error => exact .refused error
  | panics text => exact .panicked text

/-- A request to sign that has been read is answered, refused or panics. -/
theorem concludes_sign (dispatcher : Dispatcher σ) (request : SignRequest) (state : σ) :
    ((dispatcher.sign request).run state).1.reply.Concludes .signResponse := by
  unfold sign
  rw [StateT.run_bind]
  obtain ⟨outcome, next⟩ :=
    (dispatcher.provider.sign request.share (Bytes.ofString request.msg)).run state
  cases outcome with
  | returns signed => exact .answered _
  | refuses error => exact .refused error
  | panics text => exact .panicked text

/-- A request to verify that has been read is answered or panics. -/
theorem concludes_verify (dispatcher : Dispatcher σ) (request : VerifyRequest) (state : σ) :
    ((dispatcher.verify request).run state).1.reply.Concludes .verifyResponse := by
  rw [reply_verify]
  split
  · exact .answered _
  · cases ((dispatcher.provider.verify request.groupKey request.signatures
      (Bytes.ofString request.msg)).run state).1 with
    | returns valid => exact .answered _
    | refuses error => exact .answered _
    | panics text => exact .panicked text

/-- A call without a response is passed over, and every other one settles. -/
theorem reply_cases (dispatcher : Dispatcher σ) (call : Call) (payload : Option String)
    (state : σ) :
    let reply := ((dispatcher.dispatch call payload).run state).1.reply
    (call.response = none ∧ reply = .nothing) ∨
      ∃ response, call.response = some response ∧ reply.Settles call response payload := by
  have same (text : String) (fault : Json.Fault) :
      call.Rejects text fault ↔ call.Rejects text fault := Iff.rfl
  cases call with
  | dealRequest =>
    exact .inr ⟨_, rfl,
      settles_withPayload same fun request => dispatcher.concludes_deal request state⟩
  | signRequest =>
    exact .inr ⟨_, rfl,
      settles_withPayload same fun request => dispatcher.concludes_sign request state⟩
  | verifyRequest =>
    exact .inr ⟨_, rfl,
      settles_withPayload same fun request => dispatcher.concludes_verify request state⟩
  | dealResponse | signResponse | verifyResponse | unknown => exact .inl ⟨rfl, rfl⟩

/-- Just the calls without a response are passed over. -/
theorem dispatch_eq_nothing_iff {dispatcher : Dispatcher σ} {call : Call}
    {payload : Option String} {state : σ} :
    ((dispatcher.dispatch call payload).run state).1.reply = .nothing ↔ call.response = none := by
  obtain ⟨none, passed⟩ | ⟨response, some, settles⟩ := dispatcher.reply_cases call payload state
  · exact iff_of_true passed none
  · have answerable : call.response ≠ none := Option.ne_none_iff_exists'.mpr ⟨response, some⟩
    exact iff_of_false settles.ne_nothing answerable

/-- Just a request without a payload reports it missing, and names itself. -/
theorem dispatch_eq_missing_iff {dispatcher : Dispatcher σ} {call named : Call}
    {payload : Option String} {state : σ} :
    ((dispatcher.dispatch call payload).run state).1.reply = .failed (.missingPayload named) ↔
      named = call ∧ call.response ≠ none ∧ payload = none := by
  obtain ⟨none, passed⟩ | ⟨response, some, settles⟩ := dispatcher.reply_cases call payload state
  · rw [passed]
    exact iff_of_false (nomatch ·) fun absent => absent.2.1 none
  · have answerable : call.response ≠ none := Option.ne_none_iff_exists'.mpr ⟨response, some⟩
    rw [settles.missing_iff, and_iff_right answerable]

/-- Just a payload that cannot be read is reported malformed, and the request names itself. -/
theorem dispatch_eq_malformed_iff {dispatcher : Dispatcher σ} {call named : Call}
    {payload : Option String} {fault : Json.Fault} {state : σ} :
    ((dispatcher.dispatch call payload).run state).1.reply =
        .failed (.malformedPayload named fault) ↔
      named = call ∧ ∃ text, payload = some text ∧ call.Rejects text fault := by
  obtain ⟨none, passed⟩ | ⟨response, some, settles⟩ := dispatcher.reply_cases call payload state
  · rw [passed]
    exact iff_of_false (nomatch ·) fun ⟨_, _, _, rejects⟩ => rejects.response_ne_none none
  · exact settles.malformed_iff

/-- An answer is a frame of the response, with a payload. -/
theorem dispatch_isAnswer {dispatcher : Dispatcher σ} {call : Call} {payload : Option String}
    {state : σ} {frame : Frame}
    (answered : ((dispatcher.dispatch call payload).run state).1.reply = .frame frame) :
    call.response = some frame.call ∧ frame.payload ≠ none := by
  obtain ⟨none, passed⟩ | ⟨response, some, settles⟩ := dispatcher.reply_cases call payload state
  · exact nomatch passed.symm.trans answered
  · obtain ⟨text, rfl⟩ := settles.answer answered
    exact ⟨some, Option.some_ne_none text⟩

/-- The plan of a payload asks for what the plan of its request asks for. -/
theorem mem_asked_planPayload {call : Call} {payload : Option String} {read : Nat → Reader α}
    {plan : α → Plan Handled} {wanted : ProviderCall} :
    wanted ∈ (planPayload call payload read plan).asked ↔
      ∃ text request, payload = some text ∧ (read depthLimit).run text = .ok request ∧
        wanted ∈ (plan request).asked := by
  unfold planPayload
  cases payload with
  | none => simp [Plan.asked]
  | some text =>
    cases found : (read depthLimit).run text with
    | error fault => simp [found, Plan.asked]
    | ok request => simp [found]

/-- The plan of a request to deal asks for the deal if some share and at most all of them sign. -/
theorem mem_asked_planDeal {frameLimit signatureLength : Nat} {request : DealRequest}
    {wanted : ProviderCall} :
    wanted ∈ (planDeal frameLimit signatureLength request).asked ↔
      1 ≤ request.k ∧ request.k ≤ request.l ∧
        wanted = .deal request.keySize request.l request.k := by
  unfold planDeal
  by_cases nobody : request.k = 0
  · rw [if_pos nobody]
    have few : ¬ 1 ≤ request.k := by rw [nobody]; decide
    exact iff_of_false List.not_mem_nil fun ⟨signers, _⟩ => few signers
  have some : 1 ≤ request.k := by
    rw [UInt64.le_iff_toNat_le]
    exact Nat.one_le_iff_ne_zero.mpr fun zero => nobody (UInt64.toNat_inj.mp zero)
  by_cases many : request.l < request.k
  · rw [if_neg nobody, if_pos many]
    exact iff_of_false List.not_mem_nil fun ⟨_, enough, _⟩ => UInt64.not_le.mpr many enough
  · rw [if_neg nobody, if_neg many, Plan.asked, List.mem_singleton]
    exact ⟨fun same => ⟨some, UInt64.not_lt.mp many, same⟩, fun ⟨_, _, same⟩ => same⟩

/-- The plan of a request to verify asks for the verification if there are enough shares. -/
theorem mem_asked_planVerify {request : VerifyRequest} {wanted : ProviderCall} :
    wanted ∈ (planVerify request).asked ↔
      request.groupKey.k.toNat ≤ request.signatures.length ∧
        wanted = .verify request.groupKey request.signatures (Bytes.ofString request.msg) := by
  unfold planVerify
  by_cases few : request.signatures.length < request.groupKey.k.toNat
  · simp [few, Plan.asked]
  · simp [few, Plan.asked, Nat.le_of_not_lt]

/-- The plan of a call asks for what its payload wants. -/
theorem mem_asked_plan {frameLimit signatureLength : Nat} {call : Call} {payload : Option String}
    {wanted : ProviderCall} :
    wanted ∈ (plan frameLimit signatureLength call payload).asked ↔
      ∃ text, payload = some text ∧ call.Wants text wanted := by
  cases call with
  | dealRequest =>
    refine mem_asked_planPayload.trans ⟨?_, ?_⟩
    · rintro ⟨text, request, given, read, planned⟩
      obtain ⟨signers, enough, rfl⟩ := mem_asked_planDeal.mp planned
      exact ⟨text, given, .deal read signers enough⟩
    · rintro ⟨text, given, wants⟩
      cases wants with
      | deal read signers enough =>
        exact ⟨text, _, given, read, mem_asked_planDeal.mpr ⟨signers, enough, rfl⟩⟩
  | signRequest =>
    refine mem_asked_planPayload.trans ⟨?_, ?_⟩
    · rintro ⟨text, request, given, read, planned⟩
      obtain rfl := List.mem_singleton.mp planned
      exact ⟨text, given, .sign read⟩
    · rintro ⟨text, given, wants⟩
      cases wants with
      | sign read => exact ⟨text, _, given, read, List.mem_singleton.mpr rfl⟩
  | verifyRequest =>
    refine mem_asked_planPayload.trans ⟨?_, ?_⟩
    · rintro ⟨text, request, given, read, planned⟩
      obtain ⟨enough, rfl⟩ := mem_asked_planVerify.mp planned
      exact ⟨text, given, .verify read enough⟩
    · rintro ⟨text, given, wants⟩
      cases wants with
      | verify read enough =>
        exact ⟨text, _, given, read, mem_asked_planVerify.mpr ⟨enough, rfl⟩⟩
  | dealResponse | signResponse | verifyResponse | unknown =>
    exact iff_of_false List.not_mem_nil fun ⟨_, _, wants⟩ => nomatch wants

/-- The plan of a call asks for nothing without a response, without a payload or with one that cannot
be read. -/
theorem asked_plan_eq_nil {frameLimit signatureLength : Nat} {call : Call}
    {payload : Option String}
    (settled : call.response = none ∨ payload = none ∨
      ∃ text fault, payload = some text ∧ call.Rejects text fault) :
    (plan frameLimit signatureLength call payload).asked = [] := by
  apply List.eq_nil_iff_forall_not_mem.mpr
  intro wanted member
  obtain ⟨text, given, wants⟩ := mem_asked_plan.mp member
  obtain none | absent | ⟨other, fault, again, rejects⟩ := settled
  · exact wants.response_ne_none none
  · exact nomatch given.symm.trans absent
  · obtain rfl := Option.some.inj (given.symm.trans again)
    exact rejects.not_wants wanted wants

/-- How a call is routed in a state of the provider: the calls of the provider it makes, and what
becomes of it. -/
structure Routes (dispatcher : Dispatcher σ) (call : Call) (payload : Option String)
    (asked : List ProviderCall) (state : σ) : Prop where
  /-- The calls of the provider are noted after those before, and noting them changes nothing. -/
  noted (before : List ProviderCall) :
    ((⟨dispatcher.provider.recording, dispatcher.frameLimit⟩ : Dispatcher _).dispatch call
        payload).run (before, state) =
      (((dispatcher.dispatch call payload).run state).1,
        (before ++ asked, ((dispatcher.dispatch call payload).run state).2))
  /-- There is at most one. -/
  single : asked.length ≤ 1
  /-- It is the one that the payload wants. -/
  wanted (provided : ProviderCall) :
    provided ∈ asked ↔ ∃ text, payload = some text ∧ call.Wants text provided
  /-- There is none without a response, without a payload or with one that cannot be read. -/
  idle (settled : call.response = none ∨ payload = none ∨
      ∃ text fault, payload = some text ∧ call.Rejects text fault) :
    asked = []
  /-- Without a call of the provider its state stays. -/
  untouched (none : asked = []) : ((dispatcher.dispatch call payload).run state).2 = state
  /-- Just the calls without a response are passed over. -/
  nothing : ((dispatcher.dispatch call payload).run state).1.reply = .nothing ↔
    call.response = none
  /-- Just a request without a payload reports it missing, and the error names the request. -/
  missing (named : Call) :
    ((dispatcher.dispatch call payload).run state).1.reply = .failed (.missingPayload named) ↔
      named = call ∧ call.response ≠ none ∧ payload = none
  /-- Just a payload that cannot be read is reported malformed, and the error names the request. -/
  malformed (named : Call) (fault : Json.Fault) :
    ((dispatcher.dispatch call payload).run state).1.reply =
        .failed (.malformedPayload named fault) ↔
      named = call ∧ ∃ text, payload = some text ∧ call.Rejects text fault
  /-- An answer is a frame of the response, with a payload. -/
  answer (frame : Frame)
      (answered : ((dispatcher.dispatch call payload).run state).1.reply = .frame frame) :
    call.response = some frame.call ∧ frame.payload ≠ none
  /-- A request to sign is answered exactly if the provider signs it. The answer has the number of
  the request, whatever number the provider gives. -/
  signed (signs : call = .signRequest) (frame : Frame) :
    ((dispatcher.dispatch call payload).run state).1.reply = .frame frame ↔
      ∃ text request share, payload = some text ∧
        (SignRequest.read depthLimit).run text = .ok request ∧
        ((dispatcher.provider.sign request.share (Bytes.ofString request.msg)).run state).1 =
          .returns share ∧
        frame = ⟨.signResponse,
          some (String.ofList (SignatureShare.print ⟨request.share.id, share.signature⟩))⟩
  /-- A request to verify is answered by a verdict. -/
  verdict (verifies : call = .verifyRequest) (frame : Frame)
      (answered : ((dispatcher.dispatch call payload).run state).1.reply = .frame frame) :
    ∃ valid, frame = verdictFrame valid
  /-- The verdict is that the shares are valid exactly if the provider is asked and says so. -/
  valid (verifies : call = .verifyRequest) :
    ((dispatcher.dispatch call payload).run state).1.reply = .frame (verdictFrame true) ↔
      ∃ groupKey shares msg, .verify groupKey shares msg ∈ asked ∧
        ((dispatcher.provider.verify groupKey shares msg).run state).1 = .returns true

/-- A payload to verify is answered by a verdict. -/
theorem dispatch_verifyRequest_eq_frame {dispatcher : Dispatcher σ} {payload : Option String}
    {state : σ} {frame : Frame}
    (answered : ((dispatcher.dispatch .verifyRequest payload).run state).1.reply = .frame frame) :
    ∃ valid, frame = verdictFrame valid := by
  obtain ⟨text, request, given, read, handled⟩ := withPayload_eq_frame.mp answered
  exact reply_verify_eq_frame handled

/-- A payload to verify is found valid exactly if it asks the provider, which says so. -/
theorem dispatch_verifyRequest_eq_true_iff {dispatcher : Dispatcher σ} {payload : Option String}
    {state : σ} :
    ((dispatcher.dispatch .verifyRequest payload).run state).1.reply =
        .frame (verdictFrame true) ↔
      ∃ groupKey shares msg,
        (∃ text, payload = some text ∧
          Call.Wants .verifyRequest text (.verify groupKey shares msg)) ∧
        ((dispatcher.provider.verify groupKey shares msg).run state).1 = .returns true := by
  refine withPayload_eq_frame.trans ⟨?_, ?_⟩
  · rintro ⟨text, request, given, read, handled⟩
    obtain ⟨enough, valid⟩ := reply_verify_eq_true_iff.mp handled
    exact ⟨_, _, _, ⟨text, given, .verify read enough⟩, valid⟩
  · rintro ⟨_, _, _, ⟨text, given, wants⟩, valid⟩
    cases wants with
    | @verify _ request read enough =>
      exact ⟨text, request, given, read, reply_verify_eq_true_iff.mpr ⟨enough, valid⟩⟩

/-- A payload to sign is answered exactly if a request is read from it and the provider signs
it. -/
theorem dispatch_signRequest_eq_frame {dispatcher : Dispatcher σ} {payload : Option String}
    {state : σ} {frame : Frame} :
    ((dispatcher.dispatch .signRequest payload).run state).1.reply = .frame frame ↔
      ∃ text request share, payload = some text ∧
        (SignRequest.read depthLimit).run text = .ok request ∧
        ((dispatcher.provider.sign request.share (Bytes.ofString request.msg)).run state).1 =
          .returns share ∧
        frame = ⟨.signResponse,
          some (String.ofList (SignatureShare.print ⟨request.share.id, share.signature⟩))⟩ := by
  refine withPayload_eq_frame.trans ⟨?_, ?_⟩
  · rintro ⟨text, request, given, read, handled⟩
    obtain ⟨share, signs, isFrame⟩ := sign_eq_frame.mp handled
    exact ⟨text, request, share, given, read, signs, isFrame⟩
  · rintro ⟨text, request, share, given, read, signs, isFrame⟩
    exact ⟨text, request, given, read, sign_eq_frame.mpr ⟨share, signs, isFrame⟩⟩

/-- Every call with every payload makes at most one call of the provider, which its payload alone
settles: the one that a request wants if it can be read and makes sense. What becomes of the call
agrees with that in every state of the provider. -/
theorem dispatch_routes (dispatcher : Dispatcher σ) (call : Call) (payload : Option String) :
    ∃ asked, ∀ state, dispatcher.Routes call payload asked state := by
  refine ⟨(plan dispatcher.frameLimit dispatcher.provider.signatureLengthBound call payload).asked,
    fun state => ?_⟩
  constructor
  case noted => exact fun before => dispatcher.dispatch_recording call payload before state
  case single => exact Plan.length_asked_le _
  case wanted => exact fun provided => mem_asked_plan
  case idle => exact asked_plan_eq_nil
  case untouched => exact fun none => dispatcher.dispatch_idle none state
  case nothing => exact dispatch_eq_nothing_iff
  case missing => exact fun named => dispatch_eq_missing_iff
  case malformed => exact fun named fault => dispatch_eq_malformed_iff
  case answer => exact fun frame answered => dispatch_isAnswer answered
  case signed =>
    rintro rfl frame
    exact dispatch_signRequest_eq_frame
  case verdict =>
    rintro rfl frame answered
    exact dispatch_verifyRequest_eq_frame answered
  case valid =>
    rintro rfl
    simp only [mem_asked_plan]
    exact dispatch_verifyRequest_eq_true_iff

end Dispatcher

end ThresholdDaemon
