import ThresholdDaemon.Session

/-!
# Plans

What the bytes of a frame settle before a provider is asked is a plan: either everything is settled,
or one call of the provider is to be made and its outcome decides the rest. A plan knows the frame
limit and the length of signature shares, but no provider and no state. The handling of a request
and of a frame is proved to be the following of a plan, so a frame makes at most one call, and what
it yields depends on nothing but its bytes and the outcome of that call.
-/
namespace ThresholdDaemon

variable {σ α β : Type}

/-- What a call of a provider gives. -/
def ProviderCall.Value : ProviderCall → Type
  | .deal .. => DealtKeys
  | .sign .. => SignatureShare
  | .verify .. => Bool

/-- Make a call of a provider. -/
def Provider.make (provider : Provider σ) :
    (call : ProviderCall) → StateM σ (Outcome call.Value)
  | .deal keySize l k => provider.deal keySize l k
  | .sign share msg => provider.sign share msg
  | .verify groupKey shares msg => provider.verify groupKey shares msg

/-- What is settled, and what the outcome of one call still decides. -/
inductive Plan (α : Type) where
  /-- Everything is settled. -/
  | settled (value : α)
  /-- The outcome of a call decides. -/
  | asking (call : ProviderCall) (decide : Outcome call.Value → α)

namespace Plan

/-- A plan whose result is put to use. -/
def map (use : α → β) : Plan α → Plan β
  | settled value => settled (use value)
  | asking call decide => asking call fun outcome => use (decide outcome)

/-- Do as planned. -/
def follow (provider : Provider σ) : Plan α → StateM σ α
  | settled value => pure value
  | asking call decide => decide <$> provider.make call

/-- Following a plan and then using its result is following the plan that uses it. -/
@[simp] theorem follow_map (provider : Provider σ) (use : α → β) (plan : Plan α) :
    (plan.map use).follow provider = use <$> plan.follow provider := by
  cases plan with
  | settled value => rfl
  | asking call decide => rfl

/-- A call whose outcome is all that goes into what is returned then is a plan that asks for it. -/
theorem bind_eq_follow (provider : Provider σ) (call : ProviderCall)
    (handle : Outcome call.Value → StateM σ α) (decide : Outcome call.Value → α)
    (pure_handle : ∀ outcome, handle outcome = pure (decide outcome)) :
    provider.make call >>= handle = (asking call decide).follow provider := by
  have same : handle = pure ∘ decide := funext pure_handle
  rw [same, follow, map_eq_pure_bind]
  rfl

/-- The calls of the provider that a plan makes. -/
def asked : Plan α → List ProviderCall
  | settled _ => []
  | asking call _ => [call]

/-- A plan makes at most one call. -/
theorem length_asked_le (plan : Plan α) : plan.asked.length ≤ 1 := by
  cases plan with
  | settled value => exact Nat.zero_le 1
  | asking call decide => exact Nat.le_refl 1

/-- A plan that makes no call leaves the state of the provider as it is. -/
theorem follow_of_asked_eq_nil (provider : Provider σ) {plan : Plan α} (idle : plan.asked = [])
    (state : σ) : ((plan.follow provider).run state).2 = state := by
  cases plan with
  | settled value => rfl
  | asking call decide => exact absurd idle (List.cons_ne_nil call [])

/-- Noting the calls of the provider finds those that a plan makes, and changes nothing else. -/
theorem follow_recording (provider : Provider σ) (plan : Plan α) (before : List ProviderCall)
    (state : σ) :
    (plan.follow provider.recording).run (before, state) =
      (((plan.follow provider).run state).1,
        (before ++ plan.asked, ((plan.follow provider).run state).2)) := by
  cases plan with
  | settled value => rw [asked, List.append_nil]; rfl
  | asking call decide => cases call <;> rfl

end Plan

namespace Dispatcher

open Json (Reader depthLimit)

/-- The plan of a request, once its payload is read. -/
def planPayload (call : Call) (payload : Option String) (read : Nat → Reader α)
    (plan : α → Plan Handled) : Plan Handled :=
  match payload with
  | none => .settled { reply := .failed (.missingPayload call) }
  | some text =>
    match (read depthLimit).run text with
    | .error fault => .settled { reply := .failed (.malformedPayload call fault) }
    | .ok request => plan request

/-- The plan of a request to deal. -/
def planDeal (frameLimit signatureLength : Nat) (request : DealRequest) : Plan Handled :=
  if request.k = 0 then .settled { reply := .failed (.invalidArguments .noSigners) }
  else if request.l < request.k then
    .settled { reply := .failed (.invalidArguments (.tooManySigners request.k request.l)) }
  else
    .asking (.deal request.keySize request.l request.k) fun
      | .returns keys => answerDeal frameLimit signatureLength request keys
      | .refuses error => { reply := .failed (.provider error) }
      | .panics text => { reply := .panicked text }

/-- The plan of a request to sign. -/
def planSign (request : SignRequest) : Plan Handled :=
  .asking (.sign request.share (Bytes.ofString request.msg)) fun
    | .returns signed =>
      answered .signRequest .signResponse
        (SignatureShare.print ⟨request.share.id, SignatureShare.signature signed⟩)
    | .refuses error => { reply := .failed (.provider error) }
    | .panics text => { reply := .panicked text }

/-- The plan of a request to verify. -/
def planVerify (request : VerifyRequest) : Plan Handled :=
  let supplied := request.signatures.length
  let needed := request.groupKey.k.toNat
  if supplied < needed then
    .settled (verdict false [event .debug "not enough signature shares to verify"
      [("supplied", .count supplied), ("required", .count needed)]])
  else
    .asking (.verify request.groupKey request.signatures (Bytes.ofString request.msg)) fun
      | .returns valid => verdict valid
      | .refuses error =>
        verdict false [event .warn "signature verification rejected its input"
          [("error", .shown error.message)]]
      | .panics text => { reply := .panicked text }

/-- The plan of a call. -/
def plan (frameLimit signatureLength : Nat) (call : Call) (payload : Option String) :
    Plan Handled :=
  match call with
  | .dealRequest =>
    planPayload call payload DealRequest.shape.read (planDeal frameLimit signatureLength)
  | .signRequest => planPayload call payload SignRequest.read planSign
  | .verifyRequest => planPayload call payload VerifyRequest.shape.read planVerify
  | .dealResponse | .signResponse | .verifyResponse | .unknown =>
    .settled { reply := .nothing
               log := [event .debug "call has no handler" [("call", .shown call.token)]] }

/-- A request to deal is handled as planned. -/
theorem deal_eq_follow (dispatcher : Dispatcher σ) (request : DealRequest) :
    dispatcher.deal request =
      (planDeal dispatcher.frameLimit dispatcher.provider.signatureLengthBound request).follow
        dispatcher.provider := by
  unfold deal planDeal
  by_cases none : request.k = 0
  · rw [if_pos none, if_pos none]
    rfl
  · rw [if_neg none, if_neg none]
    by_cases many : request.l < request.k
    · rw [if_pos many, if_pos many]
      rfl
    · rw [if_neg many, if_neg many]
      apply Plan.bind_eq_follow dispatcher.provider
        (.deal request.keySize request.l request.k)
      intro outcome
      cases outcome <;> rfl

/-- A request to sign is handled as planned. -/
theorem sign_eq_follow (dispatcher : Dispatcher σ) (request : SignRequest) :
    dispatcher.sign request = (planSign request).follow dispatcher.provider := by
  apply Plan.bind_eq_follow dispatcher.provider
    (.sign request.share (Bytes.ofString request.msg))
  intro outcome
  cases outcome <;> rfl

/-- A request to verify is handled as planned. -/
theorem verify_eq_follow (dispatcher : Dispatcher σ) (request : VerifyRequest) :
    dispatcher.verify request = (planVerify request).follow dispatcher.provider := by
  unfold verify planVerify
  by_cases few : request.signatures.length < request.groupKey.k.toNat
  · simp only [if_pos few]
    rfl
  · simp only [if_neg few]
    apply Plan.bind_eq_follow dispatcher.provider
      (.verify request.groupKey request.signatures (Bytes.ofString request.msg))
    intro outcome
    cases outcome <;> rfl

/-- A request to verify makes no call of the provider if it has fewer shares than its group key
declares, and otherwise one. -/
theorem calls_verify (provider : Provider σ) (frameLimit : Nat) (request : VerifyRequest)
    (before : List ProviderCall) (state : σ) :
    (((⟨provider.recording, frameLimit⟩ : Dispatcher _).verify request).run (before, state)).2.1 =
      if request.signatures.length < request.groupKey.k.toNat then before
      else before ++ [.verify request.groupKey request.signatures (Bytes.ofString request.msg)] := by
  have noted := Plan.follow_recording provider (planVerify request) before state
  rw [verify_eq_follow]
  show (((planVerify request).follow provider.recording).run (before, state)).2.1 = _
  rw [noted]
  unfold planVerify
  by_cases few : request.signatures.length < request.groupKey.k.toNat
  · simp only [if_pos few]
    exact List.append_nil before
  · simp only [if_neg few]
    rfl

/-- A request whose payload is read is handled as planned if what is read is. -/
theorem withPayload_eq_follow (provider : Provider σ) (call : Call) (payload : Option String)
    (read : Nat → Reader α) (handle : α → StateM σ Handled) (plan : α → Plan Handled)
    (planned : ∀ request, handle request = (plan request).follow provider) :
    withPayload call payload read handle =
      (planPayload call payload read plan).follow provider := by
  unfold withPayload planPayload
  cases payload with
  | none => rfl
  | some text =>
    cases found : (read depthLimit).run text with
    | error fault =>
      simp only [found]
      rfl
    | ok request =>
      simp only [found]
      exact planned request

/-- A call is handled as planned. -/
theorem dispatch_eq_follow (dispatcher : Dispatcher σ) (call : Call) (payload : Option String) :
    dispatcher.dispatch call payload =
      (plan dispatcher.frameLimit dispatcher.provider.signatureLengthBound call payload).follow
        dispatcher.provider := by
  cases call with
  | dealRequest => exact withPayload_eq_follow _ _ _ _ _ _ dispatcher.deal_eq_follow
  | signRequest => exact withPayload_eq_follow _ _ _ _ _ _ dispatcher.sign_eq_follow
  | verifyRequest => exact withPayload_eq_follow _ _ _ _ _ _ dispatcher.verify_eq_follow
  | dealResponse | signResponse | verifyResponse | unknown => rfl

/-- Noting the calls of the provider finds those that are planned for a call, and changes nothing
else. -/
theorem dispatch_recording (dispatcher : Dispatcher σ) (call : Call) (payload : Option String)
    (before : List ProviderCall) (state : σ) :
    ((⟨dispatcher.provider.recording, dispatcher.frameLimit⟩ : Dispatcher _).dispatch call
        payload).run (before, state) =
      (((dispatcher.dispatch call payload).run state).1,
        (before ++ (plan dispatcher.frameLimit dispatcher.provider.signatureLengthBound call
          payload).asked, ((dispatcher.dispatch call payload).run state).2)) := by
  rw [dispatch_eq_follow, dispatch_eq_follow]
  exact Plan.follow_recording dispatcher.provider _ before state

/-- A call for which no call of the provider is planned leaves the state of the provider as it
is. -/
theorem dispatch_idle (dispatcher : Dispatcher σ) {call : Call} {payload : Option String}
    (idle : (plan dispatcher.frameLimit dispatcher.provider.signatureLengthBound call
      payload).asked = []) (state : σ) :
    ((dispatcher.dispatch call payload).run state).2 = state := by
  rw [dispatch_eq_follow]
  exact Plan.follow_of_asked_eq_nil dispatcher.provider idle state

end Dispatcher

namespace Session

/-- What a handled call comes to: the response, or what is logged in place of one. -/
def conclude (frame : RawFrame) (handled : Handled) : Option Frame × List LogEvent :=
  match handled.reply with
  | .frame response => (some response, handled.log)
  | .nothing =>
    (none, handled.log ++ [event .warn "no appropriate response" [("token", .text frame.token)]])
  | .failed error =>
    (none, handled.log ++
      [event .warn "request failed"
        [("call", .shown frame.call.token), errorField error.message]])
  | .panicked _ => (none, handled.log ++ [event .error "request handling panicked"])

/-- The plan of the bytes of a frame. -/
def plan (frameLimit signatureLength : Nat) (bytes : Bytes) :
    Plan (Option Frame × List LogEvent) :=
  match RawFrame.decode bytes with
  | .error error => .settled (none, [event .warn "framing error" [errorField error.message]])
  | .ok frame =>
    (Dispatcher.plan frameLimit signatureLength frame.call frame.payload).map (conclude frame)

/-- A frame is handled as planned: it makes at most one call of the provider, and nothing but its
bytes and the outcome of that call decides what it yields. -/
theorem answer_eq_follow (dispatcher : Dispatcher σ) (bytes : Bytes) :
    answer dispatcher bytes =
      (plan dispatcher.frameLimit dispatcher.provider.signatureLengthBound bytes).follow
        dispatcher.provider := by
  unfold answer plan
  cases decoded : RawFrame.decode bytes with
  | error error =>
    rfl
  | ok frame =>
    dsimp only
    rw [Plan.follow_map, ← Dispatcher.dispatch_eq_follow, map_eq_pure_bind]
    congr 1
    funext handled
    unfold conclude
    cases handled.reply <;> rfl

end Session

end ThresholdDaemon
