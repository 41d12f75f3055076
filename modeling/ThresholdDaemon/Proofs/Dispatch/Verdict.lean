import ThresholdDaemon.Dispatch

/-!
# Verdicts

A request to verify that can be read is answered by one of two frames, whatever it holds. Too few
shares and an error of the provider are a verdict as well, so only a panic of the provider leaves
such a request without an answer.
-/
namespace ThresholdDaemon.Dispatcher

variable {σ : Type}

/-- The frame that tells whether some shares make a signature. -/
def verdictFrame (valid : Bool) : Frame where
  call := .verifyResponse
  payload := some (if valid then "\x7b\"valid\":true\x7d" else "\x7b\"valid\":false\x7d")

/-- A verdict is answered by its frame, whatever is logged with it. -/
@[simp] theorem reply_verdict (valid : Bool) (log : List LogEvent) :
    (verdict valid log).reply = .frame (verdictFrame valid) := by
  have printed : String.ofList (VerifyResponse.print ⟨valid⟩) =
      if valid then "\x7b\"valid\":true\x7d" else "\x7b\"valid\":false\x7d" := by
    cases valid <;> decide +kernel
  show Reply.frame ⟨.verifyResponse, some (String.ofList (VerifyResponse.print ⟨valid⟩))⟩ = _
  rw [printed]
  rfl

/-- What becomes of a request to verify by what the provider says. -/
def judged : Outcome Bool → Reply
  | .returns valid => .frame (verdictFrame valid)
  | .refuses _ => .frame (verdictFrame false)
  | .panics text => .panicked text

/-- What the provider says is a verdict unless it panics. -/
theorem judged_eq_frame_iff {outcome : Outcome Bool} :
    (∃ valid, judged outcome = .frame (verdictFrame valid)) ↔
      ∀ text, outcome ≠ .panics text := by
  cases outcome with
  | returns valid => exact iff_of_true ⟨valid, rfl⟩ (by simp)
  | refuses error => exact iff_of_true ⟨false, rfl⟩ (by simp)
  | panics text => exact iff_of_false (by simp [judged]) (by simp)

/-- Too few shares are a verdict, and otherwise the provider says what becomes of the request. -/
theorem reply_verify (dispatcher : Dispatcher σ) (request : VerifyRequest) (state : σ) :
    ((dispatcher.verify request).run state).1.reply =
      if request.signatures.length < request.groupKey.k.toNat then .frame (verdictFrame false)
      else judged ((dispatcher.provider.verify request.groupKey request.signatures
        (Bytes.ofString request.msg)).run state).1 := by
  unfold verify
  by_cases few : request.signatures.length < request.groupKey.k.toNat
  · simp only [if_pos few]
    exact reply_verdict false _
  · simp only [if_neg few]
    rw [StateT.run_bind]
    obtain ⟨outcome, next⟩ := (dispatcher.provider.verify request.groupKey request.signatures
      (Bytes.ofString request.msg)).run state
    cases outcome with
    | returns valid => exact reply_verdict valid _
    | refuses error => exact reply_verdict false _
    | panics text => rfl

/-- The two verdicts differ. -/
theorem verdictFrame_false_ne_true : verdictFrame false ≠ verdictFrame true := by decide

/-- The provider says that shares are valid exactly if it returns so. -/
theorem judged_eq_true_iff {outcome : Outcome Bool} :
    judged outcome = .frame (verdictFrame true) ↔ outcome = .returns true := by
  cases outcome with
  | returns valid => cases valid <;> simp [judged, verdictFrame_false_ne_true]
  | refuses error => simp [judged, verdictFrame_false_ne_true]
  | panics text => simp [judged]

/-- The provider says one of the two verdicts, or nothing. -/
theorem judged_eq_frame {outcome : Outcome Bool} {frame : Frame}
    (answered : judged outcome = .frame frame) : ∃ valid, frame = verdictFrame valid := by
  cases outcome with
  | returns valid => exact ⟨valid, (Reply.frame.inj answered).symm⟩
  | refuses error => exact ⟨false, (Reply.frame.inj answered).symm⟩
  | panics text => exact nomatch answered

/-- A request is answered by the verdict that its shares are valid exactly if it has as many as its
group key declares and the provider says that they are. -/
theorem reply_verify_eq_true_iff {dispatcher : Dispatcher σ} {request : VerifyRequest} {state : σ} :
    ((dispatcher.verify request).run state).1.reply = .frame (verdictFrame true) ↔
      request.groupKey.k.toNat ≤ request.signatures.length ∧
        ((dispatcher.provider.verify request.groupKey request.signatures
          (Bytes.ofString request.msg)).run state).1 = .returns true := by
  rw [reply_verify]
  by_cases few : request.signatures.length < request.groupKey.k.toNat
  · rw [if_pos few]
    exact iff_of_false (fun same => verdictFrame_false_ne_true (Reply.frame.inj same))
      fun enough => Nat.not_le_of_lt few enough.1
  · rw [if_neg few, judged_eq_true_iff]
    exact (and_iff_right (Nat.le_of_not_lt few)).symm

/-- A request to verify is answered by a verdict or not at all. -/
theorem reply_verify_eq_frame {dispatcher : Dispatcher σ} {request : VerifyRequest} {state : σ}
    {frame : Frame} (answered : ((dispatcher.verify request).run state).1.reply = .frame frame) :
    ∃ valid, frame = verdictFrame valid := by
  rw [reply_verify] at answered
  by_cases few : request.signatures.length < request.groupKey.k.toNat
  · rw [if_pos few] at answered
    exact ⟨false, (Reply.frame.inj answered).symm⟩
  · rw [if_neg few] at answered
    exact judged_eq_frame answered

/-- A payload that is read is handled as what is read. -/
theorem dispatch_verifyRequest (dispatcher : Dispatcher σ) {text : String} {request : VerifyRequest}
    (read : (VerifyRequest.shape.read Json.depthLimit).run text = .ok request) :
    dispatcher.dispatch .verifyRequest (some text) = dispatcher.verify request := by
  show withPayload .verifyRequest (some text) _ dispatcher.verify = _
  unfold withPayload
  simp only [read]

end ThresholdDaemon.Dispatcher
