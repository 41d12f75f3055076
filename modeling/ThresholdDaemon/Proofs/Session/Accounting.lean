import ThresholdDaemon.Proofs.Dispatch.Plan
import ThresholdDaemon.Proofs.Session.Run

/-!
# What a session comes to

A session that is over has handled each frame that it received once and in order, has sent the
responses one behind the other and nothing else but the front of one whose delivery failed, and has
counted itself, each response and each failure. This holds for every provider, every way in which
reads and writes go and every moment at which a shutdown shows.
-/
namespace ThresholdDaemon.Session

variable {σ : Type}

/-- What a session that is over comes to: what the calls gave behind each of which it went on, the
exchanges that it finished, and why it ended. -/
structure Account (dispatcher : Dispatcher σ) (origin : Connection) (stops : Prop) (start : σ)
    (before : Counters) (heard : List Reception) (finished : List Exchange) (ending : Ending)
    (session : Session) (effect : Effect) (state : σ) : Prop where
  /-- The session does nothing any more. -/
  ended : session.stage = .ended
  /-- The calls that receive a frame gave this. -/
  received : (origin.receptions dispatcher.frameLimit (heard ++ ending.reception).length).1 =
    heard ++ ending.reception
  /-- The session went on behind each call but the last. -/
  goesOn : ∀ reception ∈ heard, Reception.goesOn reception
  /-- There is one exchange for each frame received, in order. -/
  frames : heard.filterMap Reception.frame? = (finished ++ ending.exchange).map Exchange.frame
  /-- Each frame was handled once, in order, and gave the response of its exchange. -/
  handled :
    (((finished ++ ending.exchange).map Exchange.frame).mapM (respond dispatcher)).run start =
      ((finished ++ ending.exchange).map Exchange.response, state)
  /-- Handling a frame is following the plan of its bytes, which asks the provider at most once. -/
  decided : ∀ frame, answer dispatcher frame =
    (plan dispatcher.frameLimit dispatcher.provider.signatureLengthBound frame).follow
      dispatcher.provider
  /-- The bytes sent are those of the responses and what was taken of one that failed. -/
  sent : effect.sent =
    (finished.filterMap Exchange.response).flatMap Frame.encode ++ ending.sent
  /-- What was taken of a response that failed is a front of it. -/
  front : ∀ frame response taken error, ending = .broken frame response taken error →
    taken <+: response.encode
  /-- The reason of the end is a true one. -/
  reason : ending.Holds origin stops (finished.filterMap Exchange.response).length
  /-- The session is counted once. -/
  sessions : (before.recordAll effect.counted).get .session = before.get .session + 1
  /-- Each response is counted once. -/
  responses : (before.recordAll effect.counted).get .response =
    before.get .response + UInt64.ofNat (finished.filterMap Exchange.response).length
  /-- Each frame without a response is counted once as an error, and so is a failure that ended the
  session. -/
  errors : (before.recordAll effect.counted).get .error =
    before.get .error +
      UInt64.ofNat (finished.countP (·.response.isNone) + ending.counted.length)

/-- The finished exchanges have sent their responses, one behind the other. -/
theorem flatMap_sent (finished : List Exchange) :
    finished.flatMap Exchange.sent =
      (finished.filterMap Exchange.response).flatMap Frame.encode := by
  induction finished with
  | nil => rfl
  | cons exchange rest ih =>
    obtain ⟨frame, response⟩ := exchange
    cases response with
    | none => simpa [Exchange.sent] using ih
    | some response => simpa [Exchange.sent] using ih

/-- The finished exchanges count no session. -/
theorem count_session (finished : List Exchange) :
    (finished.map Exchange.counter).count .session = 0 := by
  rw [List.count_eq_zero]
  intro counted
  obtain ⟨exchange, -, same⟩ := List.mem_map.mp counted
  unfold Exchange.counter at same
  split at same <;> contradiction

/-- The finished exchanges count each response. -/
theorem count_response (finished : List Exchange) :
    (finished.map Exchange.counter).count .response =
      (finished.filterMap Exchange.response).length := by
  induction finished with
  | nil => rfl
  | cons exchange rest ih =>
    obtain ⟨frame, response⟩ := exchange
    cases response <;> simp [Exchange.counter, ih]

/-- The finished exchanges count each frame without a response as an error. -/
theorem count_error (finished : List Exchange) :
    (finished.map Exchange.counter).count .error = finished.countP (·.response.isNone) := by
  induction finished with
  | nil => rfl
  | cons exchange rest ih =>
    obtain ⟨frame, response⟩ := exchange
    cases response <;> simp [Exchange.counter, ih]

/-- The end of a session counts nothing but errors. -/
theorem Ending.counted_eq (ending : Ending) :
    ending.counted = List.replicate ending.counted.length .error := by
  cases ending <;> rfl

/-- What the transcript of a session that is over says. -/
theorem Transcript.Records.account {transcript : Transcript} {dispatcher : Dispatcher σ}
    {origin : Connection} {start : σ} {stops : Prop} {session : Session} {effect : Effect}
    {state : σ} (records : transcript.Records dispatcher origin start stops session effect state)
    (concluded : session.isOver) (before : Counters) :
    ∃ heard finished ending, Account dispatcher origin stops start before heard finished ending
      session effect state := by
  obtain ⟨heard, finished, phase⟩ := transcript
  obtain ⟨fits, fresh, read, goesOn, frames, handled, outlets, delivered, reason, sent, counted⟩ :=
    records
  have ended : session.stage = .ended := by
    cases stage : session.stage <;> cases phase <;> simp_all [isOver, Phase.Fits]
  rw [ended] at fits counted
  cases phase with
  | between => exact fits.elim
  | received frame => exact fits.elim
  | answered frame response => exact fits.elim
  | concluded ending =>
    have reason := reason ending rfl
    have counted : effect.counted = .session :: finished.map Exchange.counter ++
        List.replicate ending.counted.length .error := by
      rw [← ending.counted_eq]
      exact (List.append_nil _).symm.trans counted
    refine ⟨heard, finished, ending, ended, congrArg Prod.fst read, goesOn, ?_, handled,
      answer_eq_follow dispatcher, ?_, ?_, reason, ?_, ?_, ?_⟩
    · rw [frames, List.map_append]
      rfl
    · rw [sent, ← flatMap_sent]
      rfl
    · rintro frame response taken error rfl
      rw [← reason.1]
      exact response.deliver_written_prefix _ _
    · rw [Counters.get_recordAll, counted]
      simp [count_session, List.count_replicate]
    · rw [Counters.get_recordAll, counted]
      simp [count_response, List.count_replicate]
    · rw [Counters.get_recordAll, counted]
      simp [count_error]

/-- Serving a connection until the session is over comes to what an account says. -/
theorem account_of_isOver (dispatcher : Dispatcher σ) (origin : Connection) (moment : Option Nat)
    (small : dispatcher.frameLimit < halfWordCount - 1) (start : σ) (before : Counters)
    (fuel : Nat) (concluded : ((serve dispatcher moment origin fuel).run start).1.1.isOver) :
    ∃ heard finished ending,
      Account dispatcher origin moment.isSome start before heard finished ending
        ((serve dispatcher moment origin fuel).run start).1.1
        ((serve dispatcher moment origin fuel).run start).1.2
        ((serve dispatcher moment origin fuel).run start).2 := by
  have fits : FrameBuffer.capacityFor dispatcher.frameLimit ≤ allocationMax := by
    simp only [FrameBuffer.capacityFor, allocationMax]
    omega
  obtain ⟨transcript, records⟩ := (Transcript.Records.accept dispatcher origin start
    moment.isSome).runFrom fits fuel 0
  exact records.account concluded before

/-- Serving a connection comes to what an account says whenever the session is over, and it is over
within its budget once the peer has stopped writing, and soon after a shutdown shows. -/
theorem serve_accounted (dispatcher : Dispatcher σ) (origin : Connection) (moment : Option Nat)
    (small : dispatcher.frameLimit < halfWordCount - 1) (start : σ) (before : Counters) :
    (∀ fuel, ((serve dispatcher moment origin fuel).run start).1.1.isOver →
      ∃ heard finished ending,
        Account dispatcher origin moment.isSome start before heard finished ending
          ((serve dispatcher moment origin fuel).run start).1.1
          ((serve dispatcher moment origin fuel).run start).1.2
          ((serve dispatcher moment origin fuel).run start).2) ∧
      (origin.mayWrite = false → ∀ fuel, (accept dispatcher.frameLimit origin).budget ≤ fuel →
        ((serve dispatcher moment origin fuel).run start).1.1.isOver) ∧
      ∀ shown, moment = some shown → ∀ fuel, shown + 8 ≤ fuel →
        ((serve dispatcher moment origin fuel).run start).1.1.isOver := by
  refine ⟨?_, ?_, ?_⟩
  · intro fuel concluded
    exact account_of_isOver dispatcher origin moment small start before fuel concluded
  · intro silent fuel enough
    have limit : (accept dispatcher.frameLimit origin).buffer.limit < wordMax :=
      Nat.lt_trans small (by decide)
    exact isOver_runFrom_of_silent dispatcher moment fuel 0 _ start limit silent enough
  · rintro shown rfl fuel enough
    exact isOver_runFrom_of_shutdown dispatcher shown fuel 0 _ start enough

/-- A peer that writes half a frame and then waits is served until the shutdown, by a provider that
would panic. -/
theorem serve_accounted_waiting :
    let provider : Provider Unit :=
      ⟨fun _ _ _ => pure (.panics "deal"), fun _ _ => pure (.panics "sign"),
        fun _ _ _ => pure (.panics "verify"), 6⟩
    let origin : Connection := { incoming := [.ready [123, 34]], mayWrite := true }
    ∀ fuel, 28 ≤ fuel → ∃ heard finished ending,
      Account ⟨provider, 64⟩ origin True () {} heard finished ending
        ((serve ⟨provider, 64⟩ (some 20) origin fuel).run ()).1.1
        ((serve ⟨provider, 64⟩ (some 20) origin fuel).run ()).1.2
        ((serve ⟨provider, 64⟩ (some 20) origin fuel).run ()).2 := by
  intro provider origin fuel enough
  obtain ⟨accounted, -, ends⟩ := serve_accounted ⟨provider, 64⟩ origin (some 20)
    (by decide : 64 < halfWordCount - 1) () {}
  simpa using accounted fuel (ends 20 rfl fuel enough)

end ThresholdDaemon.Session
